/-
DatamodelTypes.Page — a generated page of Python class declarations.

A page has three sections. Its imports follow from its declarations. They
are collected with models before composite types, although the section of
the types stands first.
-/
import DatamodelTypes.Page.Declaration

namespace DatamodelTypes

/-- The declarations of a page, by section. -/
structure Page where
  enums : List Page.Declaration
  types : List Page.Declaration
  models : List Page.Declaration
  deriving DecidableEq, Repr

namespace Page

/-- The comment that a page starts with. -/
def banner : String :=
  "# Generated by prisma-to-python - https://github.com/jmsv/prisma-to-python#readme\n" ++
    "# Do not edit this file directly!"

/-- What the page needs imported, in the order in which it is asked for. -/
def requests (page : Page) : List Request :=
  (page.enums ++ page.models ++ page.types).flatMap (·.requests)

/-- The imports of the page. -/
def imports (page : Page) : Imports :=
  .ofRequests page.requests

/-- A section without its heading. -/
def renderSection (options : Options) (declarations : List Declaration) : String :=
  "\n\n".intercalate (declarations.map (·.render options))

/-- The page as text. -/
def render (options : Options) (page : Page) : String :=
  banner ++ "\n\n" ++ page.imports.render ++
    "\n\n# Enums\n\n" ++ renderSection options page.enums ++
    "\n\n# Types\n\n" ++ renderSection options page.types ++
    "\n\n# Models\n\n" ++ renderSection options page.models ++ "\n"

end Page

end DatamodelTypes
