/-
DatamodelTypes.Page.Declaration — the classes of a generated page.

A declaration is data until it is rendered. Its text is a block, a class
line with entries below it, and only the entries are indented: nothing
else on a page depends on the options.
-/
import DatamodelTypes.Datamodel
import DatamodelTypes.Page.Imports
import DatamodelTypes.Text.UpperCase

namespace DatamodelTypes.Page

/-! ## 1. The types of the primitives -/

/-- A type that Python or its standard library has for a primitive. -/
inductive Builtin where
  | str
  | int
  | bool
  | datetime
  | any
  deriving DecidableEq, Repr

namespace Builtin

/-- The name of a type in a type hint. -/
def name : Builtin → String
  | .str => "str"
  | .int => "int"
  | .bool => "bool"
  | .datetime => "datetime"
  | .any => "Any"

/-- What has to be imported before a type can be named. -/
def request? : Builtin → Option Request
  | .datetime => some ⟨"datetime", "datetime"⟩
  | .any => some ⟨"typing", "Any"⟩
  | .str | .int | .bool => none

/-- The type of a primitive. -/
def ofScalar (scalar : String) : Except Failure Builtin :=
  if scalar = "String" then .ok .str
  else if scalar = "Int" then .ok .int
  else if scalar = "Boolean" then .ok .bool
  else if scalar = "DateTime" then .ok .datetime
  else if scalar = "Json" then .ok .any
  else .error (.unknownScalar scalar)

end Builtin

/-! ## 2. Type hints -/

/-- The type that a hint is built on. -/
inductive BaseType where
  | builtin (type : Builtin)
  | declared (name : String)
  deriving DecidableEq, Repr

/-- The type of an attribute. -/
structure TypeHint where
  base : BaseType
  isList : Bool
  isOptional : Bool
  deriving DecidableEq, Repr

/-- The name of a base type. -/
def BaseType.name : BaseType → String
  | .builtin type => type.name
  | .declared name => name

/-- What a base type needs imported. A declared type is on the page. -/
def BaseType.requests : BaseType → List Request
  | .builtin type => type.request?.toList
  | .declared _ => []

/-- A hint as text. An optional list may be absent as a whole. -/
def TypeHint.render (hint : TypeHint) : String :=
  let items :=
    if hint.isList then "list[" ++ hint.base.name ++ "]" else hint.base.name
  if hint.isOptional then "Optional[" ++ items ++ "]" else items

/-- What a hint needs imported. -/
def TypeHint.requests (hint : TypeHint) : List Request :=
  hint.base.requests ++ if hint.isOptional then [⟨"typing", "Optional"⟩] else []

/-! ## 3. Declarations -/

/-- An attribute of a record. -/
structure Attribute where
  name : String
  hint : TypeHint
  deriving DecidableEq, Repr

/-- A class of the page. -/
inductive Declaration where
  | enumeration (name : String) (values : List String)
  | record (name : String) (attributes : List Attribute)
  deriving DecidableEq, Repr

/-- The name of the class. -/
def Declaration.name : Declaration → String
  | .enumeration name _ => name
  | .record name _ => name

/-- What a declaration needs imported, in the order of its text from
inside out. -/
def Declaration.requests : Declaration → List Request
  | .enumeration _ _ => [⟨"enum", "Enum"⟩]
  | .record _ attributes =>
    attributes.flatMap (·.hint.requests) ++ [⟨"typing", "TypedDict"⟩]

/-! ## 4. Member names -/

/-- An ASCII capital as the start of a word: an underscore and the small
letter. Acronyms get no special treatment. -/
def wordStart (c : Char) : List Char :=
  if c.isUpper then ['_', c.toLower] else [c]

/-- The member name of an enum value: the value in upper-case letters, with
an underscore before every letter that was a capital, so that `onHold`
becomes `ON_HOLD`. A value without anything to raise is kept: its capitals
are no word starts. -/
def memberName (value : String) : String :=
  if value = Text.upper value then value
  else Text.upper (String.ofList (value.toList.flatMap wordStart))

/-! ## 5. Blocks -/

/-- The text of a declaration before it is laid out. -/
structure Block where
  header : String
  entries : List String
  deriving DecidableEq, Repr

/-- The entry of an enum value. -/
def memberEntry (value : String) : String :=
  memberName value ++ " = \"" ++ value ++ "\""

/-- The entry of an attribute. -/
def Attribute.entry (attr : Attribute) : String :=
  attr.name ++ ": " ++ attr.hint.render

/-- The block of a declaration. -/
def Declaration.block : Declaration → Block
  | .enumeration name values => ⟨"class " ++ name ++ "(str, Enum):", values.map memberEntry⟩
  | .record name attributes =>
    ⟨"class " ++ name ++ "(TypedDict):", attributes.map (·.entry)⟩

/-- A block as text: its entries stand one level below its class line. -/
def Block.render (options : Options) (block : Block) : String :=
  block.header ++ "\n" ++ "\n".intercalate (block.entries.map (options.indent · 1))

/-- A declaration as text. -/
def Declaration.render (options : Options) (declaration : Declaration) : String :=
  declaration.block.render options

end DatamodelTypes.Page
