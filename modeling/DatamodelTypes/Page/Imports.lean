/-
DatamodelTypes.Page.Imports — the imports of a generated page.

Imports are collected one request at a time. A module is listed where it
was first asked for, and so is each symbol within its module; asking
again changes nothing. So every module has one line, no line is empty,
and the order depends on the requests alone.
-/

namespace DatamodelTypes.Page

/-- A request for one symbol of a module. -/
structure Request where
  source : String
  symbol : String
  deriving DecidableEq, Repr

/-- The symbols that one module is asked for. -/
structure ImportLine where
  source : String
  symbols : List String
  deriving DecidableEq, Repr

/-- A list of import lines that is being collected. -/
structure Imports where
  lines : List ImportLine := []
  deriving DecidableEq, Repr

namespace Imports

/-- A symbol behind others, unless it is one of them. -/
def addSymbol (symbol : String) (symbols : List String) : List String :=
  if symbol ∈ symbols then symbols else symbols ++ [symbol]

/-- Import lines with one more request. -/
def addToLines (request : Request) : List ImportLine → List ImportLine
  | [] => [⟨request.source, [request.symbol]⟩]
  | line :: rest =>
    if line.source = request.source then
      ⟨line.source, addSymbol request.symbol line.symbols⟩ :: rest
    else line :: addToLines request rest

/-- The imports with one more request. -/
def add (imports : Imports) (request : Request) : Imports :=
  ⟨addToLines request imports.lines⟩

/-- The imports that a list of requests leads to. -/
def ofRequests (requests : List Request) : Imports :=
  requests.foldl add {}

/-- Whether a symbol of a module is imported. -/
def has (imports : Imports) (request : Request) : Bool :=
  imports.lines.any fun line => line.source == request.source && line.symbols.contains request.symbol

/-- The number of modules. -/
def size (imports : Imports) : Nat :=
  imports.lines.length

/-- Whether nothing is imported. -/
def isEmpty (imports : Imports) : Bool :=
  imports.lines.isEmpty

/-- An import line as text. -/
def renderLine (line : ImportLine) : String :=
  "from " ++ line.source ++ " import " ++ ", ".intercalate line.symbols

/-- The import block: a line for each module. -/
def render (imports : Imports) : String :=
  "\n".intercalate (imports.lines.map renderLine)

/-! ## Lemmas -/

theorem ofRequests_append (xs : List Request) (x : Request) :
    ofRequests (xs ++ [x]) = (ofRequests xs).add x := by
  simp [ofRequests]

theorem mem_addSymbol (wanted symbol : String) (symbols : List String) :
    wanted ∈ addSymbol symbol symbols ↔ wanted ∈ symbols ∨ wanted = symbol := by
  unfold addSymbol
  split <;> grind

/-- A request is granted, and no other comes or goes with it. -/
theorem has_add (imports : Imports) (request wanted : Request) :
    (imports.add request).has wanted = (imports.has wanted || request == wanted) := by
  obtain ⟨lines⟩ := imports
  obtain ⟨source, symbol⟩ := request
  obtain ⟨source', symbol'⟩ := wanted
  rw [Bool.eq_iff_iff]
  simp only [add, has, List.any_eq_true, Bool.and_eq_true, beq_iff_eq, List.contains_iff_mem,
    Bool.or_eq_true, Request.mk.injEq]
  induction lines with
  | nil => simp [addToLines, eq_comm]
  | cons line rest ih =>
    by_cases h : line.source = source
    · simp only [addToLines, h, if_true, List.mem_cons, exists_eq_or_imp, mem_addSymbol]
      grind
    · simp only [addToLines, h, if_false, List.mem_cons, exists_eq_or_imp, ih, or_assoc]

end Imports

end DatamodelTypes.Page
