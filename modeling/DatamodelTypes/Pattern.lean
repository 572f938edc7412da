/-
DatamodelTypes.Pattern — which texts are patterns.

A pattern is a regular expression. Here it is only read, never matched,
and `isPattern` says whether there is anything to object to: a bracket
without its partner, an operator with nothing to repeat, an escape that
stands for nothing, a name that two groups have, more levels of nesting
than allowed.

Patterns are written between braces and cannot hold a closing brace, so
counted repetition, which needs one, is not part of the language; nor are
references back and looking ahead.
-/
import DatamodelTypes.Pattern.CharClass

namespace DatamodelTypes.Pattern

/-! ## 1. Opening brackets -/

/-- What an opening bracket starts. A group can have a name, or flags of its
own; brackets around flags alone set them for what follows. -/
inductive Opening where
  /-- A group that a closing bracket ends, and the mode inside it. -/
  | group (name : Option (List Char)) (mode : Mode)
  /-- Flags, already at their end, and the mode behind them. -/
  | flags (mode : Mode)
  deriving DecidableEq, Repr

namespace Opening

/-- Whether a text can name a group. -/
def isName : List Char → Bool
  | [] => false
  | c :: cs =>
    (c = '_' || Text.isAlphabetic c) &&
      cs.all fun c => c = '_' || c = '.' || c = '[' || c = ']' || Text.isAlphanumeric c

/-- A group with a name, read at the name, and what follows. -/
def named? (mode : Mode) (cs : List Char) : Option (Opening × List Char) :=
  let name := cs.takeWhile (· ≠ '>')
  match cs.dropWhile (· ≠ '>') with
  | _ :: rest => if isName name then some (.group (some name) mode, rest) else none
  | [] => none

/-- A group with flags, or flags alone, read at the flags, and what
follows. -/
def flagged? (mode : Mode) (cs : List Char) : Option (Opening × List Char) :=
  let isEnd (c : Char) : Bool := c = ':' || c = ')'
  let letters := cs.takeWhile (!isEnd ·)
  if !Mode.areFlags letters then none
  else
    match cs.dropWhile (!isEnd ·) with
    | ':' :: rest => some (.group none (mode.withFlags true letters), rest)
    | _ :: rest => if letters = [] then none else some (.flags (mode.withFlags true letters), rest)
    | [] => none

/-- What an opening bracket starts, read behind it, and what follows. -/
def read? (mode : Mode) (cs : List Char) : Option (Opening × List Char) :=
  match mode.skip cs with
  | '?' :: 'P' :: '<' :: rest => named? mode rest
  | '?' :: '<' :: rest => named? mode rest
  | '?' :: rest => flagged? mode rest
  | rest => some (.group none mode, rest)

end Opening

/-! ## 2. Levels -/

/-- A part of an alternative: how deep it nests, and whether an operator
can repeat it. -/
structure Part where
  depth : Nat
  isRepeatable : Bool
  deriving DecidableEq, Repr

/-- What is read of a group, or of the whole pattern. -/
structure Level where
  mode : Mode := {}
  /-- How deep the alternatives in front of the present one nest. -/
  alternatives : List Nat := []
  /-- The parts of the present alternative, the last one first. -/
  parts : List Part := []
  deriving DecidableEq, Repr

namespace Level

/-- How deep a level nests. -/
def depth (level : Level) : Nat :=
  depthOf (depthOf (level.parts.map (·.depth)) :: level.alternatives)

/-- The level with one more part, which can be repeated. -/
def add (level : Level) (depth : Nat) : Level :=
  { level with parts := ⟨depth, true⟩ :: level.parts }

/-- The level behind flags. -/
def withMode (level : Level) (mode : Mode) : Level :=
  { level with mode, parts := ⟨0, false⟩ :: level.parts }

/-- The level at the start of its next alternative. -/
def nextAlternative (level : Level) : Level :=
  { level with
    alternatives := depthOf (level.parts.map (·.depth)) :: level.alternatives, parts := [] }

/-- The level with its last part repeated, if it has one that can be. -/
def repeated? (level : Level) : Option Level :=
  match level.parts with
  | ⟨depth, true⟩ :: parts => some { level with parts := ⟨depth + 1, true⟩ :: parts }
  | _ => none

end Level

/-! ## 3. Reading -/

/-- How deep a pattern may nest. -/
def greatestDepth : Nat := 250

/-- How far a pattern is read. -/
structure Reading where
  /-- The levels around the present one, the innermost first. -/
  outer : List Level := []
  inner : Level := {}
  /-- The names of the groups so far. -/
  names : List (List Char) := []

namespace Reading

/-- Enters a group. No two groups have the same name. -/
def enter? (reading : Reading) (name : Option (List Char)) (mode : Mode) : Option Reading :=
  let inside : Reading :=
    { reading with outer := reading.inner :: reading.outer, inner := { mode } }
  match name with
  | none => some inside
  | some name =>
    if reading.names.contains name then none else some { inside with names := name :: reading.names }

/-- Leaves a group, if one is open. -/
def leave? (reading : Reading) : Option Reading :=
  match reading.outer with
  | [] => none
  | level :: outer =>
    some { reading with outer, inner := level.add (reading.inner.depth + 1) }

/-- What follows an operator of repetition and its mark for as few times as
possible. -/
def behindOperator : List Char → List Char
  | '?' :: cs => cs
  | cs => cs

/-- One step of reading, at a character that is not passed over. -/
def step? (reading : Reading) (cs : List Char) : Option (Reading × List Char) :=
  let mode := reading.inner.mode
  match cs with
  | '(' :: cs => do
    match ← Opening.read? mode cs with
    | (.group name mode, rest) => return (← reading.enter? name mode, rest)
    | (.flags mode, rest) => return ({ reading with inner := reading.inner.withMode mode }, rest)
  | ')' :: cs => do return (← reading.leave?, cs)
  | '|' :: cs => some ({ reading with inner := reading.inner.nextAlternative }, cs)
  | '*' :: cs | '+' :: cs | '?' :: cs => do
    return ({ reading with inner := ← reading.inner.repeated? }, behindOperator cs)
  | '{' :: _ => none
  | '[' :: cs => do
    let (depth, rest) ← CharClass.behindBracket? mode cs
    return ({ reading with inner := reading.inner.add depth }, rest)
  | cs => do
    let (atom, rest) ← Atom.read? mode cs
    if atom.fits mode then some ({ reading with inner := reading.inner.add 0 }, rest) else none

/-- Reads a text to its end. Each step takes at least one character. -/
def run? : (steps : Nat) → Reading → List Char → Option Reading
  | steps, reading, cs =>
    match reading.inner.mode.skip cs with
    | [] => some reading
    | rest =>
      match steps with
      | 0 => none
      | steps + 1 =>
        match reading.step? rest with
        | some (reading, rest) => reading.run? steps rest
        | none => none

/-- Whether a pattern can end here: no group is open, and it does not nest
too deep. -/
def isComplete (reading : Reading) : Bool :=
  reading.outer.isEmpty && reading.inner.depth ≤ greatestDepth

end Reading

/-- Whether a text is a pattern. -/
def isPattern (cs : List Char) : Bool :=
  ((Reading.run? cs.length {} cs).any (·.isComplete))

end DatamodelTypes.Pattern
