/-
DatamodelTypes.Pattern.CharClass — sets of characters in square brackets.

A set has members: characters, ranges, kinds of characters, classes with a
name between colons, and further sets in brackets. Two signs in a row cut
what one set has in common with another (`&&`), what it has more (`--`) or
what only one of them has (`~~`).
-/
import DatamodelTypes.Pattern.Atom

namespace DatamodelTypes.Pattern

/-- How deep several parts nest that stand together: as deep as the
deepest, and one level more unless there is only one. -/
def depthOf : List Nat → Nat
  | [] => 0
  | [depth] => depth
  | depths => depths.foldl max 0 + 1

namespace CharClass

/-! ## 1. Members -/

/-- The classes that have a name. -/
def names : List String :=
  ["alnum", "alpha", "ascii", "blank", "cntrl", "digit", "graph", "lower", "print", "punct", "space",
    "upper", "word", "xdigit"]

/-- A class by its name, read behind the opening bracket: whether all other
characters are meant, and what follows. -/
def named? (cs : List Char) : Option (Bool × List Char) :=
  match cs with
  | ':' :: cs =>
    let others := cs.head? == some '^'
    let cs := if others then cs.drop 1 else cs
    match cs.dropWhile (· ≠ ':') with
    | ':' :: ']' :: rest =>
      if names.contains (String.ofList (cs.takeWhile (· ≠ ':'))) then some (others, rest) else none
    | _ => none
  | _ => none

/-- Whether a class with a name can be a member, meant as it is or as all
other characters. -/
def fitsNamed (mode : Mode) (others : Bool) : Bool :=
  if mode.bytewise then !others else !mode.caseless

/-- What follows a member that is a character, a kind of characters, or a
range. A dash makes a range unless the set ends behind it or a second dash
follows. -/
def behindMember? (mode : Mode) (cs : List Char) : Option (List Char) := do
  let (first, rest) ← Atom.readMember? mode cs
  if !first.fitsClass mode then none
  else
    match mode.skip rest with
    | [] => none
    | '-' :: more =>
      if mode.ahead? more = some ']' ∨ mode.ahead? more = some '-' then some ('-' :: more)
      else
        let (last, rest) ← Atom.readMember? mode (mode.skip more)
        match first, last with
        | .character low _, .character high _ =>
          if last.fitsClass mode && low ≤ high then some rest else none
        | _, _ => none
    | rest => some rest

/-! ## 2. Sets -/

/-- A set as far as it is read. -/
structure OpenSet where
  /-- How deep the sets in front of the last operator nest. -/
  before : Option Nat := none
  /-- How deep the members behind it nest. -/
  members : List Nat := []
  /-- Nothing but dashes was read, so a dash stands for itself. -/
  isFresh : Bool := true

namespace OpenSet

/-- How deep a set nests. -/
def depth (set : OpenSet) : Nat :=
  match set.before with
  | none => depthOf set.members
  | some before => depthOf [before, depthOf set.members]

/-- The set with one more member. -/
def add (set : OpenSet) (depth : Nat) : OpenSet :=
  { set with members := depth :: set.members, isFresh := false }

/-- The set in front of an operator. -/
def operand (set : OpenSet) : OpenSet :=
  { before := some set.depth, members := [], isFresh := false }

end OpenSet

/-- What follows the opening bracket of a set and its sign of negation. Of
bytes none can be left out, since some of the others are no characters. -/
def behindOpening? (mode : Mode) (cs : List Char) : Option (List Char) :=
  match mode.skip cs with
  | '^' :: rest => if mode.bytewise then none else some rest
  | rest => some rest

/-- How deep a set nests, read behind its opening, and what follows. Each
step takes at least one character. -/
def read? (mode : Mode) : (steps : Nat) → (outer : List OpenSet) → OpenSet → List Char →
    Option (Nat × List Char)
  | 0, _, _, _ => none
  | steps + 1, outer, set, cs =>
    match mode.skip cs with
    | [] => none
    | c :: cs =>
      if set.isFresh && (c = '-' || (c = ']' && set.members = [])) then
        if (Atom.character c false).fitsClass mode then
          read? mode steps outer { set.add 0 with isFresh := c = '-' } cs
        else none
      else
        match c, cs with
        | ']', cs =>
          match outer with
          | [] => some (set.depth + 1, cs)
          | next :: outer => read? mode steps outer (next.add (set.depth + 1)) cs
        | '[', cs =>
          match named? cs with
          | some (others, rest) =>
            if fitsNamed mode others then
              read? mode steps outer (set.add 0) rest
            else none
          | none =>
            match behindOpening? mode cs with
            | some rest => read? mode steps ({ set with isFresh := false } :: outer) {} rest
            | none => none
        | '&', '&' :: cs => read? mode steps outer set.operand cs
        | '-', '-' :: cs => read? mode steps outer set.operand cs
        | '~', '~' :: cs => read? mode steps outer set.operand cs
        | c, cs =>
          match behindMember? mode (c :: cs) with
          | some rest => read? mode steps outer (set.add 0) rest
          | none => none

/-- How deep the set behind an opening bracket nests, and what follows. -/
def behindBracket? (mode : Mode) (cs : List Char) : Option (Nat × List Char) := do
  let rest ← behindOpening? mode cs
  read? mode (rest.length + 1) [] {} rest

end CharClass

end DatamodelTypes.Pattern
