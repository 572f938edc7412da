/-
DatamodelTypes.Pattern.Atom — the smallest parts of a pattern.

An atom is a single character or sign, or an escape behind a backslash.
Whether it can be used depends on the mode and on whether it stands inside
a class.
-/
import DatamodelTypes.Pattern.Mode
import DatamodelTypes.Text.Hexadecimal

namespace DatamodelTypes.Pattern

/-- A smallest part of a pattern. -/
inductive Atom where
  /-- One character. `ofByte` says that it is written as the number of a
  byte. -/
  | character (c : Char) (ofByte : Bool)
  /-- The digits, the blanks or the characters of words, or all others. -/
  | kind (others : Bool)
  /-- Any character. -/
  | any
  /-- The start or the end of a line or of the text. -/
  | edge
  /-- A place where a word starts or ends, or one where none does. -/
  | wordEdge
  deriving DecidableEq, Repr

namespace Atom

/-! ## 1. Where an atom can stand -/

/-- Whether an atom can be used outside a class. -/
def fits (mode : Mode) : Atom → Bool
  | .character c ofByte =>
    if mode.bytewise then !ofByte || c.toNat < 0x80 else !mode.caseless
  | .kind others => mode.bytewise && !others
  | .any => !mode.bytewise
  | .edge => true
  | .wordEdge => mode.bytewise

/-- Whether an atom can be a member of a class. A class of bytes has ASCII
members only. -/
def fitsClass (mode : Mode) : Atom → Bool
  | .character c _ => if mode.bytewise then c.toNat < 0x80 else !mode.caseless
  | .kind others => mode.bytewise && !others
  | _ => false

/-! ## 2. Escapes -/

/-- The number that so many hexadecimal digits write behind `start`, and
what follows. -/
def hexNumber? (mode : Mode) : (digits start : Nat) → List Char → Option (Nat × List Char)
  | 0, start, cs => some (start, cs)
  | digits + 1, start, cs =>
    match mode.skip cs with
    | [] => none
    | c :: rest =>
      match Text.hexDigit? c with
      | some digit => hexNumber? mode digits (start * 16 + digit) rest
      | none => none

/-- The character that so many hexadecimal digits write, and what follows. -/
def numbered? (mode : Mode) (digits : Nat) (cs : List Char) : Option (Atom × List Char) := do
  let (n, rest) ← hexNumber? mode digits 0 cs
  if n.isValidChar then some (.character (Char.ofNat n) (digits = 2), rest) else none

/-- Whether a character stands for itself behind a backslash: signs do,
letters and digits do not. -/
def escapesItself (c : Char) : Bool :=
  c.toNat < 0x80 && !c.isAlphanum

/-- What an escape of one character stands for. -/
def escape? (c : Char) : Option Atom :=
  match c with
  | 'd' | 's' | 'w' => some (.kind false)
  | 'D' | 'S' | 'W' => some (.kind true)
  | 'A' | 'z' => some .edge
  | 'b' | 'B' | '<' | '>' => some .wordEdge
  | 'a' => some (.character '\x07' false)
  | 't' => some (.character '\t' false)
  | 'n' => some (.character '\n' false)
  | 'v' => some (.character '\x0b' false)
  | 'f' => some (.character '\x0c' false)
  | 'r' => some (.character '\r' false)
  | _ => if escapesItself c then some (.character c false) else none

/-- The escape behind a backslash, and what follows. -/
def escaped? (mode : Mode) : List Char → Option (Atom × List Char)
  | [] => none
  | 'x' :: cs => numbered? mode 2 cs
  | 'u' :: cs => numbered? mode 4 cs
  | 'U' :: cs => numbered? mode 8 cs
  | c :: cs => (escape? c).map fun atom => (atom, cs)

/-! ## 3. Atoms as text -/

/-- The next atom outside a class, and what follows. -/
def read? (mode : Mode) : List Char → Option (Atom × List Char)
  | [] => none
  | '\\' :: cs => escaped? mode cs
  | '.' :: cs => some (.any, cs)
  | '^' :: cs => some (.edge, cs)
  | '$' :: cs => some (.edge, cs)
  | c :: cs => some (.character c false, cs)

/-- The next atom inside a class, where signs stand for themselves. -/
def readMember? (mode : Mode) : List Char → Option (Atom × List Char)
  | [] => none
  | '\\' :: cs => escaped? mode cs
  | c :: cs => some (.character c false, cs)

end Atom

end DatamodelTypes.Pattern
