/-
DatamodelTypes.Pattern.Mode — how the next part of a pattern is read.

Flags switch the mode. They hold for what follows them, up to the end of
the group that they stand in, and for all alternatives from there on.
-/
import DatamodelTypes.Text.Parts

namespace DatamodelTypes.Pattern

/-- The settings that decide what a pattern can say. Patterns are read with
no table of the properties of characters at hand, so what asks for one is
refused: letters of either case and kinds of characters, while a pattern
is about characters; and whatever could be met inside a character, while
it is about bytes. -/
structure Mode where
  /-- Blanks say nothing, and a number sign starts a remark that the line
  ends. -/
  spaced : Bool := false
  /-- Letters stand for both of their cases. -/
  caseless : Bool := false
  /-- The pattern is about bytes. -/
  bytewise : Bool := false
  deriving DecidableEq, Repr

namespace Mode

/-! ## 1. Flags -/

/-- The letters of the flags, and the dash that takes away the flags behind
it. -/
def flagLetters : List Char :=
  "imsUuRx-".toList

/-- Whether letters are flags: none comes twice, and the dash is not the
last one. -/
def areFlags (letters : List Char) : Bool :=
  letters.all (flagLetters.contains ·) && decide letters.Nodup && letters.getLast? != some '-'

/-- The mode behind flags. `given` says whether they are given or taken
away. Flags about how a pattern matches leave the mode as it is. -/
def withFlags (given : Bool) (mode : Mode) : List Char → Mode
  | [] => mode
  | '-' :: letters => mode.withFlags false letters
  | 'i' :: letters => { mode with caseless := given }.withFlags given letters
  | 'u' :: letters => { mode with bytewise := !given }.withFlags given letters
  | 'x' :: letters => { mode with spaced := given }.withFlags given letters
  | _ :: letters => mode.withFlags given letters

/-! ## 2. Blanks -/

/-- What follows blanks and remarks. -/
def behindBlanks : (inRemark : Bool) → List Char → List Char
  | _, [] => []
  | true, c :: cs => behindBlanks (c ≠ '\n') cs
  | false, c :: cs =>
    if Text.isBlank c then behindBlanks false cs
    else if c = '#' then behindBlanks true cs
    else c :: cs

/-- What follows the blanks and remarks that the mode passes over. -/
def skip (mode : Mode) (cs : List Char) : List Char :=
  if mode.spaced then behindBlanks false cs else cs

/-- The character that is met when looking ahead: behind blanks, one number
sign and blanks again, or the very next one if nothing else is left. -/
def ahead? (mode : Mode) (cs : List Char) : Option Char :=
  if mode.spaced then
    let rest : List Char :=
      match Text.trimStart cs with
      | '#' :: rest => Text.trimStart rest
      | rest => rest
    rest.head?.or cs.head?
  else cs.head?

end Mode

end DatamodelTypes.Pattern
