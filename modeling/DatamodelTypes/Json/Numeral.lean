/-
DatamodelTypes.Json.Numeral — numbers as they are written, and what they
stand for.

`scanNumeral` checks the form of a number and keeps its digits;
`Numeral.value` computes. The two are apart because a number that nobody
asks for is only checked for its form.

A number without fraction and exponent that fits 64 bits is an integer.
For all others the significand is collected digit by digit as long as it
stays below `2^64`, the digits dropped behind that point only shift the
exponent, and the double is the significand multiplied or divided by a
power of ten. So the last bits of a long number may differ from the
nearest double: they are part of the format's reading here, not an error.
-/
import DatamodelTypes.Decimal
import DatamodelTypes.Json.Cause
import DatamodelTypes.Text.Position

namespace DatamodelTypes.Json

open Text (Fault byteCount)

/-! ## 1. The form of a number -/

/-- The parts of a written number. Without a fraction or an exponent the
part is absent; a part that is there has at least one digit. -/
structure Numeral where
  negative : Bool
  whole : List Char
  fraction : Option (List Char)
  /-- Whether the exponent is negative, and its digits. -/
  exponent : Option (Bool × List Char)
  deriving DecidableEq, Repr

/-- Splits off the digits that a text starts with. -/
def spanDigits (cs : List Char) : List Char × List Char :=
  (cs.takeWhile Char.isDigit, cs.dropWhile Char.isDigit)

theorem spanDigits_append (cs : List Char) : (spanDigits cs).1 ++ (spanDigits cs).2 = cs :=
  List.takeWhile_append_dropWhile

theorem isDigit_of_mem_spanDigits {c : Char} {cs : List Char} (h : c ∈ (spanDigits cs).1) :
    c.isDigit = true :=
  List.all_eq_true.1 List.all_takeWhile c h

/-- At least one digit. A text that ends instead is reported as `atEnd`. -/
def scanDigits (atEnd : Cause) (cs : List Char) : Except (Fault Cause) (List Char × List Char) :=
  match cs with
  | [] => .error (.next atEnd cs)
  | c :: _ => if c.isDigit then .ok (spanDigits cs) else .error (.next .invalidNumber cs)

/-- The digits before the point: a zero stands alone. -/
def scanWhole (atEnd : Cause) : List Char → Except (Fault Cause) (List Char × List Char)
  | '0' :: rest =>
    match rest with
    | c :: _ => if c.isDigit then .error (.next .invalidNumber rest) else .ok (['0'], rest)
    | [] => .ok (['0'], [])
  | cs => scanDigits atEnd cs

/-- The fraction, if a point follows. -/
def scanFraction (atEnd : Cause) :
    List Char → Except (Fault Cause) (Option (List Char) × List Char)
  | '.' :: rest => do
    let (digits, rest) ← scanDigits atEnd rest
    return (some digits, rest)
  | rest => .ok (none, rest)

/-- The sign of an exponent, which may be left out. -/
def scanExponentSign : List Char → Bool × List Char
  | '+' :: rest => (false, rest)
  | '-' :: rest => (true, rest)
  | rest => (false, rest)

/-- The exponent, if an `e` follows. -/
def scanExponent (atEnd : Cause) (cs : List Char) :
    Except (Fault Cause) (Option (Bool × List Char) × List Char) :=
  match cs with
  | c :: rest =>
    if c = 'e' ∨ c = 'E' then do
      let (negative, rest) := scanExponentSign rest
      let (digits, rest) ← scanDigits atEnd rest
      return (some (negative, digits), rest)
    else .ok (none, cs)
  | [] => .ok (none, [])

/-- A number, from its sign or first digit on. -/
def scanNumeral (atEnd : Cause) (cs : List Char) : Except (Fault Cause) (Numeral × List Char) := do
  let (negative, rest) := match cs with
    | '-' :: rest => (true, rest)
    | _ => (false, cs)
  let (whole, rest) ← scanWhole atEnd rest
  let (fraction, rest) ← scanFraction atEnd rest
  let (exponent, rest) ← scanExponent atEnd rest
  return (⟨negative, whole, fraction, exponent⟩, rest)

/-! ## 2. The value of a number -/

/-- What a significand stays below. -/
def significandBound : Nat := 0x10000000000000000

/-- The magnitude that a negative integer may have at most. -/
def integerBound : Nat := 0x8000000000000000

/-- What an exponent stays below. -/
def exponentBound : Nat := 0x80000000

/-- Appends digits to a number as long as it stays below `bound`. Answers
the number and the digits that were left. -/
def collect (bound : Nat) : Nat → List Char → Nat × List Char
  | total, [] => (total, [])
  | total, c :: cs =>
    let total' := total * 10 + Decimal.digitValue c
    if total' < bound then collect bound total' cs else (total, c :: cs)

/-- The double nearest to `10^n`, for `n ≤ 308`. -/
def powerOfTen (n : Nat) : Float :=
  Float.ofScientific 1 false n

/-- Divides by `10^n`, in steps of at most `10^308`. -/
def shiftDown (x : Float) (n : Nat) : Float :=
  if n ≤ 308 then x / powerOfTen n
  else if x == 0 then x
  else shiftDown (x / powerOfTen 308) (n - 308)
termination_by n

/-- The double `significand · 10^exponent`, unless it is too large. -/
def scaled (significand : Nat) (exponent : Int) : Option Float :=
  let x := significand.toUInt64.toFloat
  if exponent < 0 then some (shiftDown x exponent.natAbs)
  else if exponent ≤ 308 then
    let product := x * powerOfTen exponent.natAbs
    if product.isInf then none else some product
  else if x == 0 then some x
  else none

/-- A double with a sign. -/
def signed (negative : Bool) (x : Float) : Float :=
  if negative then -x else x

/-- What a number without fraction and exponent stands for. There is no
negative integer zero, so a zero with a sign is a double. -/
def wholeValue (negative : Bool) (significand : Nat) : Json :=
  if !negative then .integer significand
  else if 0 < significand ∧ significand ≤ integerBound then .integer (-significand)
  else .real (-significand.toUInt64.toFloat)

/-- The double that a number stands for; or, if it is too large, how many
of its last digits need not be read to know so: an exponent beyond 31 bits
settles it before its end. -/
def Numeral.realValue (numeral : Numeral) : Except Nat Float :=
  let fraction := numeral.fraction.getD []
  let (downward, digits) := numeral.exponent.getD (false, [])
  let (leading, left) := collect significandBound 0 numeral.whole
  let (significand, dropped) := collect significandBound leading fraction
  let shift : Int := left.length - (fraction.length - dropped.length)
  match collect exponentBound 0 digits with
  | (power, []) =>
    match scaled significand (if downward then shift - power else shift + power) with
    | some x => .ok (signed numeral.negative x)
    | none => .error 0
  | (_, _ :: unread) =>
    if significand ≠ 0 ∧ !downward then .error unread.length
    else .ok (signed numeral.negative 0)

/-- What a written number stands for, with the error of `realValue`. -/
def Numeral.value (numeral : Numeral) : Except Nat Json :=
  match collect significandBound 0 numeral.whole, numeral.fraction, numeral.exponent with
  | (significand, []), none, none => .ok (wholeValue numeral.negative significand)
  | _, _, _ => .real <$> numeral.realValue

/-- Reads a number. -/
def readNumber (cs : List Char) : Except (Fault Cause) (Json × List Char) := do
  let (numeral, rest) ← scanNumeral .endInValue cs
  match numeral.value with
  | .ok value => return (value, rest)
  | .error unread => .error ⟨.numberTooLarge, unread + byteCount rest⟩

end DatamodelTypes.Json
