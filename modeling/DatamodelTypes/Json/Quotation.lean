/-
DatamodelTypes.Json.Quotation — JSON strings, from behind the opening
quote to behind the closing one.

There are two readings. `readString` decodes: escapes of UTF-16 units
have to be whole characters, or pairs of surrogates that make one.
`skipString` only finds the end: any escape of the right form will do.
-/
import DatamodelTypes.Json.Cause
import DatamodelTypes.Text.Hexadecimal
import DatamodelTypes.Text.Position

namespace DatamodelTypes.Json

open Text (Fault byteCount)

/-! ## 1. Escapes -/

/-- The number that four hexadecimal digits write. -/
def hexQuad? (a b c d : Char) : Option Nat :=
  Text.ofHexDigits? 0 [a, b, c, d]

/-- The fault of a text that should start with four hexadecimal digits.
Four bytes are read before they are looked at, so a text with fewer of
them has ended too early, whatever they are. -/
def hexFault (cs : List Char) : Fault Cause :=
  if byteCount cs < 4 then ⟨.endInString, 0⟩ else ⟨.invalidEscape, byteCount cs - 4⟩

/-- A UTF-16 unit as four hexadecimal digits. -/
def readUnit (cs : List Char) : Except (Fault Cause) (Nat × List Char) :=
  match cs with
  | a :: b :: c :: d :: rest =>
    match hexQuad? a b c d with
    | some unit => .ok (unit, rest)
    | none => .error (hexFault cs)
  | _ => .error (hexFault cs)

/-- Whether a unit is the first half of a surrogate pair. -/
def isHighSurrogate (unit : Nat) : Bool :=
  0xD800 ≤ unit && unit < 0xDC00

/-- Whether a unit is the second half of a surrogate pair. -/
def isLowSurrogate (unit : Nat) : Bool :=
  0xDC00 ≤ unit && unit < 0xE000

/-- The character that a pair of surrogates writes. -/
def surrogatePair (high low : Nat) : Char :=
  Char.ofNat (0x10000 + (high - 0xD800) * 0x400 + (low - 0xDC00))

/-- One given character, which the second half of a surrogate pair needs. -/
def expectInPair (c : Char) : List Char → Except (Fault Cause) (List Char)
  | [] => .error (.next .endInString [])
  | d :: rest => if d = c then .ok rest else .error (.next .surrogateCutShort (d :: rest))

/-- The second half of a surrogate pair, as an escape of its own. -/
def readLowSurrogate (cs : List Char) : Except (Fault Cause) (Nat × List Char) := do
  let rest ← expectInPair '\\' cs
  let rest ← expectInPair 'u' rest
  let (low, rest) ← readUnit rest
  if isLowSurrogate low then return (low, rest) else .error (.here .unpairedSurrogate rest)

/-- The character that `\u` and its digits write. -/
def readCodePoint (cs : List Char) : Except (Fault Cause) (Char × List Char) := do
  let (unit, rest) ← readUnit cs
  if isLowSurrogate unit then .error (.here .unpairedSurrogate rest)
  else if isHighSurrogate unit then
    let (low, rest) ← readLowSurrogate rest
    return (surrogatePair unit low, rest)
  else return (Char.ofNat unit, rest)

/-- The character that a letter after a backslash writes. -/
def shortEscape? : Char → Option Char
  | '"' => some '"'
  | '\\' => some '\\'
  | '/' => some '/'
  | 'b' => some '\x08'
  | 'f' => some '\x0c'
  | 'n' => some '\n'
  | 'r' => some '\r'
  | 't' => some '\t'
  | _ => none

/-- The character that an escape writes, from behind the backslash on. -/
def readEscape : List Char → Except (Fault Cause) (Char × List Char)
  | [] => .error (.next .endInString [])
  | c :: rest =>
    match shortEscape? c with
    | some escaped => .ok (escaped, rest)
    | none =>
      if c = 'u' then readCodePoint rest else .error (.next .invalidEscape (c :: rest))

/-- The end of an escape that is only checked for its form. -/
def skipEscape : List Char → Except (Fault Cause) (List Char)
  | [] => .error (.next .endInString [])
  | c :: rest =>
    match shortEscape? c with
    | some _ => .ok rest
    | none =>
      if c = 'u' then do
        let (_, rest) ← readUnit rest
        return rest
      else .error (.next .invalidEscape (c :: rest))

/-! ## 2. Strings -/

/-- Whether a character must not stand in a string as itself. -/
def isControl (c : Char) : Bool :=
  c.toNat < 0x20

/-- The characters up to the closing quote. The first argument bounds the
number of characters left, so it is used up only where the text is too. -/
def readStringWithin : Nat → List Char → Except (Fault Cause) (List Char × List Char)
  | 0, _ => .error (.next .endInString [])
  | _ + 1, [] => .error (.next .endInString [])
  | bound + 1, c :: rest =>
    if c = '"' then .ok ([], rest)
    else if c = '\\' then do
      let (escaped, rest) ← readEscape rest
      let (body, rest) ← readStringWithin bound rest
      return (escaped :: body, rest)
    else if isControl c then .error (.next .controlCharacter (c :: rest))
    else do
      let (body, rest) ← readStringWithin bound rest
      return (c :: body, rest)

/-- Reads a string. -/
def readString (cs : List Char) : Except (Fault Cause) (String × List Char) := do
  let (body, rest) ← readStringWithin cs.length cs
  return (String.ofList body, rest)

/-- The text behind the closing quote; bounded as `readStringWithin` is.
A control character is reported where it starts. -/
def skipStringWithin : Nat → List Char → Except (Fault Cause) (List Char)
  | 0, _ => .error (.next .endInString [])
  | _ + 1, [] => .error (.next .endInString [])
  | bound + 1, c :: rest =>
    if c = '"' then .ok rest
    else if c = '\\' then do
      let rest ← skipEscape rest
      skipStringWithin bound rest
    else if isControl c then .error (.here .controlCharacter (c :: rest))
    else skipStringWithin bound rest

/-- Skips a string. -/
def skipString (cs : List Char) : Except (Fault Cause) (List Char) :=
  skipStringWithin cs.length cs

end DatamodelTypes.Json
