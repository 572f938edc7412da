/-
DatamodelTypes.Json.Reader — from a text to the JSON value it writes.

`readValue` is recursive on the number of containers that may still be
opened, so the limit on nesting is also what makes it terminate. The
loops over items and members are recursive on a bound for the characters
left. Every item takes at least one of them: the bound is used up only
where the text is too, and there the answer is the one for the end of the
text.
-/
import DatamodelTypes.Json.Numeral
import DatamodelTypes.Json.Quotation

namespace DatamodelTypes.Json

open Text (Fault Located)

/-- What reads a value from the start of a text. -/
abbrev ValueReader := List Char → Except (Fault Cause) (Json × List Char)

/-! ## 1. Blanks and keywords -/

/-- The characters that may stand between tokens. -/
def isBlank (c : Char) : Bool :=
  c = ' ' || c = '\t' || c = '\n' || c = '\r'

/-- The text from its next token on. -/
def skipBlanks (cs : List Char) : List Char :=
  cs.dropWhile isBlank

/-- The text behind a keyword. -/
def readKeyword : List Char → List Char → Except (Fault Cause) (List Char)
  | [], cs => .ok cs
  | _ :: _, [] => .error (.next .endInValue [])
  | k :: ks, c :: cs =>
    if c = k then readKeyword ks cs else .error (.next .keywordExpected (c :: cs))

/-! ## 2. Values without containers -/

/-- A keyword, a number or a string, at the start of the text. -/
def readScalar (cs : List Char) : Except (Fault Cause) (Json × List Char) :=
  match cs with
  | [] => .error (.next .endInValue [])
  | 'n' :: rest => return (.null, ← readKeyword ['u', 'l', 'l'] rest)
  | 't' :: rest => return (.bool true, ← readKeyword ['r', 'u', 'e'] rest)
  | 'f' :: rest => return (.bool false, ← readKeyword ['a', 'l', 's', 'e'] rest)
  | '"' :: rest => do
    let (text, rest) ← readString rest
    return (.string text, rest)
  | c :: _ => if c = '-' ∨ c.isDigit then readNumber cs else .error (.next .valueExpected cs)

/-! ## 3. Containers -/

/-- The items of an array, one at least, up to behind its bracket. -/
def readItems (item : ValueReader) :
    Nat → List Char → Except (Fault Cause) (List Json × List Char)
  | 0, _ => .error (.next .endInValue [])
  | bound + 1, cs => do
    let (value, rest) ← item cs
    match skipBlanks rest with
    | ']' :: rest => return ([value], rest)
    | ',' :: rest =>
      match skipBlanks rest with
      | ']' :: _ => .error (.next .trailingComma (skipBlanks rest))
      | _ =>
        let (values, rest) ← readItems item bound rest
        return (value :: values, rest)
    | [] => .error (.next .endInArray [])
    | other => .error (.next .commaOrBracketExpected other)

/-- An array, from behind its opening bracket on. -/
def readArray (item : ValueReader) (cs : List Char) : Except (Fault Cause) (Json × List Char) :=
  match skipBlanks cs with
  | ']' :: rest => .ok (.array [], rest)
  | [] => .error (.next .endInArray [])
  | _ => do
    let (values, rest) ← readItems item cs.length cs
    return (.array values, rest)

/-- The text behind a colon. -/
def readColon (cs : List Char) : Except (Fault Cause) (List Char) :=
  match skipBlanks cs with
  | ':' :: rest => .ok rest
  | [] => .error (.next .endInObject [])
  | other => .error (.next .colonExpected other)

/-- The name of a member with its colon. -/
def readKey (cs : List Char) : Except (Fault Cause) (String × List Char) :=
  match skipBlanks cs with
  | '"' :: rest => do
    let (key, rest) ← readString rest
    return (key, ← readColon rest)
  | [] => .error (.next .endInValue [])
  | other => .error (.next .keyExpected other)

/-- The members of an object, one at least, up to behind its brace. -/
def readMembers (item : ValueReader) :
    Nat → List Char → Except (Fault Cause) (List (String × Json) × List Char)
  | 0, _ => .error (.next .endInValue [])
  | bound + 1, cs => do
    let (key, rest) ← readKey cs
    let (value, rest) ← item rest
    match skipBlanks rest with
    | '}' :: rest => return ([(key, value)], rest)
    | ',' :: rest =>
      match skipBlanks rest with
      | '}' :: _ => .error (.next .trailingComma (skipBlanks rest))
      | _ =>
        let (members, rest) ← readMembers item bound rest
        return ((key, value) :: members, rest)
    | [] => .error (.next .endInObject [])
    | other => .error (.next .commaOrBraceExpected other)

/-- An object, from behind its opening brace on. -/
def readObject (item : ValueReader) (cs : List Char) : Except (Fault Cause) (Json × List Char) :=
  match skipBlanks cs with
  | '}' :: rest => .ok (.object [], rest)
  | [] => .error (.next .endInObject [])
  | _ => do
    let (members, rest) ← readMembers item cs.length cs
    return (.object members, rest)

/-! ## 4. Values and documents -/

/-- A value in which at most `depth` containers are open at a time. -/
def readValue : Nat → ValueReader
  | 0, cs =>
    match skipBlanks cs with
    | '[' :: rest => .error (.next .nestedTooDeep ('[' :: rest))
    | '{' :: rest => .error (.next .nestedTooDeep ('{' :: rest))
    | other => readScalar other
  | depth + 1, cs =>
    match skipBlanks cs with
    | '[' :: rest => readArray (readValue depth) rest
    | '{' :: rest => readObject (readValue depth) rest
    | other => readScalar other

/-- How many containers may be open at a time. -/
def maxDepth : Nat := 127

/-- Nothing but blanks up to the end of the text. -/
def expectEnd (cs : List Char) : Except (Fault Cause) Unit :=
  match skipBlanks cs with
  | [] => .ok ()
  | other => .error (.next .trailingText other)

/-- The value that a whole text writes. -/
def readText (cs : List Char) : Except (Fault Cause) Json := do
  let (value, rest) ← readValue maxDepth cs
  expectEnd rest
  return value

/-- Reads a text as one JSON value. -/
def read (text : String) : Except (Located Cause) Json :=
  (readText text.toList).mapError (·.locate text.toList)

end DatamodelTypes.Json
