/-
DatamodelTypes.Json.Skip — passing over a value that nobody asks for.

Only the form of the value is checked. There is no limit on nesting: the
containers that are open are kept in a list, innermost first, and one
loop serves all of them. There is no limit on the size of numbers, and an
escape may write half a surrogate pair. A number that the text cuts short
is no number here, where a reader would say that the text has ended.
-/
import DatamodelTypes.Json.Reader

namespace DatamodelTypes.Json

open Text (Fault)

/-- A kind of container. -/
inductive Container where
  | array
  | object
  deriving DecidableEq, Repr

/-- The character that closes a container. -/
def Container.closing : Container → Char
  | .array => ']'
  | .object => '}'

/-- The fault of a text that ends inside a container. -/
def Container.endInside : Container → Cause
  | .array => .endInArray
  | .object => .endInObject

/-- The fault of an element with neither a comma nor the end behind it. -/
def Container.separatorExpected : Container → Cause
  | .array => .commaOrBracketExpected
  | .object => .commaOrBraceExpected

/-- The text behind a value without containers. -/
def skipScalar (cs : List Char) : Except (Fault Cause) (List Char) :=
  match cs with
  | [] => .error (.next .endInValue [])
  | 'n' :: rest => readKeyword ['u', 'l', 'l'] rest
  | 't' :: rest => readKeyword ['r', 'u', 'e'] rest
  | 'f' :: rest => readKeyword ['a', 'l', 's', 'e'] rest
  | '"' :: rest => skipString rest
  | c :: _ =>
    if c = '-' ∨ c.isDigit then do
      let (_, rest) ← scanNumeral .invalidNumber cs
      return rest
    else .error (.next .valueExpected cs)

/-- The name of a member with its colon. -/
def skipKey (cs : List Char) : Except (Fault Cause) (List Char) :=
  match skipBlanks cs with
  | '"' :: rest => do
    let rest ← skipString rest
    readColon rest
  | [] => .error (.next .endInObject [])
  | other => .error (.next .keyExpected other)

/-- What comes before the next value of a container. -/
def skipToValue : Container → List Char → Except (Fault Cause) (List Char)
  | .array, cs => .ok cs
  | .object, cs => skipKey cs

/-- Goes on behind a value: closes every container that ends here, up to
the next comma. Answers the containers still open and the text from the
next value on; with none open the value that was to be skipped is behind. -/
def skipClosing : List Container → List Char →
    Except (Fault Cause) (List Container × List Char)
  | [], cs => .ok ([], cs)
  | container :: outer, cs =>
    match skipBlanks cs with
    | [] => .error (.next container.endInside [])
    | c :: rest =>
      if c = ',' then do
        let rest ← skipToValue container rest
        return (container :: outer, rest)
      else if c = container.closing then skipClosing outer rest
      else .error (.next container.separatorExpected (c :: rest))

/-- Goes on behind an opening bracket or brace, as `skipClosing` does. -/
def skipOpening (container : Container) (outer : List Container) (cs : List Char) :
    Except (Fault Cause) (List Container × List Char) :=
  match skipBlanks cs with
  | [] => .error (.next container.endInside [])
  | c :: rest =>
    if c = container.closing then skipClosing outer rest
    else do
      let rest ← skipToValue container (c :: rest)
      return (container :: outer, rest)

/-- One step at the start of a value: a whole value without containers,
or the opening of a container. -/
def skipStep (openContainers : List Container) (cs : List Char) :
    Except (Fault Cause) (List Container × List Char) :=
  match skipBlanks cs with
  | '[' :: rest => skipOpening .array openContainers rest
  | '{' :: rest => skipOpening .object openContainers rest
  | other => do
    let rest ← skipScalar other
    skipClosing openContainers rest

/-- Skips values until no container is open. The first argument bounds
the characters left. -/
def skipWithin : Nat → List Container → List Char → Except (Fault Cause) (List Char)
  | 0, _, _ => .error (.next .endInValue [])
  | bound + 1, openContainers, cs => do
    let (openContainers, rest) ← skipStep openContainers cs
    match openContainers with
    | [] => return rest
    | _ => skipWithin bound openContainers rest

/-- The text behind the value that it starts with. -/
def skipValue (cs : List Char) : Except (Fault Cause) (List Char) :=
  skipWithin cs.length [] cs

end DatamodelTypes.Json
