/-
DatamodelTypes.Options.Reader — options written as a JSON text.

The options are an object with at most one member `indentation`, or an
array with at most that one value; what is left out has its default.
Other members are skipped, checked for their form only. The text is read
without building its value first, so that every fault has a position, the
ones about a value of the wrong shape too.
-/
import DatamodelTypes.Datamodel
import DatamodelTypes.Json.Skip

namespace DatamodelTypes.Options

open Text (Fault Located byteCount)
open Json (Shape Mismatch skipBlanks)

/-- Why a text holds no options. -/
inductive Cause where
  | malformed (cause : Json.Cause)
  | mismatch (cause : Mismatch)
  deriving Inhabited, Repr

/-- The wording of a cause. -/
def Cause.message : Cause → String
  | .malformed cause => cause.message
  | .mismatch cause => cause.message

/-- A reading of JSON as part of a reading of options. -/
def lifted {α : Type} (reading : Except (Fault Json.Cause) α) : Except (Fault Cause) α :=
  reading.mapError (·.map .malformed)

/-- The fault of finding a value where one of another shape is wanted. A
scalar is read first, so its own faults come before; of a container
nothing has been read. -/
def wrongShape (wanted : Shape) (cs : List Char) : Fault Cause :=
  match cs with
  | '[' :: _ => .here (.mismatch (.wrongShape (.array []) wanted)) cs
  | '{' :: _ => .here (.mismatch (.wrongShape (.object []) wanted)) cs
  | _ =>
    match Json.readScalar cs with
    | .ok (found, rest) => .here (.mismatch (.wrongShape found wanted)) rest
    | .error fault => fault.map .malformed

/-! ## 1. The indentation -/

/-- A whole number below `2^64`. -/
def readCount (cs : List Char) : Except (Fault Cause) (Nat × List Char) :=
  let cs := skipBlanks cs
  match Json.readScalar cs with
  | .ok (.integer (.ofNat count), rest) => .ok (count, rest)
  | .ok (.integer negative, rest) => .error (.here (.mismatch (.negative (.integer negative))) rest)
  | _ => .error (wrongShape .count cs)

/-! ## 2. The array form -/

/-- The bracket that ends the array. No second item is wanted, whatever
it is. -/
def readArrayEnd (cs : List Char) : Except (Fault Cause) (List Char) :=
  match skipBlanks cs with
  | ']' :: rest => .ok rest
  | ',' :: rest =>
    match skipBlanks rest with
    | ']' :: _ => .error (.next (.malformed .trailingComma) (skipBlanks rest))
    | other => .error (.next (.malformed .trailingText) other)
  | [] => .error (.next (.malformed .endInArray) [])
  | other => .error (.next (.malformed .trailingText) other)

/-- The options in their array form, from behind the bracket on. -/
def readItems (cs : List Char) : Except (Fault Cause) (Options × List Char) :=
  match skipBlanks cs with
  | [] => .error (.next (.malformed .endInArray) [])
  | ']' :: rest => .ok ({}, rest)
  | other => do
    let (indentation, rest) ← readCount other
    let rest ← readArrayEnd rest
    return ({ indentation }, rest)

/-! ## 3. The object form -/

/-- The fault of a second `indentation`, given the text behind its name.
The object is taken to be over there: blanks and a brace that follow the
name are read before the place of the fault is fixed. -/
def repeatedMember (cs : List Char) : Fault Cause :=
  .here (.mismatch (.repeated "indentation"))
    (match skipBlanks cs with
    | '}' :: rest => rest
    | other => other)

/-- The name of a member. -/
def readName (cs : List Char) : Except (Fault Cause) (String × List Char) :=
  match skipBlanks cs with
  | '"' :: rest => lifted (Json.readString rest)
  | [] => .error (.next (.malformed .endInValue) [])
  | other => .error (.next (.malformed .keyExpected) other)

/-- What stands behind the name of a member: the indentation found so
far, with this member's value if it is one. -/
def readMember (name : String) (indentation : Option Nat) (cs : List Char) :
    Except (Fault Cause) (Option Nat × List Char) :=
  if name = "indentation" then
    if indentation.isSome then .error (repeatedMember cs)
    else do
      let rest ← lifted (Json.readColon cs)
      let (count, rest) ← readCount rest
      return (some count, rest)
  else do
    let rest ← lifted (Json.readColon cs)
    let rest ← lifted (Json.skipValue rest)
    return (indentation, rest)

/-- The members of the object, one at least, up to behind its brace. The
first argument bounds the characters left. -/
def readMembers : Nat → Option Nat → List Char →
    Except (Fault Cause) (Option Nat × List Char)
  | 0, _, _ => .error (.next (.malformed .endInValue) [])
  | bound + 1, indentation, cs => do
    let (name, rest) ← readName cs
    let (indentation, rest) ← readMember name indentation rest
    match skipBlanks rest with
    | '}' :: rest => return (indentation, rest)
    | ',' :: rest =>
      match skipBlanks rest with
      | '}' :: _ => .error (.next (.malformed .trailingComma) (skipBlanks rest))
      | _ => readMembers bound indentation rest
    | [] => .error (.next (.malformed .endInObject) [])
    | other => .error (.next (.malformed .commaOrBraceExpected) other)

/-- The options in their object form, from behind the brace on. -/
def readObject (cs : List Char) : Except (Fault Cause) (Options × List Char) :=
  match skipBlanks cs with
  | [] => .error (.next (.malformed .endInObject) [])
  | '}' :: rest => .ok ({}, rest)
  | other => do
    let (indentation, rest) ← readMembers other.length none other
    match indentation with
    | some indentation => return ({ indentation }, rest)
    | none => return ({}, rest)

/-! ## 4. The whole text -/

/-- The options as a record. -/
def record : Json.Record := ⟨"ConverterOptions", 1⟩

/-- Options in either form. -/
def readForm (cs : List Char) : Except (Fault Cause) (Options × List Char) :=
  match skipBlanks cs with
  | '[' :: rest => readItems rest
  | '{' :: rest => readObject rest
  | other => .error (wrongShape (.record record) other)

/-- Reads a text as options. -/
def read (text : String) : Except (Located Cause) Options :=
  let cs := text.toList
  let reading : Except (Fault Cause) Options := do
    let (options, rest) ← readForm cs
    lifted (Json.expectEnd rest)
    return options
  reading.mapError (·.locate cs)

end DatamodelTypes.Options
