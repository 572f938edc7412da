/-
DatamodelTypes.Json.Cause — why a text is no JSON value, and why a JSON
value is not the record that was wanted.
-/
import DatamodelTypes.Json.Basic

namespace DatamodelTypes.Json

/-! ## Texts -/

/-- Why a text cannot be read as a JSON value. -/
inductive Cause where
  | endInValue
  | endInString
  | endInArray
  | endInObject
  | valueExpected
  | keywordExpected
  | colonExpected
  | commaOrBracketExpected
  | commaOrBraceExpected
  | keyExpected
  | trailingComma
  | trailingText
  | invalidNumber
  | numberTooLarge
  | invalidEscape
  | unpairedSurrogate
  | surrogateCutShort
  | controlCharacter
  | nestedTooDeep
  deriving DecidableEq, Repr

/-- The wording of a cause. -/
def Cause.message : Cause → String
  | .endInValue => "EOF while parsing a value"
  | .endInString => "EOF while parsing a string"
  | .endInArray => "EOF while parsing a list"
  | .endInObject => "EOF while parsing an object"
  | .valueExpected => "expected value"
  | .keywordExpected => "expected ident"
  | .colonExpected => "expected `:`"
  | .commaOrBracketExpected => "expected `,` or `]`"
  | .commaOrBraceExpected => "expected `,` or `\x7d`"
  | .keyExpected => "key must be a string"
  | .trailingComma => "trailing comma"
  | .trailingText => "trailing characters"
  | .invalidNumber => "invalid number"
  | .numberTooLarge => "number out of range"
  | .invalidEscape => "invalid escape"
  | .unpairedSurrogate => "lone leading surrogate in hex escape"
  | .surrogateCutShort => "unexpected end of hex escape"
  | .controlCharacter => "control character (\\u0000-\\u001F) found while parsing a string"
  | .nestedTooDeep => "recursion limit exceeded"

/-! ## Values -/

/-- A kind of record: the name that messages give it, and how many members
it has, which is how many items its array form may have. -/
structure Record where
  name : String
  size : Nat
  deriving DecidableEq, Repr

/-- The kinds of value that the decoders ask for. A `count` is a whole
number that is not negative, a `word` a string or its one-member object
form, and a `record` an object or array with the members of a record. -/
inductive Shape where
  | sequence
  | string
  | boolean
  | nothing
  | count
  | word
  | record (kind : Record)
  deriving DecidableEq, Repr

/-- How a message names a shape. -/
def Shape.name : Shape → String
  | .sequence => "a sequence"
  | .string => "a string"
  | .boolean => "a boolean"
  | .nothing => "unit"
  | .count => "usize"
  | .word => "string or map"
  | .record kind => "struct " ++ kind.name

/-- Why a JSON value is not what was wanted. -/
inductive Mismatch where
  /-- A value of another shape. -/
  | wrongShape (found : Json) (wanted : Shape)
  /-- A whole number where only a `count` will do. -/
  | negative (found : Json)
  /-- An object with no member, or with several, where a `word` should have one. -/
  | notSingleMember
  /-- A required member that is not there. -/
  | missing (name : String)
  /-- A member that a record has only once, given twice. -/
  | repeated (name : String)
  /-- A record written as an array that ends before a required member. -/
  | tooShort (length : Nat) (record : Record)
  /-- A record written as an array with more items than it has members. -/
  | tooLong (length : Nat)
  deriving Inhabited, Repr

/-- The wording of a mismatch. -/
def Mismatch.message : Mismatch → String
  | .wrongShape found wanted =>
    "invalid type: " ++ found.described ++ ", expected " ++ wanted.name
  | .negative found =>
    "invalid value: " ++ found.described ++ ", expected " ++ Shape.count.name
  | .notSingleMember => "invalid value: map, expected map with a single key"
  | .missing name => "missing field `" ++ name ++ "`"
  | .repeated name => "duplicate field `" ++ name ++ "`"
  | .tooShort length record =>
    "invalid length " ++ toString length ++ ", expected " ++ (Shape.record record).name ++
      " with " ++ toString record.size ++ " elements"
  | .tooLong length =>
    "invalid length " ++ toString length ++ ", expected fewer elements in array"

end DatamodelTypes.Json
