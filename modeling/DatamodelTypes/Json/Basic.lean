/-
DatamodelTypes.Json.Basic — JSON values as a document holds them.

The members of an object stay in the order they were written, repeated
names included: what the text said is kept, and `lookup` states once
which of several members with one name counts.
-/
import DatamodelTypes.Decimal
import DatamodelTypes.Text.Quoted

namespace DatamodelTypes

/-- A JSON value. A number is an `integer` when it is written without
fraction and exponent and lies in `-2^63 … 2^64 - 1`; every other number
is a `real`. -/
inductive Json where
  | null
  | bool (value : Bool)
  | integer (value : Int)
  | real (value : Float)
  | string (value : String)
  | array (items : List Json)
  | object (members : List (String × Json))
  deriving Inhabited, Repr

namespace Json

/-- The value of the last member with a given name. -/
def lookup (name : String) : List (String × Json) → Option Json
  | [] => none
  | (key, value) :: rest =>
    match lookup name rest with
    | some later => some later
    | none => if key = name then some value else none

/-- Whether a name is given to any member. -/
def hasMember (name : String) (members : List (String × Json)) : Bool :=
  members.any fun member => member.1 == name

/-- What a message says it found in place of the value it wanted. -/
def described : Json → String
  | .null => "null"
  | .bool value => "boolean `" ++ toString value ++ "`"
  | .integer value => "integer `" ++ toString value ++ "`"
  | .real value => "floating point `" ++ Decimal.written value ++ "`"
  | .string value => "string " ++ Text.quoted value
  | .array _ => "sequence"
  | .object _ => "map"

/-! ## Looking up -/

theorem lookup_append (name : String) (xs ys : List (String × Json)) :
    lookup name (xs ++ ys) = (lookup name ys).or (lookup name xs) := by
  induction xs with
  | nil => simp [lookup]
  | cons x xs ih =>
    obtain ⟨key, value⟩ := x
    simp only [List.cons_append, lookup, ih]
    cases lookup name ys <;> simp

/-- A name is found exactly when some member has it. -/
theorem lookup_isSome (name : String) (members : List (String × Json)) :
    (lookup name members).isSome = hasMember name members := by
  induction members with
  | nil => rfl
  | cons member rest ih =>
    obtain ⟨key, value⟩ := member
    simp only [hasMember, List.any_cons, lookup] at ih ⊢
    rw [← ih]
    cases lookup name rest with
    | some later => simp
    | none => by_cases h : key = name <;> simp [h]

end Json

end DatamodelTypes
