/-
DatamodelTypes.Datamodel.Document — the datamodel that a DMMF document
holds.

The document is a JSON object with a member `datamodel`, or the datamodel
itself. Each record in it is written as an object, or as an array of its
members in the order of their declaration.

Which fault is reported is settled by the content of a record and not by
the order in which its members are written: the members of an object are
decoded in alphabetical order of their names, and only when all of them
are decoded is the first required one that is missing reported. An array
is decoded from left to right.
-/
import DatamodelTypes.Datamodel
import DatamodelTypes.Json.Reader

namespace DatamodelTypes.Datamodel

open Json (Mismatch Record)
open Text (Located)

/-- What decodes a JSON value. -/
abbrev Decoder (α : Type) := Json → Except Mismatch α

/-! ## 1. Single values -/

/-- A string. -/
def decodeString : Decoder String
  | .string text => .ok text
  | other => .error (.wrongShape other .string)

/-- A string, or null for none. -/
def decodeOptionalString : Decoder (Option String)
  | .null => .ok none
  | .string text => .ok (some text)
  | other => .error (.wrongShape other .string)

/-- A boolean. -/
def decodeBool : Decoder Bool
  | .bool value => .ok value
  | other => .error (.wrongShape other .boolean)

/-- An array of values that one decoder is for. -/
def decodeList {α : Type} (decode : Decoder α) : Decoder (List α)
  | .array items => items.mapM decode
  | other => .error (.wrongShape other .sequence)

/-- The null that stands behind a word in its object form. -/
def decodeNothing : Decoder Unit
  | .null => .ok ()
  | other => .error (.wrongShape other .nothing)

/-- A word: a string, or an object whose only member has the word for its
name and null for its value. -/
def decodeWord : Decoder String
  | .string word => .ok word
  | .object [] => .error .notSingleMember
  | .object ((word, value) :: rest) =>
    if rest.all (·.1 == word) then do
      decodeNothing ((Json.lookup word rest).getD value)
      return word
    else .error .notSingleMember
  | other => .error (.wrongShape other .word)

/-! ## 2. Members of records -/

/-- A member of an object, if it is there. -/
def member? {α : Type} (members : List (String × Json)) (name : String) (decode : Decoder α) :
    Except Mismatch (Option α) :=
  match Json.lookup name members with
  | some value => some <$> decode value
  | none => .ok none

/-- Insists on a member that may not be there. -/
def required {α : Type} (name : String) : Option α → Except Mismatch α
  | some value => .ok value
  | none => .error (.missing name)

/-- An item of an array, if it is there. -/
def item? {α : Type} (items : List Json) (index : Nat) (decode : Decoder α) :
    Except Mismatch (Option α) :=
  match items[index]? with
  | some value => some <$> decode value
  | none => .ok none

/-- Insists on an item of the array form of a record. -/
def requiredItem {α : Type} (record : Record) (items : List Json) (index : Nat)
    (decode : Decoder α) : Except Mismatch α :=
  match items[index]? with
  | some value => decode value
  | none => .error (.tooShort index record)

/-- Insists on there being no more items than a record has members. -/
def expectItems (record : Record) (items : List Json) : Except Mismatch Unit :=
  if items.length ≤ record.size then .ok () else .error (.tooLong items.length)

/-- A record in either form, from what decodes the members of its object
form and the items of its array form. -/
def decodeRecord {α : Type} (record : Record)
    (ofMembers : List (String × Json) → Except Mismatch α)
    (ofItems : List Json → Except Mismatch α) : Decoder α
  | .object members => ofMembers members
  | .array items => ofItems items
  | other => .error (.wrongShape other (.record record))

/-! ## 3. Enums -/

/-- An enum value as a record: `name`, `dbName`. -/
def EnumValue.record : Record := ⟨"RawEnumValue", 2⟩

/-- An enum value as an object. -/
def EnumValue.ofMembers (members : List (String × Json)) : Except Mismatch EnumValue := do
  let dbName ← member? members "dbName" decodeOptionalString
  let name ← member? members "name" decodeString
  let name ← required "name" name
  return { name, dbName := dbName.join }

/-- An enum value as an array. -/
def EnumValue.ofItems (items : List Json) : Except Mismatch EnumValue := do
  let name ← requiredItem record items 0 decodeString
  let dbName ← item? items 1 decodeOptionalString
  expectItems record items
  return { name, dbName := dbName.join }

/-- An enum value. -/
def EnumValue.decode : Decoder EnumValue :=
  decodeRecord record ofMembers ofItems

/-- An enum as a record: `name`, `values`. -/
def Enum.record : Record := ⟨"RawEnum", 2⟩

/-- An enum as an object. -/
def Enum.ofMembers (members : List (String × Json)) : Except Mismatch Enum := do
  let name ← member? members "name" decodeString
  let values ← member? members "values" (decodeList EnumValue.decode)
  let name ← required "name" name
  return { name, values := values.getD [] }

/-- An enum as an array. -/
def Enum.ofItems (items : List Json) : Except Mismatch Enum := do
  let name ← requiredItem record items 0 decodeString
  let values ← item? items 1 (decodeList EnumValue.decode)
  expectItems record items
  return { name, values := values.getD [] }

/-- An enum. -/
def Enum.decode : Decoder Enum :=
  decodeRecord record ofMembers ofItems

/-! ## 4. Models -/

/-- What a field holds, from its kind, its type and the name of its
relation. A relation is one whatever its kind says. -/
def FieldKind.ofParts (kind type : String) (relationName : Option String) : FieldKind :=
  match relationName with
  | some relationName => .relation relationName type
  | none => if kind = "scalar" then .scalar type else .reference type

/-- A field as a record: `name`, `dbName`, `kind`, `type`, `isList`,
`isRequired`, `relationName`. -/
def Field.record : Record := ⟨"RawField", 7⟩

/-- A field as an object. -/
def Field.ofMembers (members : List (String × Json)) : Except Mismatch Field := do
  let dbName ← member? members "dbName" decodeOptionalString
  let isList ← member? members "isList" decodeBool
  let isRequired ← member? members "isRequired" decodeBool
  let kind ← member? members "kind" decodeWord
  let name ← member? members "name" decodeString
  let relationName ← member? members "relationName" decodeOptionalString
  let type ← member? members "type" decodeString
  let name ← required "name" name
  let kind ← required "kind" kind
  let type ← required "type" type
  return {
    name
    dbName := dbName.join
    kind := .ofParts kind type relationName.join
    isList := isList.getD false
    isRequired := isRequired.getD false }

/-- A field as an array. -/
def Field.ofItems (items : List Json) : Except Mismatch Field := do
  let name ← requiredItem record items 0 decodeString
  let dbName ← item? items 1 decodeOptionalString
  let kind ← requiredItem record items 2 decodeWord
  let type ← requiredItem record items 3 decodeString
  let isList ← item? items 4 decodeBool
  let isRequired ← item? items 5 decodeBool
  let relationName ← item? items 6 decodeOptionalString
  expectItems record items
  return {
    name
    dbName := dbName.join
    kind := .ofParts kind type relationName.join
    isList := isList.getD false
    isRequired := isRequired.getD false }

/-- A field. -/
def Field.decode : Decoder Field :=
  decodeRecord record ofMembers ofItems

/-- A model as a record: `name`, `dbName`, `fields`. -/
def Model.record : Record := ⟨"RawModel", 3⟩

/-- A model as an object. -/
def Model.ofMembers (members : List (String × Json)) : Except Mismatch Model := do
  let dbName ← member? members "dbName" decodeOptionalString
  let fields ← member? members "fields" (decodeList Field.decode)
  let name ← member? members "name" decodeString
  let name ← required "name" name
  return { name, dbName := dbName.join, fields := fields.getD [] }

/-- A model as an array. -/
def Model.ofItems (items : List Json) : Except Mismatch Model := do
  let name ← requiredItem record items 0 decodeString
  let dbName ← item? items 1 decodeOptionalString
  let fields ← item? items 2 (decodeList Field.decode)
  expectItems record items
  return { name, dbName := dbName.join, fields := fields.getD [] }

/-- A model or composite type. -/
def Model.decode : Decoder Model :=
  decodeRecord record ofMembers ofItems

/-! ## 5. Documents -/

/-- A datamodel, from the members of its object. -/
def ofMembers (members : List (String × Json)) : Except Mismatch Datamodel := do
  let enums ← member? members "enums" (decodeList Enum.decode)
  let models ← member? members "models" (decodeList Model.decode)
  let types ← member? members "types" (decodeList Model.decode)
  return { enums := enums.getD [], models := models.getD [], types := types.getD [] }

/-- Why a text holds no datamodel. -/
inductive DocumentFault where
  | malformed (cause : Located Json.Cause)
  | notObject
  | datamodelNotObject
  | noDatamodel
  | mismatch (cause : Mismatch)
  deriving Inhabited, Repr

/-- The wording of a fault. -/
def DocumentFault.message : DocumentFault → String
  | .malformed cause => cause.message Json.Cause.message
  | .notObject => "expected a JSON object at the top level"
  | .datamodelNotObject => "`datamodel` must be an object"
  | .noDatamodel => "missing `datamodel`, `enums`, `models` or `types`"
  | .mismatch cause => cause.message

/-- The members of the datamodel that a document holds: those of its
member `datamodel`, or its own if it has any that a datamodel has. -/
def membersOfDocument : Json → Except DocumentFault (List (String × Json))
  | .object document =>
    match Json.lookup "datamodel" document with
    | some (.object members) => .ok members
    | some _ => .error .datamodelNotObject
    | none =>
      if ["enums", "models", "types"].any (Json.hasMember · document) then .ok document
      else .error .noDatamodel
  | _ => .error .notObject

/-- The datamodel that a document holds. -/
def ofDocument (document : Json) : Except DocumentFault Datamodel := do
  let members ← membersOfDocument document
  (ofMembers members).mapError .mismatch

/-- The datamodel that the text of a document holds. -/
def read (text : String) : Except DocumentFault Datamodel := do
  let document ← (Json.read text).mapError .malformed
  ofDocument document

end DatamodelTypes.Datamodel
