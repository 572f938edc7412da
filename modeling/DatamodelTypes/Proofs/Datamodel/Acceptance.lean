/-
DatamodelTypes.Proofs.Datamodel.Acceptance — which documents are
accepted, and what is read from them.

`Datamodel.HeldBy` says what a document has to look like to hold a given
datamodel, without saying how it is decoded: every record has two
spellings, and `Json.part?` is the only place that knows about them. The
main statement is `parse_eq_ok_iff`: a text is accepted exactly when its
JSON value holds a datamodel, and that datamodel is the answer.

## How the proof goes

`Except` blocks come apart with the lemmas of `Proofs.Except`. What is
left of a decoder is one fact for each member, in the order in which the
members are decoded; section 3 turns these facts into the members of the
specification, which have no order. The two spellings of a record differ
in nothing but `part?`, so both end in the same facts.
-/
import DatamodelTypes.Conversion
import DatamodelTypes.Proofs.Except
import DatamodelTypes.Proofs.Json.Acceptance

namespace DatamodelTypes

/-! ## 1. Records in two spellings -/

namespace Json

/-- A record of at most `size` members, as an object, or as an array that
may end early but has no item too many. -/
def IsRecord (size : Nat) : Json → Prop
  | .object _ => True
  | .array items => items.length ≤ size
  | _ => False

/-- The value that a record gives to a member: the last one of that name
in an object, the one at the member's position in an array. -/
def part? (name : String) (position : Nat) : Json → Option Json
  | .object members => lookup name members
  | .array items => items[position]?
  | _ => none

end Json

namespace Datamodel

open Json (Mismatch Record)

/-! ## 2. What a document holds -/

/-- A text that may be left out or null. -/
inductive OptionalText : Option Json → Option String → Prop
  | absent : OptionalText none none
  | null : OptionalText (some .null) none
  | given (text : String) : OptionalText (some (.string text)) (some text)

/-- A flag that may be left out, but not null. -/
inductive Flag : Option Json → Bool → Prop
  | absent : Flag none false
  | given (value : Bool) : Flag (some (.bool value)) value

/-- A list that may be left out, but not null: an array with one item for
each entry, in order. -/
inductive Sequence {α : Type} (Holds : Json → α → Prop) : Option Json → List α → Prop
  | absent : Sequence Holds none []
  | given {items : List Json} {entries : List α} (holds : List.Forall₂ Holds items entries) :
      Sequence Holds (some (.array items)) entries

/-- A word: a string, or an object with exactly one name in it, the word,
and null behind it. -/
inductive Word : Json → String → Prop
  | text (word : String) : Word (.string word) word
  | tagged {word : String} {members : List (String × Json)}
      (only : ∀ member ∈ members, member.1 = word)
      (null : Json.lookup word members = some .null) : Word (.object members) word

/-- What a field holds, by its kind, its type and its relation. -/
inductive FieldKind.Chosen (type : String) : String → Option String → FieldKind → Prop
  | relation (kind name : String) : Chosen type kind (some name) (.relation name type)
  | scalar : Chosen type "scalar" none (.scalar type)
  | reference {kind : String} (other : kind ≠ "scalar") : Chosen type kind none (.reference type)

/-- A JSON value that holds an enum value. -/
structure EnumValue.HeldBy (json : Json) (value : EnumValue) : Prop where
  record : json.IsRecord 2
  name : json.part? "name" 0 = some (.string value.name)
  dbName : OptionalText (json.part? "dbName" 1) value.dbName

/-- A JSON value that holds an enum. -/
structure Enum.HeldBy (json : Json) (enum : Enum) : Prop where
  record : json.IsRecord 2
  name : json.part? "name" 0 = some (.string enum.name)
  values : Sequence EnumValue.HeldBy (json.part? "values" 1) enum.values

/-- A JSON value that holds a field. -/
structure Field.HeldBy (json : Json) (field : Field) : Prop where
  record : json.IsRecord 7
  name : json.part? "name" 0 = some (.string field.name)
  dbName : OptionalText (json.part? "dbName" 1) field.dbName
  kind : ∃ (value : Json) (kind type : String) (relationName : Option String),
    json.part? "kind" 2 = some value ∧ Word value kind ∧
      json.part? "type" 3 = some (.string type) ∧
      OptionalText (json.part? "relationName" 6) relationName ∧
      FieldKind.Chosen type kind relationName field.kind
  isList : Flag (json.part? "isList" 4) field.isList
  isRequired : Flag (json.part? "isRequired" 5) field.isRequired

/-- A JSON value that holds a model or composite type. -/
structure Model.HeldBy (json : Json) (model : Model) : Prop where
  record : json.IsRecord 3
  name : json.part? "name" 0 = some (.string model.name)
  dbName : OptionalText (json.part? "dbName" 1) model.dbName
  fields : Sequence Field.HeldBy (json.part? "fields" 2) model.fields

/-- The members of an object that holds a datamodel. -/
structure HeldByMembers (members : List (String × Json)) (datamodel : Datamodel) : Prop where
  enums : Sequence Enum.HeldBy (Json.lookup "enums" members) datamodel.enums
  models : Sequence Model.HeldBy (Json.lookup "models" members) datamodel.models
  types : Sequence Model.HeldBy (Json.lookup "types" members) datamodel.types

/-- A document that holds a datamodel: in its member `datamodel`, or, if it
has no such member, in its own members, one of which a datamodel has. -/
inductive HeldBy : Json → Datamodel → Prop
  | full {document members : List (String × Json)} {datamodel : Datamodel}
      (inner : Json.lookup "datamodel" document = some (.object members))
      (holds : HeldByMembers members datamodel) : HeldBy (.object document) datamodel
  | bare {document : List (String × Json)} {datamodel : Datamodel}
      (noInner : Json.lookup "datamodel" document = none)
      (known : ∃ name ∈ ["enums", "models", "types"], Json.lookup name document ≠ none)
      (holds : HeldByMembers document datamodel) : HeldBy (.object document) datamodel

/-! ## 3. Single values -/

theorem decodeString_eq_ok {json : Json} {text : String} :
    decodeString json = .ok text ↔ json = .string text := by
  cases json <;> simp [decodeString]

theorem decodeOptionalString_eq_ok {json : Json} {text : Option String} :
    decodeOptionalString json = .ok text ↔ OptionalText (some json) text := by
  constructor
  · intro h
    cases json with
    | null => cases h; exact .null
    | string found => cases h; exact .given found
    | _ => cases h
  · intro h
    cases h <;> rfl

theorem decodeBool_eq_ok {json : Json} {value : Bool} :
    decodeBool json = .ok value ↔ json = .bool value := by
  cases json <;> simp [decodeBool]

theorem decodeNothing_eq_ok {json : Json} {value : Unit} :
    decodeNothing json = .ok value ↔ json = .null := by
  cases json <;> simp [decodeNothing]

theorem decodeList_eq_ok {α : Type} {decode : Decoder α} {json : Json} {entries : List α} :
    decodeList decode json = .ok entries ↔
      ∃ items, json = .array items ∧
        List.Forall₂ (fun item entry => decode item = .ok entry) items entries := by
  cases json <;> simp [decodeList, mapM_eq_ok]

/-- Behind one name that may be repeated, the last value counts. -/
theorem lookup_cons_self (word : String) (value : Json) (rest : List (String × Json)) :
    Json.lookup word ((word, value) :: rest) = some ((Json.lookup word rest).getD value) := by
  cases h : Json.lookup word rest <;> simp [Json.lookup, h]

theorem decodeWord_eq_ok {json : Json} {word : String} :
    decodeWord json = .ok word ↔ Word json word := by
  constructor
  · intro h
    cases json with
    | string text => cases h; exact .text word
    | object members =>
      cases members with
      | nil => cases h
      | cons member rest =>
        obtain ⟨key, value⟩ := member
        simp only [decodeWord] at h
        split at h
        · rename_i hall
          simp only [bind_eq_ok, decodeNothing_eq_ok, pure_eq_ok] at h
          obtain ⟨-, hnull, rfl⟩ := h
          refine .tagged ?_ (by rw [lookup_cons_self, hnull])
          simpa using hall
        · cases h
    | _ => cases h
  · intro h
    cases h with
    | text => rfl
    | @tagged _ members only null =>
      cases members with
      | nil => cases null
      | cons member rest =>
        obtain ⟨key, value⟩ := member
        obtain rfl : key = word := only (key, value) (by simp)
        have hall : rest.all (·.1 == key) = true := by
          simpa using fun k v hv => only (k, v) (List.mem_cons_of_mem _ hv)
        rw [lookup_cons_self, Option.some_inj] at null
        simp [decodeWord, hall, null, decodeNothing]

/-! ## 4. Members -/

/-- A member that may be left out is decoded if it is there. -/
theorem member?_eq_ok {α : Type} {members : List (String × Json)} {name : String}
    {decode : Decoder α} {value : Option α} :
    member? members name decode = .ok value ↔
      Option.Rel (fun json a => decode json = .ok a) (Json.lookup name members) value := by
  unfold member?
  cases Json.lookup name members with
  | none => cases value <;> simp
  | some json => cases value <;> simp [map_eq_ok]

theorem item?_eq_ok {α : Type} {items : List Json} {index : Nat} {decode : Decoder α}
    {value : Option α} :
    item? items index decode = .ok value ↔
      Option.Rel (fun json a => decode json = .ok a) items[index]? value := by
  unfold item?
  cases items[index]? with
  | none => cases value <;> simp
  | some json => cases value <;> simp [map_eq_ok]

theorem required_eq_ok {α : Type} {name : String} {value : Option α} {a : α} :
    required name value = .ok a ↔ value = some a := by
  cases value <;> simp [required]

theorem requiredItem_eq_ok {α : Type} {record : Record} {items : List Json} {index : Nat}
    {decode : Decoder α} {a : α} :
    requiredItem record items index decode = .ok a ↔
      Option.Rel (fun json a => decode json = .ok a) items[index]? (some a) := by
  unfold requiredItem
  cases items[index]? <;> simp

theorem expectItems_eq_ok {record : Record} {items : List Json} {value : Unit} :
    expectItems record items = .ok value ↔ items.length ≤ record.size := by
  simp [expectItems]

/-- A required text is there, and a string. -/
theorem text_iff {part : Option Json} {text : String} :
    Option.Rel (fun json a => decodeString json = .ok a) part (some text) ↔
      part = some (.string text) := by
  cases part <;> simp [decodeString_eq_ok]

/-- A required word is there, in either form. -/
theorem word_iff {part : Option Json} {word : String} :
    Option.Rel (fun json a => decodeWord json = .ok a) part (some word) ↔
      ∃ json, part = some json ∧ Word json word := by
  cases part <;> simp [decodeWord_eq_ok]

theorem optionalText_iff {part : Option Json} {text : Option String} :
    (∃ value, Option.Rel (fun json a => decodeOptionalString json = .ok a) part value ∧
      value.join = text) ↔ OptionalText part text := by
  constructor
  · rintro ⟨value, hrel, rfl⟩
    cases hrel with
    | none => exact .absent
    | some h => exact decodeOptionalString_eq_ok.1 h
  · intro h
    cases part with
    | none => cases h; exact ⟨none, .none, rfl⟩
    | some json => exact ⟨some text, .some (decodeOptionalString_eq_ok.2 h), rfl⟩

theorem flag_iff {part : Option Json} {value : Bool} :
    (∃ found, Option.Rel (fun json a => decodeBool json = .ok a) part found ∧
      found.getD false = value) ↔ Flag part value := by
  constructor
  · rintro ⟨found, hrel, rfl⟩
    cases hrel with
    | none => exact .absent
    | some h => rw [decodeBool_eq_ok.1 h]; exact .given _
  · intro h
    cases h with
    | absent => exact ⟨none, .none, rfl⟩
    | given => exact ⟨some value, .some rfl, rfl⟩

/-- A list is decoded when its entries are, whatever they are. -/
theorem sequence_iff {α : Type} {decode : Decoder α} {Holds : Json → α → Prop}
    (hdecode : ∀ {json : Json} {a : α}, decode json = .ok a ↔ Holds json a)
    {part : Option Json} {entries : List α} :
    (∃ found, Option.Rel (fun json a => decodeList decode json = .ok a) part found ∧
      found.getD [] = entries) ↔ Sequence Holds part entries := by
  constructor
  · rintro ⟨found, hrel, rfl⟩
    cases hrel with
    | none => exact .absent
    | some h =>
      obtain ⟨items, rfl, hitems⟩ := decodeList_eq_ok.1 h
      exact .given (hitems.imp fun _ _ => hdecode.1)
  · intro h
    cases h with
    | absent => exact ⟨none, .none, rfl⟩
    | given hitems =>
      exact ⟨some entries, .some (decodeList_eq_ok.2
        ⟨_, rfl, hitems.imp fun _ _ => hdecode.2⟩), rfl⟩

/-- The kind of a field is chosen as `FieldKind.ofParts` chooses it. -/
theorem FieldKind.chosen_iff {kind type : String} {relationName : Option String}
    {chosen : FieldKind} :
    FieldKind.ofParts kind type relationName = chosen ↔
      FieldKind.Chosen type kind relationName chosen := by
  constructor
  · rintro rfl
    cases relationName with
    | some name => exact .relation kind name
    | none =>
      by_cases h : kind = "scalar"
      · subst h; exact .scalar
      · simp only [FieldKind.ofParts, h, if_false]; exact .reference h
  · intro h
    cases h with
    | relation => rfl
    | scalar => rfl
    | reference other => simp [FieldKind.ofParts, other]

/-! ## 5. Records

The object form and the array form of a record decode the same members,
in two orders. Each has a lemma of its own, and both say the same. -/

/-- The two forms settle what a record is decoded to. -/
theorem decodeRecord_eq_ok {α : Type} {record : Record}
    {ofMembers : List (String × Json) → Except Mismatch α}
    {ofItems : List Json → Except Mismatch α} {Holds : Json → α → Prop}
    (hmembers : ∀ {members a}, ofMembers members = .ok a ↔ Holds (.object members) a)
    (hitems : ∀ {items a}, ofItems items = .ok a ↔ Holds (.array items) a)
    (hrecord : ∀ {json a}, Holds json a → json.IsRecord record.size)
    {json : Json} {a : α} :
    decodeRecord record ofMembers ofItems json = .ok a ↔ Holds json a := by
  cases json with
  | object members => exact hmembers
  | array items => exact hitems
  | _ =>
    simp only [decodeRecord, reduceCtorEq, false_iff]
    exact fun h => hrecord h

theorem EnumValue.ofMembers_eq_ok {members : List (String × Json)} {value : EnumValue} :
    EnumValue.ofMembers members = .ok value ↔ EnumValue.HeldBy (.object members) value := by
  simp only [EnumValue.ofMembers, bind_eq_ok, pure_eq_ok, member?_eq_ok, required_eq_ok]
  constructor
  · rintro ⟨dbName, hdbName, _, hname, name, rfl, rfl⟩
    exact ⟨trivial, text_iff.1 hname, optionalText_iff.1 ⟨dbName, hdbName, rfl⟩⟩
  · rintro ⟨-, hname, hdbName⟩
    obtain ⟨dbName, hdbName, hjoin⟩ := optionalText_iff.2 hdbName
    exact ⟨dbName, hdbName, _, text_iff.2 hname, _, rfl, by rw [hjoin]⟩

theorem EnumValue.ofItems_eq_ok {items : List Json} {value : EnumValue} :
    EnumValue.ofItems items = .ok value ↔ EnumValue.HeldBy (.array items) value := by
  simp only [EnumValue.ofItems, bind_eq_ok, pure_eq_ok, item?_eq_ok, requiredItem_eq_ok,
    expectItems_eq_ok]
  constructor
  · rintro ⟨name, hname, dbName, hdbName, _, hlength, rfl⟩
    exact ⟨hlength, text_iff.1 hname, optionalText_iff.1 ⟨dbName, hdbName, rfl⟩⟩
  · rintro ⟨hlength, hname, hdbName⟩
    obtain ⟨dbName, hdbName, hjoin⟩ := optionalText_iff.2 hdbName
    exact ⟨_, text_iff.2 hname, dbName, hdbName, (), hlength, by rw [hjoin]⟩

theorem EnumValue.decode_eq_ok {json : Json} {value : EnumValue} :
    EnumValue.decode json = .ok value ↔ EnumValue.HeldBy json value :=
  decodeRecord_eq_ok ofMembers_eq_ok ofItems_eq_ok (·.record)

theorem Enum.ofMembers_eq_ok {members : List (String × Json)} {enum : Enum} :
    Enum.ofMembers members = .ok enum ↔ Enum.HeldBy (.object members) enum := by
  simp only [Enum.ofMembers, bind_eq_ok, pure_eq_ok, member?_eq_ok, required_eq_ok]
  constructor
  · rintro ⟨_, hname, values, hvalues, name, rfl, rfl⟩
    exact ⟨trivial, text_iff.1 hname,
      (sequence_iff EnumValue.decode_eq_ok).1 ⟨values, hvalues, rfl⟩⟩
  · rintro ⟨-, hname, hvalues⟩
    obtain ⟨values, hvalues, hgetD⟩ := (sequence_iff EnumValue.decode_eq_ok).2 hvalues
    exact ⟨_, text_iff.2 hname, values, hvalues, _, rfl, by rw [hgetD]⟩

theorem Enum.ofItems_eq_ok {items : List Json} {enum : Enum} :
    Enum.ofItems items = .ok enum ↔ Enum.HeldBy (.array items) enum := by
  simp only [Enum.ofItems, bind_eq_ok, pure_eq_ok, item?_eq_ok, requiredItem_eq_ok,
    expectItems_eq_ok]
  constructor
  · rintro ⟨name, hname, values, hvalues, _, hlength, rfl⟩
    exact ⟨hlength, text_iff.1 hname,
      (sequence_iff EnumValue.decode_eq_ok).1 ⟨values, hvalues, rfl⟩⟩
  · rintro ⟨hlength, hname, hvalues⟩
    obtain ⟨values, hvalues, hgetD⟩ := (sequence_iff EnumValue.decode_eq_ok).2 hvalues
    exact ⟨_, text_iff.2 hname, values, hvalues, (), hlength, by rw [hgetD]⟩

theorem Enum.decode_eq_ok {json : Json} {enum : Enum} :
    Enum.decode json = .ok enum ↔ Enum.HeldBy json enum :=
  decodeRecord_eq_ok ofMembers_eq_ok ofItems_eq_ok (·.record)

theorem Field.ofMembers_eq_ok {members : List (String × Json)} {field : Field} :
    Field.ofMembers members = .ok field ↔ Field.HeldBy (.object members) field := by
  simp only [Field.ofMembers, bind_eq_ok, pure_eq_ok, member?_eq_ok, required_eq_ok]
  constructor
  · rintro ⟨dbName, hdbName, isList, hisList, isRequired, hisRequired, _, hkind, _, hname,
      relationName, hrelation, _, htype, name, rfl, kind, rfl, type, rfl, rfl⟩
    obtain ⟨value, hpart, hword⟩ := word_iff.1 hkind
    exact {
      record := trivial
      name := text_iff.1 hname
      dbName := optionalText_iff.1 ⟨dbName, hdbName, rfl⟩
      kind := ⟨value, kind, type, relationName.join, hpart, hword, text_iff.1 htype,
        optionalText_iff.1 ⟨relationName, hrelation, rfl⟩, FieldKind.chosen_iff.1 rfl⟩
      isList := flag_iff.1 ⟨isList, hisList, rfl⟩
      isRequired := flag_iff.1 ⟨isRequired, hisRequired, rfl⟩ }
  · rintro ⟨-, hname, hdbName, ⟨value, kind, type, _, hpart, hword, htype, hrelation, hchosen⟩,
      hisList, hisRequired⟩
    obtain ⟨dbName, hdbName, hdb⟩ := optionalText_iff.2 hdbName
    obtain ⟨isList, hisList, hl⟩ := flag_iff.2 hisList
    obtain ⟨isRequired, hisRequired, hr⟩ := flag_iff.2 hisRequired
    obtain ⟨relationName, hfound, rfl⟩ := optionalText_iff.2 hrelation
    exact ⟨dbName, hdbName, isList, hisList, isRequired, hisRequired, _,
      word_iff.2 ⟨value, hpart, hword⟩, _, text_iff.2 hname, relationName, hfound, _,
      text_iff.2 htype, _, rfl, _, rfl, _, rfl,
      by rw [hdb, hl, hr, FieldKind.chosen_iff.2 hchosen]⟩

theorem Field.ofItems_eq_ok {items : List Json} {field : Field} :
    Field.ofItems items = .ok field ↔ Field.HeldBy (.array items) field := by
  simp only [Field.ofItems, bind_eq_ok, pure_eq_ok, item?_eq_ok, requiredItem_eq_ok,
    expectItems_eq_ok]
  constructor
  · rintro ⟨name, hname, dbName, hdbName, kind, hkind, type, htype, isList, hisList,
      isRequired, hisRequired, relationName, hrelation, _, hlength, rfl⟩
    obtain ⟨value, hpart, hword⟩ := word_iff.1 hkind
    exact {
      record := hlength
      name := text_iff.1 hname
      dbName := optionalText_iff.1 ⟨dbName, hdbName, rfl⟩
      kind := ⟨value, kind, type, relationName.join, hpart, hword, text_iff.1 htype,
        optionalText_iff.1 ⟨relationName, hrelation, rfl⟩, FieldKind.chosen_iff.1 rfl⟩
      isList := flag_iff.1 ⟨isList, hisList, rfl⟩
      isRequired := flag_iff.1 ⟨isRequired, hisRequired, rfl⟩ }
  · rintro ⟨hlength, hname, hdbName, ⟨value, kind, type, _, hpart, hword, htype, hrelation,
      hchosen⟩, hisList, hisRequired⟩
    obtain ⟨dbName, hdbName, hdb⟩ := optionalText_iff.2 hdbName
    obtain ⟨isList, hisList, hl⟩ := flag_iff.2 hisList
    obtain ⟨isRequired, hisRequired, hr⟩ := flag_iff.2 hisRequired
    obtain ⟨relationName, hfound, rfl⟩ := optionalText_iff.2 hrelation
    exact ⟨_, text_iff.2 hname, dbName, hdbName, _, word_iff.2 ⟨value, hpart, hword⟩, _,
      text_iff.2 htype, isList, hisList, isRequired, hisRequired, relationName, hfound, (),
      hlength, by rw [hdb, hl, hr, FieldKind.chosen_iff.2 hchosen]⟩

theorem Field.decode_eq_ok {json : Json} {field : Field} :
    Field.decode json = .ok field ↔ Field.HeldBy json field :=
  decodeRecord_eq_ok ofMembers_eq_ok ofItems_eq_ok (·.record)

theorem Model.ofMembers_eq_ok {members : List (String × Json)} {model : Model} :
    Model.ofMembers members = .ok model ↔ Model.HeldBy (.object members) model := by
  simp only [Model.ofMembers, bind_eq_ok, pure_eq_ok, member?_eq_ok, required_eq_ok]
  constructor
  · rintro ⟨dbName, hdbName, fields, hfields, _, hname, name, rfl, rfl⟩
    exact ⟨trivial, text_iff.1 hname, optionalText_iff.1 ⟨dbName, hdbName, rfl⟩,
      (sequence_iff Field.decode_eq_ok).1 ⟨fields, hfields, rfl⟩⟩
  · rintro ⟨-, hname, hdbName, hfields⟩
    obtain ⟨dbName, hdbName, hjoin⟩ := optionalText_iff.2 hdbName
    obtain ⟨fields, hfields, hgetD⟩ := (sequence_iff Field.decode_eq_ok).2 hfields
    exact ⟨dbName, hdbName, fields, hfields, _, text_iff.2 hname, _, rfl, by rw [hjoin, hgetD]⟩

theorem Model.ofItems_eq_ok {items : List Json} {model : Model} :
    Model.ofItems items = .ok model ↔ Model.HeldBy (.array items) model := by
  simp only [Model.ofItems, bind_eq_ok, pure_eq_ok, item?_eq_ok, requiredItem_eq_ok,
    expectItems_eq_ok]
  constructor
  · rintro ⟨name, hname, dbName, hdbName, fields, hfields, _, hlength, rfl⟩
    exact ⟨hlength, text_iff.1 hname, optionalText_iff.1 ⟨dbName, hdbName, rfl⟩,
      (sequence_iff Field.decode_eq_ok).1 ⟨fields, hfields, rfl⟩⟩
  · rintro ⟨hlength, hname, hdbName, hfields⟩
    obtain ⟨dbName, hdbName, hjoin⟩ := optionalText_iff.2 hdbName
    obtain ⟨fields, hfields, hgetD⟩ := (sequence_iff Field.decode_eq_ok).2 hfields
    exact ⟨_, text_iff.2 hname, dbName, hdbName, fields, hfields, (), hlength,
      by rw [hjoin, hgetD]⟩

theorem Model.decode_eq_ok {json : Json} {model : Model} :
    Model.decode json = .ok model ↔ Model.HeldBy json model :=
  decodeRecord_eq_ok ofMembers_eq_ok ofItems_eq_ok (·.record)

/-! ## 6. Documents -/

theorem ofMembers_eq_ok {members : List (String × Json)} {datamodel : Datamodel} :
    ofMembers members = .ok datamodel ↔ HeldByMembers members datamodel := by
  simp only [ofMembers, bind_eq_ok, pure_eq_ok, member?_eq_ok]
  constructor
  · rintro ⟨enums, henums, models, hmodels, types, htypes, rfl⟩
    exact ⟨(sequence_iff Enum.decode_eq_ok).1 ⟨enums, henums, rfl⟩,
      (sequence_iff Model.decode_eq_ok).1 ⟨models, hmodels, rfl⟩,
      (sequence_iff Model.decode_eq_ok).1 ⟨types, htypes, rfl⟩⟩
  · rintro ⟨henums, hmodels, htypes⟩
    obtain ⟨enums, henums, he⟩ := (sequence_iff Enum.decode_eq_ok).2 henums
    obtain ⟨models, hmodels, hm⟩ := (sequence_iff Model.decode_eq_ok).2 hmodels
    obtain ⟨types, htypes, ht⟩ := (sequence_iff Model.decode_eq_ok).2 htypes
    exact ⟨enums, henums, models, hmodels, types, htypes, by rw [he, hm, ht]⟩

/-- A name is among the members exactly when a value is found behind it. -/
theorem any_hasMember {names : List String} {members : List (String × Json)} :
    names.any (Json.hasMember · members) = true ↔
      ∃ name ∈ names, Json.lookup name members ≠ none := by
  simp only [List.any_eq_true, ← Json.lookup_isSome, Option.isSome_iff_ne_none]

/-- The decoder answers with a datamodel exactly when the document holds it. -/
theorem ofDocument_eq_ok {document : Json} {datamodel : Datamodel} :
    ofDocument document = .ok datamodel ↔ HeldBy document datamodel := by
  simp only [ofDocument, bind_eq_ok, mapError_eq_ok, ofMembers_eq_ok]
  constructor
  · rintro ⟨members, hmembers, hholds⟩
    unfold membersOfDocument at hmembers
    split at hmembers
    · rename_i document
      split at hmembers
      · rename_i hinner
        cases hmembers
        exact .full hinner hholds
      · cases hmembers
      · rename_i hinner
        split at hmembers
        · rename_i hknown
          cases hmembers
          exact .bare hinner (any_hasMember.1 hknown) hholds
        · cases hmembers
    · cases hmembers
  · intro h
    cases h with
    | @full document members _ inner holds =>
      exact ⟨members, by simp [membersOfDocument, inner], holds⟩
    | @bare document _ noInner known holds =>
      exact ⟨document, by simp [membersOfDocument, noInner, any_hasMember.2 known], holds⟩

/-- Reading a text is reading its JSON value. -/
theorem parse_eq_ok {text : String} {datamodel : Datamodel} :
    parse text = .ok datamodel ↔
      ∃ document, Json.read text = .ok document ∧ ofDocument document = .ok datamodel := by
  simp only [parse, read, mapError_eq_ok, bind_eq_ok]

/-- A text is accepted exactly when it spells a JSON value that holds a
datamodel, and the answer is the datamodel that it holds: nothing malformed
is passed over, and nothing well formed is refused or lost. What else a text
may spell does not matter, since it spells one value at most. -/
theorem parse_eq_ok_iff (text : String) (datamodel : Datamodel) :
    (parse text = .ok datamodel ↔
        ∃ document, Json.Spells text document ∧ HeldBy document datamodel) ∧
      ∀ document, Json.Spells text document →
        (parse text = .ok datamodel ↔ HeldBy document datamodel) := by
  simp only [parse_eq_ok, Json.read_eq_ok, ofDocument_eq_ok, true_and]
  intro document hspells
  constructor
  · rintro ⟨found, hfound, holds⟩
    have hsame : (.ok found : Except _ Json) = .ok document :=
      (Json.read_eq_ok.2 hfound).symm.trans (Json.read_eq_ok.2 hspells)
    rwa [← Except.ok.inj hsame]
  · exact fun holds => ⟨document, hspells, holds⟩

/-- A document with a datamodel in it, whose records take both forms. The
member in front of it is none of its own. -/
def mixedText : String :=
  "\x7b\"enums\":1,\"datamodel\":\x7b\"enums\":[[\"E\",[[\"a\",\"b\"]]]]," ++
    "\"types\":[\x7b\"name\":\"T\"," ++
    "\"fields\":[[\"e\",null,\x7b\"enum\":null\x7d,\"E\"]]\x7d]\x7d\x7d"

/-- The field in it, by position: its kind is an object with one name. -/
def mixedField : Json :=
  .array [.string "e", .null, .object [("enum", .null)], .string "E"]

theorem heldBy_mixedField : Field.HeldBy mixedField ⟨"e", none, .reference "E", false, false⟩ where
  record := by simp [mixedField, Json.IsRecord]
  name := rfl
  dbName := .null
  kind := ⟨_, "enum", "E", none, rfl, .tagged (by simp) rfl, rfl, .absent, .reference (by decide)⟩
  isList := .absent
  isRequired := .absent

set_option maxRecDepth 4000 in
/-- Every member is held where its record has it, and with null for a list
there is nothing that could be held. -/
theorem parse_eq_ok_iff_mixed :
    parse mixedText = .ok ⟨[⟨"E", [⟨"a", some "b"⟩]⟩], [],
        [⟨"T", none, [⟨"e", none, .reference "E", false, false⟩]⟩]⟩ ∧
      ∀ datamodel, parse "\x7b\"models\":null\x7d" ≠ .ok datamodel := by
  constructor
  · have hspells : Json.Spells mixedText (.object [("enums", .integer 1), ("datamodel",
        .object [("enums", .array [.array [.string "E",
            .array [.array [.string "a", .string "b"]]]]),
          ("types", .array [.object [("name", .string "T"),
            ("fields", .array [mixedField])]])])]) :=
      Json.spells_of_read rfl
    refine (parse_eq_ok_iff mixedText _).1.2 ⟨_, hspells, .full rfl ?_⟩
    exact {
      enums := .given (.cons ⟨Nat.le_refl 2, rfl,
        .given (.cons ⟨Nat.le_refl 2, rfl, .given "b"⟩ .nil)⟩ .nil)
      models := .absent
      types := .given (.cons ⟨trivial, rfl, .absent,
        .given (.cons heldBy_mixedField .nil)⟩ .nil) }
  · intro datamodel hparse
    have hspells : Json.Spells "\x7b\"models\":null\x7d" (.object [("models", .null)]) :=
      Json.spells_of_read rfl
    have holds := ((parse_eq_ok_iff _ datamodel).2 _ hspells).1 hparse
    cases holds with
    | full inner => cases inner
    | bare _ _ holds => cases holds.models

end Datamodel

end DatamodelTypes
