/-
DatamodelTypes.Proofs.Datamodel.Parts — records by their parts.

The four kinds of record are decoded alike: part by part, each part being
looked up by its name in an object and by its position in an array. So
what a decoder answers is settled by what it is given for each part.

* `told_decode_congr`: values of the same form that agree on the parts of
  a record are told the same of, the record or the wording of the failure.
* `failure?_decode_object`: an object fails with the first part that does
  not decode, and only if they all do with a required part that is missing.

A datamodel is decoded like a record of three lists, but always from an
object.
-/
import DatamodelTypes.Proofs.Datamodel.Acceptance

namespace DatamodelTypes.Datamodel

open Json (Mismatch Record)

/-! ## 1. Parts -/

/-- A part of a record: its name in an object, its position in an array,
and what decodes it. -/
structure Part where
  name : String
  position : Nat
  {Value : Type}
  decode : Decoder Value

namespace Part

/-- What a value gives to a part, decoded if it is there. -/
def read (part : Part) (json : Json) : Except Mismatch (Option part.Value) :=
  match json.part? part.name part.position with
  | some value => some <$> part.decode value
  | none => .ok none

/-- What decoding a part fails with, if it is there and fails. -/
def fault? (part : Part) (json : Json) : Option Mismatch :=
  failure? (part.read json)

theorem read_object (part : Part) (members : List (String × Json)) :
    part.read (.object members) = member? members part.name part.decode :=
  rfl

theorem read_array (part : Part) (items : List Json) :
    part.read (.array items) = item? items part.position part.decode :=
  rfl

end Part

/-- The kinds of record that a datamodel consists of. -/
inductive RecordKind where
  | enumValue
  | enum
  | field
  | model

namespace RecordKind

/-- What a record of some kind is decoded to. -/
abbrev Value : RecordKind → Type
  | .enumValue => EnumValue
  | .enum => Enum
  | .field => Field
  | .model => Model

/-- The decoder of a kind. -/
def decode : (kind : RecordKind) → Decoder kind.Value
  | .enumValue => EnumValue.decode
  | .enum => Enum.decode
  | .field => Field.decode
  | .model => Model.decode

/-- The parts of a kind, in the order in which those of an object are
decoded, which is the alphabetical order of their names. -/
def parts : RecordKind → List Part
  | .enumValue => [⟨"dbName", 1, decodeOptionalString⟩, ⟨"name", 0, decodeString⟩]
  | .enum => [⟨"name", 0, decodeString⟩, ⟨"values", 1, decodeList EnumValue.decode⟩]
  | .field => [⟨"dbName", 1, decodeOptionalString⟩, ⟨"isList", 4, decodeBool⟩,
      ⟨"isRequired", 5, decodeBool⟩, ⟨"kind", 2, decodeWord⟩, ⟨"name", 0, decodeString⟩,
      ⟨"relationName", 6, decodeOptionalString⟩, ⟨"type", 3, decodeString⟩]
  | .model => [⟨"dbName", 1, decodeOptionalString⟩, ⟨"fields", 2, decodeList Field.decode⟩,
      ⟨"name", 0, decodeString⟩]

/-- The names of the parts that a kind cannot do without, in the order of
their declaration. -/
def requiredNames : RecordKind → List String
  | .field => ["name", "kind", "type"]
  | _ => ["name"]

end RecordKind

/-- The lists of a datamodel, in the order in which they are decoded. -/
def lists : List Part :=
  [⟨"enums", 0, decodeList Enum.decode⟩, ⟨"models", 1, decodeList Model.decode⟩,
    ⟨"types", 2, decodeList Model.decode⟩]

/-! ## 2. What is told of a record -/

/-- What is told of a computation: its result, or the wording of its
failure. -/
def told {α : Type} (x : Except Mismatch α) : Except String α :=
  x.mapError Mismatch.message

theorem told_bind {α β : Type} {x : Except Mismatch α} {f : α → Except Mismatch β} :
    told (x >>= f) = told x >>= fun a => told (f a) :=
  mapError_bind

/-- Values of which the same is told for a part. -/
def Part.Agrees (part : Part) (json other : Json) : Prop :=
  told (part.read json) = told (part.read other)

/-- Values that have the same for a part agree on it. -/
theorem Part.agrees_of_part?_eq {part : Part} {json other : Json}
    (h : json.part? part.name part.position = other.part? part.name part.position) :
    part.Agrees json other := by
  unfold Part.Agrees Part.read
  rw [h]

/-- So do values that have something for it of which the same is told. -/
theorem Part.agrees_of_told {part : Part} {json other value value' : Json}
    (h : json.part? part.name part.position = some value)
    (h' : other.part? part.name part.position = some value')
    (htold : told (part.decode value) = told (part.decode value')) : part.Agrees json other := by
  unfold Part.Agrees Part.read
  rw [h, h']
  simp only [map_eq_pure_bind, told_bind, htold]

/-- The same is told of lists of which the same is told item by item. -/
theorem told_decodeList_congr {α : Type} {decode : Decoder α} {items others : List Json}
    (h : List.Forall₂ (fun item other => told (decode item) = told (decode other)) items others) :
    told (decodeList decode (.array items)) = told (decodeList decode (.array others)) := by
  simp only [decodeList]
  induction h with
  | nil => rfl
  | cons h _ ih => simp only [List.mapM_cons, told_bind, h, ih]

/-- Values of one form: objects, arrays of one length, or the same. -/
inductive SameForm : Json → Json → Prop
  | same (json : Json) : SameForm json json
  | arrays {items others : List Json} (length : items.length = others.length) :
      SameForm (.array items) (.array others)
  | objects (members others : List (String × Json)) : SameForm (.object members) (.object others)

/-- An item that is insisted on, as one that may be missing. -/
theorem requiredItem_eq {α : Type} (record : Record) (items : List Json) (index : Nat)
    (decode : Decoder α) :
    requiredItem record items index decode = item? items index decode >>= fun
      | some a => .ok a
      | none => .error (.tooShort index record) := by
  unfold requiredItem item?
  cases items[index]? with
  | none => rfl
  | some json => cases h : decode json <;> simp [h]

theorem expectItems_congr {items others : List Json} (h : items.length = others.length)
    (record : Record) : expectItems record items = expectItems record others := by
  simp only [expectItems, h]

theorem told_decode_array (kind : RecordKind) {items others : List Json}
    (length : items.length = others.length)
    (h : ∀ part ∈ kind.parts, part.Agrees (.array items) (.array others)) :
    told (kind.decode (.array items)) = told (kind.decode (.array others)) := by
  cases kind with
  | enumValue =>
    simp only [RecordKind.parts, List.forall_mem_cons, Part.Agrees, Part.read_array] at h
    obtain ⟨hdbName, hname, -⟩ := h
    simp only [RecordKind.decode, EnumValue.decode, decodeRecord, EnumValue.ofItems,
      requiredItem_eq, expectItems_congr length, told_bind, hname, hdbName]
  | enum =>
    simp only [RecordKind.parts, List.forall_mem_cons, Part.Agrees, Part.read_array] at h
    obtain ⟨hname, hvalues, -⟩ := h
    simp only [RecordKind.decode, Enum.decode, decodeRecord, Enum.ofItems, requiredItem_eq,
      expectItems_congr length, told_bind, hname, hvalues]
  | field =>
    simp only [RecordKind.parts, List.forall_mem_cons, Part.Agrees, Part.read_array] at h
    obtain ⟨hdbName, hisList, hisRequired, hkind, hname, hrelationName, htype, -⟩ := h
    simp only [RecordKind.decode, Field.decode, decodeRecord, Field.ofItems, requiredItem_eq,
      expectItems_congr length, told_bind, hname, hdbName, hkind, htype, hisList, hisRequired,
      hrelationName]
  | model =>
    simp only [RecordKind.parts, List.forall_mem_cons, Part.Agrees, Part.read_array] at h
    obtain ⟨hdbName, hfields, hname, -⟩ := h
    simp only [RecordKind.decode, Model.decode, decodeRecord, Model.ofItems, requiredItem_eq,
      expectItems_congr length, told_bind, hname, hdbName, hfields]

theorem told_decode_object (kind : RecordKind) {members others : List (String × Json)}
    (h : ∀ part ∈ kind.parts, part.Agrees (.object members) (.object others)) :
    told (kind.decode (.object members)) = told (kind.decode (.object others)) := by
  cases kind with
  | enumValue =>
    simp only [RecordKind.parts, List.forall_mem_cons, Part.Agrees, Part.read_object] at h
    obtain ⟨hdbName, hname, -⟩ := h
    simp only [RecordKind.decode, EnumValue.decode, decodeRecord, EnumValue.ofMembers, told_bind,
      hdbName, hname]
  | enum =>
    simp only [RecordKind.parts, List.forall_mem_cons, Part.Agrees, Part.read_object] at h
    obtain ⟨hname, hvalues, -⟩ := h
    simp only [RecordKind.decode, Enum.decode, decodeRecord, Enum.ofMembers, told_bind, hname,
      hvalues]
  | field =>
    simp only [RecordKind.parts, List.forall_mem_cons, Part.Agrees, Part.read_object] at h
    obtain ⟨hdbName, hisList, hisRequired, hkind, hname, hrelationName, htype, -⟩ := h
    simp only [RecordKind.decode, Field.decode, decodeRecord, Field.ofMembers, told_bind, hdbName,
      hisList, hisRequired, hkind, hname, hrelationName, htype]
  | model =>
    simp only [RecordKind.parts, List.forall_mem_cons, Part.Agrees, Part.read_object] at h
    obtain ⟨hdbName, hfields, hname, -⟩ := h
    simp only [RecordKind.decode, Model.decode, decodeRecord, Model.ofMembers, told_bind, hdbName,
      hfields, hname]

/-- Nothing but the parts of a record counts for what is told of it. -/
theorem told_decode_congr (kind : RecordKind) {json other : Json} (hform : SameForm json other)
    (h : ∀ part ∈ kind.parts, part.Agrees json other) :
    told (kind.decode json) = told (kind.decode other) := by
  cases hform with
  | same => rfl
  | arrays length => exact told_decode_array kind length h
  | objects members others => exact told_decode_object kind h

theorem told_ofMembers_congr {members others : List (String × Json)}
    (h : ∀ part ∈ lists, part.Agrees (.object members) (.object others)) :
    told (ofMembers members) = told (ofMembers others) := by
  simp only [lists, List.forall_mem_cons, Part.Agrees, Part.read_object] at h
  obtain ⟨henums, hmodels, htypes, -⟩ := h
  simp only [ofMembers, told_bind, henums, hmodels, htypes]

/-! ## 3. What a record fails with -/

/-- The first of the names that no member has. -/
def firstMissing? (members : List (String × Json)) (names : List String) : Option String :=
  names.find? fun name => !Json.hasMember name members

section Steps

variable {α β : Type} {members : List (String × Json)} {name : String}

/-- A member that is decoded and not there is missing. -/
theorem isNone_of_member?_eq_ok {decode : Decoder α} {value : Option α}
    (h : member? members name decode = .ok value) :
    value.isNone = !Json.hasMember name members := by
  rw [member?_eq_ok] at h
  rw [← Json.lookup_isSome]
  generalize Json.lookup name members = found at h
  cases h with
  | none => rfl
  | some => rfl

/-- A first step that decodes a part puts that part in front. -/
theorem failure?_member_bind {position : Nat} {decode : Decoder α}
    {f : Option α → Except Mismatch β} {parts : List Part} {later : Option Mismatch}
    (h : ∀ value, member? members name decode = .ok value →
      failure? (f value) = (parts.findSome? (·.fault? (.object members))).or later) :
    failure? (member? members name decode >>= f) =
      ((⟨name, position, decode⟩ :: parts : List Part).findSome?
        (·.fault? (.object members))).or later := by
  rw [failure?_bind_of_ok h, List.findSome?_cons, Part.fault?, Part.read_object]
  cases failure? (member? members name decode) <;> rfl

/-- A first step that insists on a part puts its name in front. -/
theorem failure?_required_bind {decode : Decoder α} {value : Option α}
    (hvalue : member? members name decode = .ok value) {f : α → Except Mismatch β}
    {names : List String}
    (h : ∀ a, failure? (f a) = (firstMissing? members names).map .missing) :
    failure? (required name value >>= f) =
      (firstMissing? members (name :: names)).map .missing := by
  have hnone := isNone_of_member?_eq_ok hvalue
  cases value with
  | none =>
    simp only [Option.isNone_none] at hnone
    simp [required, firstMissing?, ← hnone]
  | some a =>
    simp only [Option.isNone_some] at hnone
    simp only [required, ok_bind, h, firstMissing?, List.find?_cons, ← hnone]

end Steps

/-- An object in place of a record fails with what its first part to fail
fails with. Only if no part fails, a part that is missing is the failure,
and the first one in the order of declaration. -/
theorem failure?_decode_object (kind : RecordKind) (members : List (String × Json)) :
    failure? (kind.decode (.object members)) =
      (kind.parts.findSome? (·.fault? (.object members))).or
        ((firstMissing? members kind.requiredNames).map .missing) := by
  cases kind with
  | enumValue =>
    refine failure?_member_bind fun dbName _ => ?_
    refine failure?_member_bind fun name hname => ?_
    exact failure?_required_bind hname fun _ => rfl
  | enum =>
    refine failure?_member_bind fun name hname => ?_
    refine failure?_member_bind fun values _ => ?_
    exact failure?_required_bind hname fun _ => rfl
  | field =>
    refine failure?_member_bind fun dbName _ => ?_
    refine failure?_member_bind fun isList _ => ?_
    refine failure?_member_bind fun isRequired _ => ?_
    refine failure?_member_bind fun kind hkind => ?_
    refine failure?_member_bind fun name hname => ?_
    refine failure?_member_bind fun relationName _ => ?_
    refine failure?_member_bind fun type htype => ?_
    refine failure?_required_bind hname fun _ => ?_
    refine failure?_required_bind hkind fun _ => ?_
    exact failure?_required_bind htype fun _ => rfl
  | model =>
    refine failure?_member_bind fun dbName _ => ?_
    refine failure?_member_bind fun fields _ => ?_
    refine failure?_member_bind fun name hname => ?_
    exact failure?_required_bind hname fun _ => rfl

/-- A datamodel can do without any of its lists. -/
theorem failure?_ofMembers (members : List (String × Json)) :
    failure? (ofMembers members) = lists.findSome? (·.fault? (.object members)) := by
  rw [← Option.or_none (o := lists.findSome? _)]
  refine failure?_member_bind fun enums _ => ?_
  refine failure?_member_bind fun models _ => ?_
  exact failure?_member_bind fun types _ => rfl

end DatamodelTypes.Datamodel
