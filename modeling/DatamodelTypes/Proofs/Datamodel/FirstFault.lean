/-
DatamodelTypes.Proofs.Datamodel.FirstFault — which of several faults of a
document is reported.

A datamodel is decoded list by list, a list entry by entry, and an entry
part by part, down to the fields and the enum values. `Reaches` follows
that order: decoding comes to a record if all that is decoded before it
decodes. It says nothing of what stands behind. A record that decoding
comes to and that does not decode is what the document is refused for
(`parse_eq_first_fault`), whatever else is wrong with it.

The proof is an induction on the way to the record. Each step is one list
in one object: what stands before the list fails with nothing, and so do
the entries before the one in question (`Part.fault?_of_listReaches`).
-/
import DatamodelTypes.Proofs.Datamodel.Equivalence

namespace DatamodelTypes.Datamodel

open Json (Mismatch Denotes)

/-! ## 1. The order of decoding -/

/-- A list that may be left out, all of whose entries decode. -/
def ListDecodes (kind : RecordKind) (list : Option Json) : Prop :=
  ∀ json ∈ list, ∃ entries, decodeList kind.decode json = .ok entries

/-- Decoding a list comes to an entry: the ones before it decode. -/
inductive ListReaches (kind : RecordKind) : Option Json → Json → Prop
  | entry {before after : List Json} {entry : Json}
      (decoded : ∀ item ∈ before, ∃ record, kind.decode item = .ok record) :
      ListReaches kind (some (.array (before ++ entry :: after))) entry

/-- Decoding a datamodel, given by its members, comes to a record of some
kind. The lists come one after the other. Inside an enum the values come
behind its name, and inside a model the fields come behind its `dbName`. -/
inductive Reaches (members : List (String × Json)) : RecordKind → Json → Prop
  | enum {entry : Json} (list : ListReaches .enum (Json.lookup "enums" members) entry) :
      Reaches members .enum entry
  | model {entry : Json} (enums : ListDecodes .enum (Json.lookup "enums" members))
      (list : ListReaches .model (Json.lookup "models" members) entry) :
      Reaches members .model entry
  | type {entry : Json} (enums : ListDecodes .enum (Json.lookup "enums" members))
      (models : ListDecodes .model (Json.lookup "models" members))
      (list : ListReaches .model (Json.lookup "types" members) entry) :
      Reaches members .model entry
  | value {inner : List (String × Json)} {entry : Json}
      (enum : Reaches members .enum (.object inner))
      (name : ∀ json ∈ Json.lookup "name" inner, ∃ text, json = .string text)
      (list : ListReaches .enumValue (Json.lookup "values" inner) entry) :
      Reaches members .enumValue entry
  | field {inner : List (String × Json)} {entry : Json}
      (model : Reaches members .model (.object inner))
      (dbName : ∀ json ∈ Json.lookup "dbName" inner, json = .null ∨ ∃ text, json = .string text)
      (list : ListReaches .field (Json.lookup "fields" inner) entry) :
      Reaches members .field entry

/-! ## 2. One step -/

/-- A part that is not there, or decodes, fails with nothing. -/
theorem Part.fault?_eq_none {part : Part} {json : Json}
    (h : ∀ value ∈ json.part? part.name part.position, ∃ found, part.decode value = .ok found) :
    part.fault? json = none := by
  unfold Part.fault? Part.read
  cases hvalue : json.part? part.name part.position with
  | none => rfl
  | some value =>
    obtain ⟨found, hfound⟩ := h value hvalue
    simp [hfound]

/-- A list fails with what its first entry to fail fails with. -/
theorem failure?_decodeList {α : Type} (decode : Decoder α) (items : List Json) :
    failure? (decodeList decode (.array items)) =
      items.findSome? fun item => failure? (decode item) :=
  failure?_mapM items

/-- A part fails with the entry that decoding its list comes to. -/
theorem Part.fault?_of_listReaches (kind : RecordKind) {name : String} {position : Nat}
    {json entry : Json} {mismatch : Mismatch}
    (h : ListReaches kind (json.part? name position) entry)
    (hentry : kind.decode entry = .error mismatch) :
    Part.fault? ⟨name, position, decodeList kind.decode⟩ json = some mismatch := by
  unfold Part.fault? Part.read
  dsimp only
  generalize json.part? name position = list at h
  cases h with
  | @entry before after _ decoded =>
    have hfirst : failure? (decodeList kind.decode (.array (before ++ entry :: after))) =
        some mismatch := by
      rw [failure?_decodeList, List.findSome?_eq_some_iff]
      refine ⟨before, entry, after, rfl, failure?_eq_some.2 hentry, fun item hitem => ?_⟩
      obtain ⟨record, hrecord⟩ := decoded item hitem
      rw [hrecord, failure?_ok]
    rw [failure?_eq_some] at hfirst
    simp [hfirst]

/-- An object fails with what the first part to fail fails with. -/
theorem decode_object_eq_error {kind : RecordKind} {members : List (String × Json)}
    {mismatch : Mismatch}
    (h : kind.parts.findSome? (·.fault? (.object members)) = some mismatch) :
    kind.decode (.object members) = .error mismatch := by
  rw [← failure?_eq_some, failure?_decode_object, h, Option.some_or]

/-! ## 3. All the way -/

/-- By induction on the way to the record: the record that decoding comes to
last is the first one that fails. -/
theorem ofMembers_eq_error_of_reaches {members : List (String × Json)} {kind : RecordKind}
    {entry : Json} (h : Reaches members kind entry) {mismatch : Mismatch}
    (hentry : kind.decode entry = .error mismatch) : ofMembers members = .error mismatch := by
  induction h with
  | enum list =>
    have hlist : Part.fault? ⟨"enums", 0, decodeList Enum.decode⟩ (.object members) =
        some mismatch := Part.fault?_of_listReaches .enum list hentry
    rw [← failure?_eq_some, failure?_ofMembers]
    simp only [lists, List.findSome?_cons, hlist]
  | model enums list =>
    have henums : Part.fault? ⟨"enums", 0, decodeList Enum.decode⟩ (.object members) = none :=
      Part.fault?_eq_none enums
    have hlist : Part.fault? ⟨"models", 1, decodeList Model.decode⟩ (.object members) =
        some mismatch := Part.fault?_of_listReaches .model list hentry
    rw [← failure?_eq_some, failure?_ofMembers]
    simp only [lists, List.findSome?_cons, henums, hlist]
  | type enums models list =>
    have henums : Part.fault? ⟨"enums", 0, decodeList Enum.decode⟩ (.object members) = none :=
      Part.fault?_eq_none enums
    have hmodels : Part.fault? ⟨"models", 1, decodeList Model.decode⟩ (.object members) = none :=
      Part.fault?_eq_none models
    have hlist : Part.fault? ⟨"types", 2, decodeList Model.decode⟩ (.object members) =
        some mismatch := Part.fault?_of_listReaches .model list hentry
    rw [← failure?_eq_some, failure?_ofMembers]
    simp only [lists, List.findSome?_cons, henums, hmodels, hlist]
  | @value inner _ _ name list ih =>
    have hname : Part.fault? ⟨"name", 0, decodeString⟩ (.object inner) = none := by
      refine Part.fault?_eq_none fun json hjson => ?_
      obtain ⟨text, rfl⟩ := name json hjson
      exact ⟨text, rfl⟩
    have hlist : Part.fault? ⟨"values", 1, decodeList EnumValue.decode⟩ (.object inner) =
        some mismatch := Part.fault?_of_listReaches .enumValue list hentry
    refine ih (decode_object_eq_error ?_)
    simp only [RecordKind.parts, List.findSome?_cons, hname, hlist]
  | @field inner _ _ dbName list ih =>
    have hdbName : Part.fault? ⟨"dbName", 1, decodeOptionalString⟩ (.object inner) = none := by
      refine Part.fault?_eq_none fun json hjson => ?_
      obtain rfl | ⟨text, rfl⟩ := dbName json hjson
      · exact ⟨none, rfl⟩
      · exact ⟨some text, rfl⟩
    have hlist : Part.fault? ⟨"fields", 2, decodeList Field.decode⟩ (.object inner) =
        some mismatch := Part.fault?_of_listReaches .field list hentry
    refine ih (decode_object_eq_error ?_)
    simp only [RecordKind.parts, List.findSome?_cons, hdbName, hlist]

/-! ## 4. The first fault is reported -/

/-- A document is refused for the first record that does not decode, in the
order of decoding, whatever stands behind it. An object among the records
fails with the first of its parts that is there and does not decode; only
if they all decode, it fails with the first required part that is missing. -/
theorem parse_eq_first_fault {text : String} {document : Json} {members : List (String × Json)}
    (htext : Denotes text document) (hmembers : membersOfDocument document = .ok members) :
    (∀ {kind entry mismatch}, Reaches members kind entry → kind.decode entry = .error mismatch →
        parse text = .error (.parse mismatch.message)) ∧
      (∀ {kind inner name}, Reaches members kind (.object inner) →
        (∀ part ∈ kind.parts, part.fault? (.object inner) = none) →
        firstMissing? inner kind.requiredNames = some name →
        parse text = .error (.parse (Mismatch.missing name).message)) ∧
      ∀ (kind : RecordKind) (inner : List (String × Json)),
        failure? (kind.decode (.object inner)) =
          (kind.parts.findSome? (·.fault? (.object inner))).or
            ((firstMissing? inner kind.requiredNames).map .missing) := by
  have hfirst : ∀ {kind entry mismatch}, Reaches members kind entry →
      kind.decode entry = .error mismatch → parse text = .error (.parse mismatch.message) := by
    intro kind entry mismatch hreaches hentry
    rw [parse_of_denotes htext, parseValue_of_members hmembers,
      ofMembers_eq_error_of_reaches hreaches hentry]
    rfl
  refine ⟨hfirst, ?_, failure?_decode_object⟩
  intro kind inner name hreaches hparts hmissing
  have hnone : kind.parts.findSome? (·.fault? (.object inner)) = none :=
    List.findSome?_eq_none_iff.2 hparts
  refine hfirst hreaches (failure?_eq_some.1 ?_)
  rw [failure?_decode_object, hnone, hmissing]
  rfl

/-- A document with many faults: the model has no name and a field without a
kind, a field is null, a model is a number, and the types are no list. -/
def manyFaultsText : String :=
  "\x7b\"models\":[\x7b\"fields\":[\x7b\"name\":\"id\",\"kind\":\"scalar\",\"type\":\"Int\"\x7d," ++
    "\x7b\"name\":\"owner\",\"type\":\"User\"\x7d,null]\x7d,3],\"types\":false\x7d"

set_option maxRecDepth 2000 in
/-- The field without a kind comes first. -/
theorem parse_eq_first_fault_manyFaults :
    parse manyFaultsText = .error (.parse "missing field `kind`") := by
  let id : Json := .object [("name", .string "id"), ("kind", .string "scalar"),
    ("type", .string "Int")]
  let owner : List (String × Json) := [("name", .string "owner"), ("type", .string "User")]
  let inner : List (String × Json) := [("fields", .array ([id] ++ .object owner :: [.null]))]
  let members : List (String × Json) :=
    [("models", .array ([] ++ .object inner :: [.integer 3])), ("types", .bool false)]
  have hread : Json.read manyFaultsText = .ok (.object members) := rfl
  have hmodel : Reaches members .model (.object inner) := by
    refine .model (by simp [ListDecodes, members, Json.lookup]) ?_
    exact .entry (by simp)
  have hfield : Reaches members .field (.object owner) := by
    refine .field hmodel (by simp [inner, Json.lookup]) (.entry ?_)
    simp only [List.mem_singleton, forall_eq]
    exact ⟨_, rfl⟩
  have hparts : ∀ part ∈ RecordKind.field.parts, part.fault? (.object owner) = none := by
    simp only [RecordKind.parts, List.forall_mem_cons]
    exact ⟨rfl, rfl, rfl, rfl, rfl, rfl, rfl, by simp⟩
  obtain ⟨-, hmissing, -⟩ := parse_eq_first_fault (denotes_of_read hread) rfl
  exact hmissing hfield hparts rfl

end DatamodelTypes.Datamodel
