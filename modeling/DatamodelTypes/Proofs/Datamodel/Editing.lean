/-
DatamodelTypes.Proofs.Datamodel.Editing — documents with other fields in
them.

`FieldEdit` says what takes the place of each entry among the fields of a
document: one entry, none or several, depending on where it stands. The
rest of the document stays. An edit goes down from the document to the
fields, and at each level there is one lemma about what is found behind a
name, or at a position, after the edit.

An edited document can be written if the original can and the new entries
can (`FieldEdit.Writable.document`).
-/
import DatamodelTypes.Proofs.Datamodel.Acceptance
import DatamodelTypes.Proofs.Json.Equivalence

namespace DatamodelTypes

namespace Json

/-! ## 1. Members -/

/-- An object with a value behind a name, in place of any there was. -/
def setMember (name : String) (value : Json) (members : List (String × Json)) :
    List (String × Json) :=
  members.filter (·.1 != name) ++ [(name, value)]

/-- An object with another value behind a name, if there was one. -/
def alterMember (name : String) (f : Json → Json) (members : List (String × Json)) :
    List (String × Json) :=
  members.map fun member => if member.1 = name then (name, f member.2) else member

theorem lookup_filter_of_ne {name other : String} (h : other ≠ name)
    (members : List (String × Json)) :
    lookup other (members.filter (·.1 != name)) = lookup other members := by
  induction members with
  | nil => rfl
  | cons member members ih =>
    by_cases hname : member.1 = name
    · have hother : member.1 ≠ other := fun hother => h (hother.symm.trans hname)
      rw [List.filter_cons_of_neg (by simpa using hname), ih, lookup_cons, if_neg hother,
        Option.or_none]
    · rw [List.filter_cons_of_pos (by simpa using hname), lookup_cons, lookup_cons, ih]

theorem lookup_setMember_self (name : String) (value : Json) (members : List (String × Json)) :
    lookup name (setMember name value members) = some value := by
  simp [setMember, lookup_append, lookup]

theorem lookup_setMember_of_ne {name other : String} (h : other ≠ name) (value : Json)
    (members : List (String × Json)) :
    lookup other (setMember name value members) = lookup other members := by
  simp [setMember, lookup_append, lookup, h.symm, lookup_filter_of_ne h]

theorem lookup_alterMember_self (name : String) (f : Json → Json)
    (members : List (String × Json)) :
    lookup name (alterMember name f members) = (lookup name members).map f := by
  induction members with
  | nil => rfl
  | cons member members ih =>
    simp only [alterMember, List.map_cons] at ih ⊢
    rw [lookup_cons, lookup_cons, ih, Option.map_or]
    by_cases hname : member.1 = name <;> simp [hname]

theorem lookup_alterMember_of_ne {name other : String} (h : other ≠ name) (f : Json → Json)
    (members : List (String × Json)) :
    lookup other (alterMember name f members) = lookup other members := by
  induction members with
  | nil => rfl
  | cons member members ih =>
    simp only [alterMember, List.map_cons] at ih ⊢
    rw [lookup_cons, lookup_cons, ih]
    by_cases hname : member.1 = name
    · simp [hname, h.symm]
    · simp [hname]

/-! ## 2. Records and lists -/

/-- A record with another value for a part, if there was one. -/
def alterPart (name : String) (position : Nat) (f : Json → Json) : Json → Json
  | .object members => .object (alterMember name f members)
  | .array items => .array (items.modify position f)
  | other => other

/-- Items, each replaced by what `edit` says for its place. -/
def editItems (edit : Nat → Json → List Json) (items : List Json) : List Json :=
  (items.mapIdx edit).flatten

/-- An array with its items replaced. -/
def alterItems (edit : Nat → Json → List Json) : Json → Json
  | .array items => .array (editItems edit items)
  | other => other

theorem part?_alterPart_self (name : String) (position : Nat) (f : Json → Json) (json : Json) :
    (alterPart name position f json).part? name position =
      (json.part? name position).map f := by
  cases json with
  | object members => exact lookup_alterMember_self name f members
  | array items => simp [alterPart, part?]
  | _ => rfl

theorem part?_alterPart_of_ne {name other : String} {position index : Nat} (h : other ≠ name)
    (hindex : index ≠ position) (f : Json → Json) (json : Json) :
    (alterPart name position f json).part? other index = json.part? other index := by
  cases json with
  | object members => exact lookup_alterMember_of_ne h f members
  | array items => simp [alterPart, part?, hindex.symm]
  | _ => rfl

theorem isRecord_alterPart {size : Nat} {json : Json} (h : json.IsRecord size) (name : String)
    (position : Nat) (f : Json → Json) : (alterPart name position f json).IsRecord size := by
  cases json with
  | object => trivial
  | array items => simpa [alterPart, IsRecord] using h
  | _ => exact h

theorem editItems_cons (edit : Nat → Json → List Json) (item : Json) (items : List Json) :
    editItems edit (item :: items) = edit 0 item ++ editItems (fun i => edit (i + 1)) items := by
  simp [editItems, List.mapIdx_cons]

/-! ## 3. What can be written -/

/-- What can be written stays so. -/
def KeepsSpellable (f : Json → Json) : Prop :=
  ∀ (depth : Nat) (json : Json), Spellable depth json → Spellable depth (f json)

/-- What takes the place of an item can be written if the item can. -/
def YieldsSpellable (edit : Json → List Json) : Prop :=
  ∀ (depth : Nat) (json : Json), Spellable depth json → ∀ item ∈ edit json, Spellable depth item

theorem KeepsSpellable.yields {f : Json → Json} (h : KeepsSpellable f) :
    YieldsSpellable fun json => [f json] := by
  intro depth json hjson
  simpa using h depth json hjson

theorem spellable_of_mem_alterMember {f : Json → Json} (h : KeepsSpellable f) {depth : Nat}
    {members : List (String × Json)} (hmembers : ∀ member ∈ members, Spellable depth member.2)
    (name : String) : ∀ member ∈ alterMember name f members, Spellable depth member.2 := by
  simp only [alterMember, List.forall_mem_map]
  intro member hmember
  split
  · exact h depth member.2 (hmembers member hmember)
  · exact hmembers member hmember

theorem spellable_of_mem_modify {f : Json → Json} (h : KeepsSpellable f) {depth : Nat}
    {items : List Json} (hitems : ∀ item ∈ items, Spellable depth item) (position : Nat) :
    ∀ item ∈ items.modify position f, Spellable depth item := by
  intro item hitem
  obtain ⟨index, hindex⟩ := List.mem_iff_getElem?.1 hitem
  rw [List.getElem?_modify] at hindex
  obtain ⟨old, hold, rfl⟩ := Option.map_eq_some_iff.1 hindex
  have hspellable : Spellable depth old := hitems old (List.mem_of_getElem? hold)
  split
  · exact h depth old hspellable
  · exact hspellable

theorem KeepsSpellable.alterPart {f : Json → Json} (h : KeepsSpellable f) (name : String)
    (position : Nat) : KeepsSpellable (alterPart name position f) := by
  intro depth json hjson
  cases json with
  | object members =>
    obtain ⟨inner, rfl, hmembers⟩ := hjson.members
    exact spellable_object (spellable_of_mem_alterMember h hmembers name)
  | array items =>
    obtain ⟨inner, rfl, hitems⟩ := hjson.items
    exact spellable_array (spellable_of_mem_modify h hitems position)
  | _ => exact hjson

theorem keepsSpellable_alterItems {edit : Nat → Json → List Json}
    (h : ∀ index, YieldsSpellable (edit index)) : KeepsSpellable (alterItems edit) := by
  intro depth json hjson
  cases json with
  | array items =>
    obtain ⟨inner, rfl, hitems⟩ := hjson.items
    refine spellable_array fun item hitem => ?_
    obtain ⟨news, hnews, hitem⟩ := List.mem_flatten.1 hitem
    obtain ⟨index, hindex, rfl⟩ := List.mem_mapIdx.1 hnews
    exact h index inner _ (hitems _ (List.getElem_mem hindex)) item hitem
  | _ => exact hjson

end Json

namespace Datamodel

open Json (alterMember alterPart alterItems KeepsSpellable YieldsSpellable)

/-! ## 4. Fields of a document -/

/-- What takes the place of the fields of a document: of each field of each
model, and of each field of each composite type. -/
structure FieldEdit where
  models : Nat → Nat → Json → List Json
  types : Nat → Nat → Json → List Json

/-- A model with its fields replaced. -/
def alterFields (edit : Nat → Json → List Json) : Json → Json :=
  alterPart "fields" 2 (alterItems edit)

/-- A list of models with their fields replaced. -/
def alterModels (edit : Nat → Nat → Json → List Json) : Json → Json :=
  alterItems fun index model => [alterFields (edit index) model]

namespace FieldEdit

/-- The members of a datamodel with its fields replaced. -/
def members (edit : FieldEdit) (members : List (String × Json)) : List (String × Json) :=
  alterMember "types" (alterModels edit.types)
    (alterMember "models" (alterModels edit.models) members)

/-- A datamodel with its fields replaced. -/
def datamodel (edit : FieldEdit) : Json → Json
  | .object members => .object (edit.members members)
  | other => other

/-- A document with its fields replaced: those of its member `datamodel`,
or its own if it has none. -/
def document (edit : FieldEdit) : Json → Json
  | .object members =>
    match Json.lookup "datamodel" members with
    | some _ => .object (alterMember "datamodel" edit.datamodel members)
    | none => .object (edit.members members)
  | other => other

end FieldEdit

theorem lookup_models (edit : FieldEdit) (members : List (String × Json)) :
    Json.lookup "models" (edit.members members) =
      (Json.lookup "models" members).map (alterModels edit.models) := by
  rw [FieldEdit.members, Json.lookup_alterMember_of_ne (by decide), Json.lookup_alterMember_self]

theorem lookup_types (edit : FieldEdit) (members : List (String × Json)) :
    Json.lookup "types" (edit.members members) =
      (Json.lookup "types" members).map (alterModels edit.types) := by
  rw [FieldEdit.members, Json.lookup_alterMember_self, Json.lookup_alterMember_of_ne (by decide)]

theorem lookup_members_of_ne (edit : FieldEdit) {name : String} (hmodels : name ≠ "models")
    (htypes : name ≠ "types") (members : List (String × Json)) :
    Json.lookup name (edit.members members) = Json.lookup name members := by
  rw [FieldEdit.members, Json.lookup_alterMember_of_ne htypes,
    Json.lookup_alterMember_of_ne hmodels]

/-- No member of a datamodel is added or lost. -/
theorem lookup_members_ne_none (edit : FieldEdit) {name : String}
    {members : List (String × Json)} (h : Json.lookup name members ≠ none) :
    Json.lookup name (edit.members members) ≠ none := by
  by_cases htypes : name = "types"
  · subst htypes
    simpa [lookup_types] using h
  · by_cases hmodels : name = "models"
    · subst hmodels
      simpa [lookup_models] using h
    · rwa [lookup_members_of_ne edit hmodels htypes]

/-! ## 5. Edited documents can be written -/

/-- The new fields can be written where the old ones can. -/
structure FieldEdit.Writable (edit : FieldEdit) : Prop where
  models : ∀ index position, YieldsSpellable (edit.models index position)
  types : ∀ index position, YieldsSpellable (edit.types index position)

theorem keepsSpellable_alterModels {edit : Nat → Nat → Json → List Json}
    (h : ∀ index position, YieldsSpellable (edit index position)) :
    KeepsSpellable (alterModels edit) := by
  refine Json.keepsSpellable_alterItems fun index => ?_
  have hfields : KeepsSpellable (alterFields (edit index)) :=
    (Json.keepsSpellable_alterItems (h index)).alterPart "fields" 2
  exact hfields.yields

theorem FieldEdit.Writable.members {edit : FieldEdit} (h : edit.Writable) {depth : Nat}
    {members : List (String × Json)}
    (hmembers : ∀ member ∈ members, Json.Spellable depth member.2) :
    ∀ member ∈ edit.members members, Json.Spellable depth member.2 :=
  Json.spellable_of_mem_alterMember (keepsSpellable_alterModels h.types)
    (Json.spellable_of_mem_alterMember (keepsSpellable_alterModels h.models) hmembers "models")
    "types"

theorem FieldEdit.Writable.datamodel {edit : FieldEdit} (h : edit.Writable) :
    KeepsSpellable edit.datamodel := by
  intro depth json hjson
  cases json with
  | object members =>
    obtain ⟨inner, rfl, hmembers⟩ := hjson.members
    exact Json.spellable_object (h.members hmembers)
  | _ => exact hjson

/-- An edited document can be written if the original can. -/
theorem FieldEdit.Writable.document {edit : FieldEdit} (h : edit.Writable) :
    KeepsSpellable edit.document := by
  intro depth json hjson
  cases json with
  | object members =>
    obtain ⟨inner, rfl, hmembers⟩ := hjson.members
    simp only [FieldEdit.document]
    split
    · exact Json.spellable_object
        (Json.spellable_of_mem_alterMember h.datamodel hmembers "datamodel")
    · exact Json.spellable_object (h.members hmembers)
  | _ => exact hjson

end Datamodel

end DatamodelTypes
