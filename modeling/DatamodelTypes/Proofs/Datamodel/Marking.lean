/-
DatamodelTypes.Proofs.Datamodel.Marking — a field marked as a relation is
a field taken out.

Giving a `relationName` to a field makes it a relation, whatever its kind
and its type say, and relations leave no trace on a page. So a document
with such a name in some of its fields is converted like the document
without these fields (`convertText_marked_eq_dropped`).

## How the proof goes

The two documents do not hold the same datamodel, but the same one
without its relations. `Alike` says that of two ways to replace an item of
a list. It is shown for a field, and carried up through the lists to the
document: each level holds after the edit what it held before, but for
the part that was edited. The conversion is done with by
`convert_withoutRelations`.
-/
import DatamodelTypes.Proofs.Conversion.Relations
import DatamodelTypes.Proofs.Datamodel.Editing
import DatamodelTypes.Proofs.Datamodel.Equivalence

namespace DatamodelTypes.Datamodel

open Json (Denotes Spells alterItems alterMember editItems setMember)

/-! ## 1. Lists -/

section Lists

variable {α β : Type} (Holds : Json → α → Prop) (view : List α → List β)

/-- Two ways to replace an item, such that what the new items hold looks the
same in some view. -/
def Alike (edit edit' : Json → List Json) : Prop :=
  ∀ {item : Json} {a : α}, Holds item a →
    ∃ as as', List.Forall₂ Holds (edit item) as ∧ List.Forall₂ Holds (edit' item) as' ∧
      view as = view as'

variable {Holds view} {edit edit' : Nat → Json → List Json}

/-- By induction on the items: what looks the same for each of them looks the
same for all together. -/
theorem forall₂_editItems (hview : ∀ as as', view (as ++ as') = view as ++ view as')
    (h : ∀ index, Alike Holds view (edit index) (edit' index)) {items : List Json} {as : List α}
    (hitems : List.Forall₂ Holds items as) :
    ∃ as₁ as₂, List.Forall₂ Holds (editItems edit items) as₁ ∧
      List.Forall₂ Holds (editItems edit' items) as₂ ∧ view as₁ = view as₂ := by
  induction hitems generalizing edit edit' with
  | nil => exact ⟨[], [], .nil, .nil, rfl⟩
  | cons hitem _ ih =>
    obtain ⟨first, first', hfirst, hfirst', hsame⟩ := h 0 hitem
    obtain ⟨rest, rest', hrest, hrest', hsame'⟩ := ih fun index => h (index + 1)
    refine ⟨first ++ rest, first' ++ rest', ?_, ?_, ?_⟩
    · rw [Json.editItems_cons]
      exact List.rel_append hfirst hrest
    · rw [Json.editItems_cons]
      exact List.rel_append hfirst' hrest'
    · rw [hview, hview, hsame, hsame']

theorem sequence_alterItems (hview : ∀ as as', view (as ++ as') = view as ++ view as')
    (h : ∀ index, Alike Holds view (edit index) (edit' index)) {part : Option Json} {as : List α}
    (hpart : Sequence Holds part as) :
    ∃ as₁ as₂, Sequence Holds (part.map (alterItems edit)) as₁ ∧
      Sequence Holds (part.map (alterItems edit')) as₂ ∧ view as₁ = view as₂ := by
  cases hpart with
  | absent => exact ⟨[], [], .absent, .absent, rfl⟩
  | given hitems =>
    obtain ⟨as₁, as₂, h₁, h₂, hsame⟩ := forall₂_editItems hview h hitems
    exact ⟨as₁, as₂, .given h₁, .given h₂, hsame⟩

end Lists

/-! ## 2. Documents -/

/-- Ways to replace the fields of a document that differ in relations only. -/
structure FieldEdit.Alike (edit edit' : FieldEdit) : Prop where
  models : ∀ index position, Datamodel.Alike Field.HeldBy dataFields (edit.models index position)
    (edit'.models index position)
  types : ∀ index position, Datamodel.Alike Field.HeldBy dataFields (edit.types index position)
    (edit'.types index position)

/-- A model holds the new fields and is the same otherwise. -/
theorem Model.HeldBy.alterFields {json : Json} {model : Model} (h : Model.HeldBy json model)
    {edit : Nat → Json → List Json} {fields : List Field}
    (hfields : Sequence Field.HeldBy ((json.part? "fields" 2).map (alterItems edit)) fields) :
    Model.HeldBy (alterFields edit json) { model with fields } where
  record := Json.isRecord_alterPart h.record _ _ _
  name := by
    rw [Datamodel.alterFields, Json.part?_alterPart_of_ne (by decide) (by decide)]
    exact h.name
  dbName := by
    rw [Datamodel.alterFields, Json.part?_alterPart_of_ne (by decide) (by decide)]
    exact h.dbName
  fields := by
    rw [Datamodel.alterFields, Json.part?_alterPart_self]
    exact hfields

theorem alike_alterFields {edit edit' : Nat → Json → List Json}
    (h : ∀ position, Alike Field.HeldBy dataFields (edit position) (edit' position)) :
    Alike Model.HeldBy (List.map (·.withoutRelations)) (fun model => [alterFields edit model])
      (fun model => [alterFields edit' model]) := by
  intro json model hmodel
  obtain ⟨fields, fields', hfields, hfields', hsame⟩ :=
    sequence_alterItems dataFields_append h hmodel.fields
  refine ⟨[{ model with fields }], [{ model with fields := fields' }], ?_, ?_, ?_⟩
  · exact .cons (hmodel.alterFields hfields) .nil
  · exact .cons (hmodel.alterFields hfields') .nil
  · simp only [List.map_cons, List.map_nil, Model.withoutRelations, hsame]

theorem sequence_alterModels {edit edit' : Nat → Nat → Json → List Json}
    (h : ∀ index position, Alike Field.HeldBy dataFields (edit index position)
      (edit' index position))
    {part : Option Json} {models : List Model} (hpart : Sequence Model.HeldBy part models) :
    ∃ models₁ models₂, Sequence Model.HeldBy (part.map (alterModels edit)) models₁ ∧
      Sequence Model.HeldBy (part.map (alterModels edit')) models₂ ∧
      models₁.map (·.withoutRelations) = models₂.map (·.withoutRelations) :=
  sequence_alterItems (fun _ _ => List.map_append) (fun index => alike_alterFields (h index)) hpart

/-- The members of a datamodel hold the new models and types, and the old
enums. -/
theorem FieldEdit.heldByMembers (edit : FieldEdit) {members : List (String × Json)}
    {enums : List Enum} {models types : List Model}
    (henums : Sequence Enum.HeldBy (Json.lookup "enums" members) enums)
    (hmodels : Sequence Model.HeldBy
      ((Json.lookup "models" members).map (alterModels edit.models)) models)
    (htypes : Sequence Model.HeldBy
      ((Json.lookup "types" members).map (alterModels edit.types)) types) :
    HeldByMembers (edit.members members) { enums, models, types } where
  enums := by
    rw [lookup_members_of_ne edit (by decide) (by decide)]
    exact henums
  models := by
    rw [lookup_models]
    exact hmodels
  types := by
    rw [lookup_types]
    exact htypes

/-- So does the document around them. -/
theorem FieldEdit.heldBy_full (edit : FieldEdit) {document members : List (String × Json)}
    {datamodel : Datamodel} (inner : Json.lookup "datamodel" document = some (.object members))
    (h : HeldByMembers (edit.members members) datamodel) :
    HeldBy (edit.document (.object document)) datamodel := by
  have hinner : Json.lookup "datamodel" (alterMember "datamodel" edit.datamodel document) =
      some (.object (edit.members members)) := by
    rw [Json.lookup_alterMember_self, inner]
    rfl
  simp only [FieldEdit.document, inner]
  exact .full hinner h

/-- So does a document that is a datamodel itself: it stays one. -/
theorem FieldEdit.heldBy_bare (edit : FieldEdit) {document : List (String × Json)}
    {datamodel : Datamodel} (noInner : Json.lookup "datamodel" document = none)
    (known : ∃ name ∈ ["enums", "models", "types"], Json.lookup name document ≠ none)
    (h : HeldByMembers (edit.members document) datamodel) :
    HeldBy (edit.document (.object document)) datamodel := by
  have hnone : Json.lookup "datamodel" (edit.members document) = none := by
    rw [lookup_members_of_ne edit (by decide) (by decide), noInner]
  obtain ⟨name, hname, hlookup⟩ := known
  simp only [FieldEdit.document, noInner]
  exact .bare hnone ⟨name, hname, lookup_members_ne_none edit hlookup⟩ h

theorem HeldByMembers.edit {edit edit' : FieldEdit} (h : edit.Alike edit')
    {members : List (String × Json)} {datamodel : Datamodel}
    (hmembers : HeldByMembers members datamodel) :
    ∃ datamodel₁ datamodel₂, HeldByMembers (edit.members members) datamodel₁ ∧
      HeldByMembers (edit'.members members) datamodel₂ ∧
      datamodel₁.withoutRelations = datamodel₂.withoutRelations := by
  obtain ⟨models₁, models₂, hmodels₁, hmodels₂, hmodels⟩ :=
    sequence_alterModels h.models hmembers.models
  obtain ⟨types₁, types₂, htypes₁, htypes₂, htypes⟩ := sequence_alterModels h.types hmembers.types
  refine ⟨_, _, edit.heldByMembers hmembers.enums hmodels₁ htypes₁,
    edit'.heldByMembers hmembers.enums hmodels₂ htypes₂, ?_⟩
  simp only [withoutRelations, hmodels, htypes]

/-- Both documents hold a datamodel, and the same but for its relations. -/
theorem HeldBy.edit {edit edit' : FieldEdit} (h : edit.Alike edit') {document : Json}
    {datamodel : Datamodel} (hdocument : HeldBy document datamodel) :
    ∃ datamodel₁ datamodel₂, HeldBy (edit.document document) datamodel₁ ∧
      HeldBy (edit'.document document) datamodel₂ ∧
      datamodel₁.withoutRelations = datamodel₂.withoutRelations := by
  cases hdocument with
  | full inner holds =>
    obtain ⟨datamodel₁, datamodel₂, h₁, h₂, hsame⟩ := holds.edit h
    exact ⟨datamodel₁, datamodel₂, edit.heldBy_full inner h₁, edit'.heldBy_full inner h₂, hsame⟩
  | bare noInner known holds =>
    obtain ⟨datamodel₁, datamodel₂, h₁, h₂, hsame⟩ := holds.edit h
    exact ⟨datamodel₁, datamodel₂, edit.heldBy_bare noInner known h₁,
      edit'.heldBy_bare noInner known h₂, hsame⟩

/-! ## 3. Marks -/

/-- The name of a relation for some of the fields of a document: of the
models and of the composite types, by the position of the model and that
of the field in it. -/
structure Marks where
  models : Nat → Nat → Option String
  types : Nat → Nat → Option String

/-- A field in object form with a mark, if it gets one. -/
def markedField : Option String → Json → List Json
  | some name, .object members => [.object (setMember "relationName" (.string name) members)]
  | _, field => [field]

/-- A field in object form taken out, if it is to get a mark. -/
def droppedField : Option String → Json → List Json
  | some _, .object _ => []
  | _, field => [field]

/-- What is done to the fields of a document, by the marks they get. -/
def Marks.edit (marks : Marks) (byMark : Option String → Json → List Json) : FieldEdit where
  models index position := byMark (marks.models index position)
  types index position := byMark (marks.types index position)

/-- A document with its marks: `relationName` is set in each field that gets
one. -/
def Marks.marked (marks : Marks) : Json → Json :=
  (marks.edit markedField).document

/-- A document without the fields that would get a mark. -/
def Marks.dropped (marks : Marks) : Json → Json :=
  (marks.edit droppedField).document

/-- The mark makes a relation of the field, whatever it was, and leaves it
well-formed. -/
theorem Field.HeldBy.setRelationName {members : List (String × Json)} {field : Field}
    (h : Field.HeldBy (.object members) field) (name : String) :
    ∃ marked : Field, marked.isRelation = true ∧
      Field.HeldBy (.object (setMember "relationName" (.string name) members)) marked := by
  obtain ⟨value, kind, type, _, hvalue, hword, htype, -, -⟩ := h.kind
  have hother : ∀ {other : String} {position : Nat}, other ≠ "relationName" →
      (Json.object (setMember "relationName" (.string name) members)).part? other position =
        (Json.object members).part? other position :=
    fun hne => Json.lookup_setMember_of_ne hne _ members
  have hrelation : OptionalText
      ((Json.object (setMember "relationName" (.string name) members)).part? "relationName" 6)
      (some name) := by
    rw [Json.part?, Json.lookup_setMember_self]
    exact .given name
  refine ⟨{ field with kind := .relation name type }, rfl, ?_⟩
  constructor
  case record => trivial
  case name => rw [hother (by decide)]; exact h.name
  case dbName => rw [hother (by decide)]; exact h.dbName
  case kind =>
    refine ⟨value, kind, type, some name, ?_, hword, ?_, hrelation, .relation kind name⟩
    · rw [hother (by decide)]; exact hvalue
    · rw [hother (by decide)]; exact htype
  case isList => rw [hother (by decide)]; exact h.isList
  case isRequired => rw [hother (by decide)]; exact h.isRequired

/-- A field that is marked and a field that is taken out are alike. -/
theorem alike_markedField (mark : Option String) :
    Alike Field.HeldBy dataFields (markedField mark) (droppedField mark) := by
  intro json field h
  have hkept : List.Forall₂ Field.HeldBy [json] [field] := .cons h .nil
  cases mark with
  | none => exact ⟨[field], [field], hkept, hkept, rfl⟩
  | some name =>
    cases json with
    | object members =>
      obtain ⟨marked, hrelation, hmarked⟩ := h.setRelationName name
      exact ⟨[marked], [], .cons hmarked .nil, .nil, by simp [dataFields, hrelation]⟩
    | _ => exact ⟨[field], [field], hkept, hkept, rfl⟩

theorem yieldsSpellable_markedField (mark : Option String) :
    Json.YieldsSpellable (markedField mark) := by
  intro depth json hjson
  unfold markedField
  split
  · obtain ⟨inner, rfl, hmembers⟩ := hjson.members
    simp only [List.forall_mem_singleton]
    refine Json.spellable_object ?_
    simp only [setMember, List.forall_mem_append, List.forall_mem_singleton]
    exact ⟨fun member hmember => hmembers member (List.mem_of_mem_filter hmember),
      Json.spellable_string inner _⟩
  · simpa using hjson

theorem yieldsSpellable_droppedField (mark : Option String) :
    Json.YieldsSpellable (droppedField mark) := by
  intro depth json hjson
  unfold droppedField
  split
  · simp
  · simpa using hjson

theorem Marks.exists_spells (marks : Marks) {byMark : Option String → Json → List Json}
    (h : ∀ mark, Json.YieldsSpellable (byMark mark)) {text : String} {document : Json}
    (htext : Spells text document) :
    ∃ edited, Spells edited ((marks.edit byMark).document document) := by
  have hwritable : (marks.edit byMark).Writable := ⟨fun _ _ => h _, fun _ _ => h _⟩
  have hspellable : Json.Spellable Json.maxDepth document := htext.exists_inner
  exact (hwritable.document _ _ hspellable).exists_spells

/-! ## 4. Marked documents -/

/-- A text that denotes a document is parsed to what the document holds. -/
theorem parse_of_heldBy {text : String} {document : Json} {datamodel : Datamodel}
    (htext : Denotes text document) (h : HeldBy document datamodel) :
    parse text = .ok datamodel := by
  rw [parse_of_denotes htext, parseValue, ofDocument_eq_ok.2 h]
  rfl

/-- Datamodels that are the same but for their relations are converted
alike. -/
theorem convert_eq_of_withoutRelations_eq {datamodel other : Datamodel}
    (h : datamodel.withoutRelations = other.withoutRelations) (options : Options) :
    datamodel.convert options = other.convert options := by
  rw [← convert_withoutRelations, h, convert_withoutRelations]

/-- In a text that is parsed, any fields in object form can be marked as
relations or taken out: both documents can be written and are parsed, and
they are converted alike, to the same text or to the same failure. -/
theorem convertText_marked_eq_dropped {text : String} {document : Json} {datamodel : Datamodel}
    (hread : Json.read text = .ok document) (hparse : parse text = .ok datamodel)
    (marks : Marks) :
    (∃ marked, Spells marked (marks.marked document)) ∧
      (∃ dropped, Spells dropped (marks.dropped document)) ∧
      ∀ marked dropped, Denotes marked (marks.marked document) →
        Denotes dropped (marks.dropped document) →
          (∃ found, parse marked = .ok found) ∧ (∃ found, parse dropped = .ok found) ∧
            ∀ options, convertText options marked = convertText options dropped := by
  have hspells : Spells text document := Json.read_eq_ok.1 hread
  refine ⟨marks.exists_spells yieldsSpellable_markedField hspells,
    marks.exists_spells yieldsSpellable_droppedField hspells, ?_⟩
  intro marked dropped hmarked hdropped
  have hholds : HeldBy document datamodel := by
    obtain ⟨found, hfound, hdocument⟩ := parse_eq_ok.1 hparse
    obtain rfl : found = document := by simpa [hfound] using hread
    exact ofDocument_eq_ok.1 hdocument
  have halike : (marks.edit markedField).Alike (marks.edit droppedField) :=
    ⟨fun _ _ => alike_markedField _, fun _ _ => alike_markedField _⟩
  obtain ⟨datamodel₁, datamodel₂, h₁, h₂, hsame⟩ := hholds.edit halike
  have hparse₁ : parse marked = .ok datamodel₁ := parse_of_heldBy hmarked h₁
  have hparse₂ : parse dropped = .ok datamodel₂ := parse_of_heldBy hdropped h₂
  refine ⟨⟨datamodel₁, hparse₁⟩, ⟨datamodel₂, hparse₂⟩, fun options => ?_⟩
  rw [convertText, convertText, convertWith, convertWith, hparse₁, hparse₂]
  exact convert_eq_of_withoutRelations_eq hsame options

/-- A field of an unknown primitive, by its members, and a field behind it. -/
def dataMembers : List (String × Json) :=
  [("name", .string "data"), ("kind", .string "scalar"), ("type", .string "Bytes")]

def idField : Json :=
  .object [("name", .string "id"), ("kind", .string "scalar"), ("type", .string "Int")]

/-- A document with one model. -/
def fileDocument (fields : List Json) : Json :=
  .object [("models", .array [.object [("name", .string "File"), ("fields", .array fields)]])]

/-- The model with both fields. -/
def fileText : String :=
  "\x7b\"models\":[\x7b\"name\":\"File\",\"fields\":[" ++
    "\x7b\"name\":\"data\",\"kind\":\"scalar\",\"type\":\"Bytes\"\x7d," ++
    "\x7b\"name\":\"id\",\"kind\":\"scalar\",\"type\":\"Int\"\x7d]\x7d]\x7d"

/-- The same with a mark in the first field: a relation without a name. -/
def markedFileText : String :=
  "\x7b\"models\":[\x7b\"name\":\"File\",\"fields\":[\x7b\"name\":\"data\"," ++
    "\"kind\":\"scalar\",\"type\":\"Bytes\",\"relationName\":\"\"\x7d," ++
    "\x7b\"name\":\"id\",\"kind\":\"scalar\",\"type\":\"Int\"\x7d]\x7d]\x7d"

/-- The model without the first field. -/
def droppedFileText : String :=
  "\x7b\"models\":[\x7b\"name\":\"File\",\"fields\":[" ++
    "\x7b\"name\":\"id\",\"kind\":\"scalar\",\"type\":\"Int\"\x7d]\x7d]\x7d"

/-- A mark for the first field of the first model. -/
def firstMark : Marks where
  models index position := if index = 0 ∧ position = 0 then some "" else none
  types _ _ := none

set_option maxRecDepth 2000 in
/-- The conversion fails on the unknown primitive. Marked as a relation, the
field does no more harm than if it were not there. -/
theorem convertText_marked_eq_dropped_file :
    convertText {} fileText = .error (.unknownScalar "Bytes") ∧
      convertText {} markedFileText = convertText {} droppedFileText := by
  obtain ⟨hread, hmarked, hdropped⟩ :
      Json.read fileText = .ok (fileDocument [.object dataMembers, idField]) ∧
        Json.read markedFileText =
          .ok (fileDocument [.object (dataMembers ++ [("relationName", .string "")]), idField]) ∧
        Json.read droppedFileText = .ok (fileDocument [idField]) := ⟨rfl, rfl, rfl⟩
  have hparse : parse fileText = .ok ⟨[], [⟨"File", none, [.optional (.scalar "data" "Bytes"),
      .optional (.scalar "id" "Int")]⟩], []⟩ := parse_eq_ok.2 ⟨_, hread, rfl⟩
  obtain ⟨-, -, hconvert⟩ := convertText_marked_eq_dropped hread hparse firstMark
  obtain ⟨-, -, hsame⟩ := hconvert _ _ (denotes_of_read hmarked) (denotes_of_read hdropped)
  refine ⟨?_, hsame {}⟩
  rw [convertText, convertWith, hparse]
  decide +kernel

end DatamodelTypes.Datamodel
