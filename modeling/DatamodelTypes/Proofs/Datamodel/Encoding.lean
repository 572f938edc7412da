/-
DatamodelTypes.Proofs.Datamodel.Encoding — reading a datamodel that was
written out.

A datamodel can be written with every member given: texts as strings, a
database name that there is none of as null, lists as arrays, and the kind
of a field by the members it is recognized by. `WrittenOut` relates a
datamodel to the JSON values of that form. They differ only in the kind
words, which are free where they do not count.

Reading such a document, in any spelling of its value and in either of the
two document shapes, gives the datamodel back (`parse_of_writtenOut`). The
proof has no case for the decoders: a value that writes a record out holds
that record in the sense of `Proofs.Datamodel.Acceptance`, and the reader
finds the value by `Proofs.Json.Reading`.
-/
import DatamodelTypes.Proofs.Datamodel.Acceptance
import DatamodelTypes.Proofs.Json.Reading

namespace DatamodelTypes.Datamodel

open Json (Spellable spellable_null spellable_bool spellable_string spellable_array
  spellable_object)

/-! ## 1. Written-out records -/

/-- A text that there may be none of. -/
def textOrNull : Option String → Json
  | some text => .string text
  | none => .null

/-- An enum value, written out. -/
def EnumValue.writtenOut (value : EnumValue) : Json :=
  .object [("name", .string value.name), ("dbName", textOrNull value.dbName)]

/-- An enum, written out. -/
def Enum.writtenOut (enum : Enum) : Json :=
  .object [("name", .string enum.name), ("values", .array (enum.values.map (·.writtenOut)))]

/-- The word, the type and the further members that stand for the kind of
a field. The word is free for a relation, and may be anything but `scalar`
for a reference. -/
inductive FieldKind.Worded : FieldKind → String → String → List (String × Json) → Prop
  | scalar (type : String) : Worded (.scalar type) "scalar" type []
  | relation (word name target : String) :
      Worded (.relation name target) word target [("relationName", .string name)]
  | reference {word : String} (other : word ≠ "scalar") (target : String) :
      Worded (.reference target) word target []

/-- A field, written out. -/
inductive Field.WrittenOut (field : Field) : Json → Prop
  | intro {word type : String} {further : List (String × Json)}
      (worded : field.kind.Worded word type further) :
      WrittenOut field (.object ([("name", .string field.name), ("dbName", textOrNull field.dbName),
        ("kind", .string word), ("type", .string type), ("isList", .bool field.isList),
        ("isRequired", .bool field.isRequired)] ++ further))

/-- A model or composite type, written out. -/
inductive Model.WrittenOut (model : Model) : Json → Prop
  | intro {fields : List Json} (hfields : List.Forall₂ Field.WrittenOut model.fields fields) :
      WrittenOut model (.object [("name", .string model.name), ("dbName", textOrNull model.dbName),
        ("fields", .array fields)])

/-- A datamodel, written out. -/
inductive WrittenOut (datamodel : Datamodel) : Json → Prop
  | intro {models types : List Json}
      (hmodels : List.Forall₂ Model.WrittenOut datamodel.models models)
      (htypes : List.Forall₂ Model.WrittenOut datamodel.types types) :
      WrittenOut datamodel (.object [("enums", .array (datamodel.enums.map (·.writtenOut))),
        ("models", .array models), ("types", .array types)])

/-! ## 2. They hold what they were written from -/

theorem optionalText_textOrNull (text : Option String) :
    OptionalText (some (textOrNull text)) text := by
  cases text with
  | none => exact .null
  | some text => exact .given text

theorem EnumValue.heldBy_writtenOut (value : EnumValue) : EnumValue.HeldBy value.writtenOut value where
  record := trivial
  name := by simp [writtenOut, Json.part?, Json.lookup]
  dbName := by
    simpa [writtenOut, Json.part?, Json.lookup] using optionalText_textOrNull value.dbName

theorem Enum.heldBy_writtenOut (enum : Enum) : Enum.HeldBy enum.writtenOut enum where
  record := trivial
  name := by simp [writtenOut, Json.part?, Json.lookup]
  values := by
    have hvalues : List.Forall₂ EnumValue.HeldBy (enum.values.map (·.writtenOut)) enum.values := by
      rw [List.forall₂_map_left_iff]
      exact List.forall₂_same.2 fun value _ => value.heldBy_writtenOut
    simpa [writtenOut, Json.part?, Json.lookup] using Sequence.given hvalues

/-- The words of a kind are read as that kind. -/
theorem FieldKind.Worded.chosen {kind : FieldKind} {word type : String}
    {further : List (String × Json)} (h : kind.Worded word type further) :
    ∃ relationName, OptionalText (Json.lookup "relationName" further) relationName ∧
      FieldKind.Chosen type word relationName kind := by
  cases h with
  | scalar => exact ⟨none, .absent, .scalar⟩
  | relation _ name => exact ⟨some name, by simpa [Json.lookup] using .given name, .relation word name⟩
  | reference other => exact ⟨none, .absent, .reference other⟩

/-- The further members of a field repeat none of the others. -/
theorem FieldKind.Worded.lookup_eq_none {kind : FieldKind} {word type : String}
    {further : List (String × Json)} (h : kind.Worded word type further) {name : String}
    (hname : name ≠ "relationName") : Json.lookup name further = none := by
  cases h with
  | scalar => rfl
  | relation => simp [Json.lookup, hname.symm]
  | reference => rfl

theorem Field.WrittenOut.heldBy {field : Field} {json : Json} (h : field.WrittenOut json) :
    Field.HeldBy json field := by
  obtain ⟨worded⟩ := h
  rename_i word type further
  obtain ⟨relationName, hrelation, hchosen⟩ := worded.chosen
  constructor
  case record => trivial
  case name => simp [Json.part?, Json.lookup, worded.lookup_eq_none]
  case dbName =>
    simpa [Json.part?, Json.lookup, worded.lookup_eq_none] using
      optionalText_textOrNull field.dbName
  case kind =>
    refine ⟨.string word, word, type, relationName, ?_, .text word, ?_, ?_, hchosen⟩
    · simp [Json.part?, Json.lookup, worded.lookup_eq_none]
    · simp [Json.part?, Json.lookup, worded.lookup_eq_none]
    · rw [Json.part?, Json.lookup_append]
      simpa [Json.lookup] using hrelation
  case isList =>
    simpa [Json.part?, Json.lookup, worded.lookup_eq_none] using Flag.given field.isList
  case isRequired =>
    simpa [Json.part?, Json.lookup, worded.lookup_eq_none] using Flag.given field.isRequired

theorem Model.WrittenOut.heldBy {model : Model} {json : Json} (h : model.WrittenOut json) :
    Model.HeldBy json model := by
  obtain ⟨hfields⟩ := h
  rename_i fields
  have hfields : List.Forall₂ Field.HeldBy fields model.fields :=
    hfields.flip.imp fun _ _ h => h.heldBy
  constructor
  case record => trivial
  case name => simp [Json.part?, Json.lookup]
  case dbName => simpa [Json.part?, Json.lookup] using optionalText_textOrNull model.dbName
  case fields => simpa [Json.part?, Json.lookup] using Sequence.given hfields

/-- A written-out datamodel holds it, as it stands and as the member
`datamodel` of a document. -/
theorem WrittenOut.heldBy {datamodel : Datamodel} {json : Json} (h : datamodel.WrittenOut json) :
    HeldBy json datamodel ∧ HeldBy (.object [("datamodel", json)]) datamodel := by
  obtain ⟨hmodels, htypes⟩ := h
  rename_i models types
  have henums : List.Forall₂ Enum.HeldBy (datamodel.enums.map (·.writtenOut)) datamodel.enums := by
    rw [List.forall₂_map_left_iff]
    exact List.forall₂_same.2 fun enum _ => enum.heldBy_writtenOut
  have hmodels : List.Forall₂ Model.HeldBy models datamodel.models :=
    hmodels.flip.imp fun _ _ h => h.heldBy
  have htypes : List.Forall₂ Model.HeldBy types datamodel.types :=
    htypes.flip.imp fun _ _ h => h.heldBy
  have hmembers : HeldByMembers [("enums", .array (datamodel.enums.map (·.writtenOut))),
      ("models", .array models), ("types", .array types)] datamodel :=
    ⟨by simpa [Json.lookup] using Sequence.given henums,
      by simpa [Json.lookup] using Sequence.given hmodels,
      by simpa [Json.lookup] using Sequence.given htypes⟩
  constructor
  · exact .bare (by simp [Json.lookup]) ⟨"enums", by simp, by simp [Json.lookup]⟩ hmembers
  · exact .full (by simp [Json.lookup]) hmembers

/-! ## 3. Every datamodel can be written out -/

theorem exists_forall₂ {α β : Type} {R : α → β → Prop} (h : ∀ a, ∃ b, R a b) (as : List α) :
    ∃ bs, List.Forall₂ R as bs := by
  choose f hf using h
  exact ⟨as.map f, List.forall₂_map_right_iff.2 (List.forall₂_same.2 fun a _ => hf a)⟩

theorem Field.exists_writtenOut (field : Field) : ∃ json, field.WrittenOut json := by
  have hworded : ∃ word type further, field.kind.Worded word type further := by
    cases field.kind with
    | scalar type => exact ⟨"scalar", type, [], .scalar type⟩
    | relation name target => exact ⟨"object", target, _, .relation "object" name target⟩
    | reference target => exact ⟨"enum", target, [], .reference (by decide) target⟩
  obtain ⟨word, type, further, worded⟩ := hworded
  exact ⟨_, .intro worded⟩

theorem Model.exists_writtenOut (model : Model) : ∃ json, model.WrittenOut json := by
  obtain ⟨fields, hfields⟩ := exists_forall₂ Field.exists_writtenOut model.fields
  exact ⟨_, .intro hfields⟩

theorem exists_writtenOut (datamodel : Datamodel) : ∃ json, datamodel.WrittenOut json := by
  obtain ⟨models, hmodels⟩ := exists_forall₂ Model.exists_writtenOut datamodel.models
  obtain ⟨types, htypes⟩ := exists_forall₂ Model.exists_writtenOut datamodel.types
  exact ⟨_, .intro hmodels htypes⟩

/-! ## 4. And is the value of a text -/

theorem spellable_textOrNull (depth : Nat) (text : Option String) :
    Spellable depth (textOrNull text) := by
  cases text with
  | none => exact spellable_null depth
  | some text => exact spellable_string depth text

/-- The items on both sides of a relation, taken one by one. -/
theorem forall_of_forall₂ {α β : Type} {R : α → β → Prop} {P : β → Prop}
    (h : ∀ {a b}, R a b → P b) {as : List α} {bs : List β} (hall : List.Forall₂ R as bs) :
    ∀ b ∈ bs, P b := by
  induction hall with
  | nil => simp
  | cons hab _ ih => exact List.forall_mem_cons.2 ⟨h hab, ih⟩

theorem EnumValue.spellable_writtenOut (value : EnumValue) (depth : Nat) :
    Spellable (depth + 1) value.writtenOut := by
  refine spellable_object ?_
  simp only [List.forall_mem_cons, List.not_mem_nil, false_implies, implies_true, and_true]
  exact ⟨spellable_string depth _, spellable_textOrNull depth _⟩

theorem Enum.spellable_writtenOut (enum : Enum) (depth : Nat) :
    Spellable (depth + 3) enum.writtenOut := by
  have hvalues : Spellable (depth + 2) (.array (enum.values.map (·.writtenOut))) := by
    refine spellable_array ?_
    simp only [List.forall_mem_map]
    exact fun value _ => value.spellable_writtenOut depth
  refine spellable_object ?_
  simp only [List.forall_mem_cons, List.not_mem_nil, false_implies, implies_true, and_true]
  exact ⟨spellable_string _ _, hvalues⟩

theorem FieldKind.Worded.spellable {kind : FieldKind} {word type : String}
    {further : List (String × Json)} (h : kind.Worded word type further) (depth : Nat) :
    ∀ member ∈ further, Spellable depth member.2 := by
  cases h with
  | scalar => simp
  | relation _ name => simpa using spellable_string depth name
  | reference => simp

theorem Field.WrittenOut.spellable {field : Field} {json : Json} (h : field.WrittenOut json)
    (depth : Nat) : Spellable (depth + 1) json := by
  obtain ⟨worded⟩ := h
  refine spellable_object ?_
  rw [List.forall_mem_append]
  refine ⟨?_, worded.spellable depth⟩
  simp only [List.forall_mem_cons, List.not_mem_nil, false_implies, implies_true, and_true]
  exact ⟨spellable_string depth _, spellable_textOrNull depth _, spellable_string depth _,
    spellable_string depth _, spellable_bool depth _, spellable_bool depth _⟩

theorem Model.WrittenOut.spellable {model : Model} {json : Json} (h : model.WrittenOut json)
    (depth : Nat) : Spellable (depth + 3) json := by
  obtain ⟨hfields⟩ := h
  rename_i fields
  have hfields : Spellable (depth + 2) (.array fields) :=
    spellable_array (forall_of_forall₂ (P := Spellable (depth + 1)) (·.spellable depth) hfields)
  refine spellable_object ?_
  simp only [List.forall_mem_cons, List.not_mem_nil, false_implies, implies_true, and_true]
  exact ⟨spellable_string _ _, spellable_textOrNull _ _, hfields⟩

theorem WrittenOut.spellable {datamodel : Datamodel} {json : Json} (h : datamodel.WrittenOut json)
    (depth : Nat) : Spellable (depth + 5) json := by
  obtain ⟨hmodels, htypes⟩ := h
  rename_i models types
  have henums : Spellable (depth + 4) (.array (datamodel.enums.map (·.writtenOut))) := by
    refine spellable_array ?_
    simp only [List.forall_mem_map]
    exact fun enum _ => enum.spellable_writtenOut depth
  have hmodels : Spellable (depth + 4) (.array models) :=
    spellable_array (forall_of_forall₂ (P := Spellable (depth + 3)) (·.spellable depth) hmodels)
  have htypes : Spellable (depth + 4) (.array types) :=
    spellable_array (forall_of_forall₂ (P := Spellable (depth + 3)) (·.spellable depth) htypes)
  refine spellable_object ?_
  simp only [List.forall_mem_cons, List.not_mem_nil, false_implies, implies_true, and_true]
  exact ⟨henums, hmodels, htypes⟩

/-- As a member of a document it stands one level further in. -/
theorem WrittenOut.exists_spells {datamodel : Datamodel} {json : Json}
    (h : datamodel.WrittenOut json) :
    (∃ text, Json.Spells text json) ∧
      ∃ text, Json.Spells text (.object [("datamodel", json)]) := by
  have hinner : Spellable 126 json := h.spellable 121
  have hdocument : Spellable Json.maxDepth (.object [("datamodel", json)]) := by
    change Spellable (126 + 1) _
    refine spellable_object ?_
    simpa using hinner
  exact ⟨(h.spellable 122 : Spellable Json.maxDepth json).exists_spells, hdocument.exists_spells⟩

/-! ## 5. The round trip -/

/-- Every datamodel can be written out, and every text that writes it out,
bare or as the member `datamodel` of a document, is read as that
datamodel. -/
theorem parse_of_writtenOut (datamodel : Datamodel) :
    (∃ json, datamodel.WrittenOut json) ∧
      ∀ json, datamodel.WrittenOut json →
        ((∃ text, Json.Spells text json) ∧
          ∃ text, Json.Spells text (.object [("datamodel", json)])) ∧
        ∀ text, Json.Spells text json ∨ Json.Spells text (.object [("datamodel", json)]) →
          parse text = .ok datamodel := by
  refine ⟨datamodel.exists_writtenOut, fun json h => ⟨h.exists_spells, fun text hspells => ?_⟩⟩
  obtain ⟨hbare, hfull⟩ := h.heldBy
  cases hspells with
  | inl hspells => exact parse_eq_ok.2 ⟨_, Json.read_of_spells hspells, ofDocument_eq_ok.2 hbare⟩
  | inr hspells => exact parse_eq_ok.2 ⟨_, Json.read_of_spells hspells, ofDocument_eq_ok.2 hfull⟩

end DatamodelTypes.Datamodel
