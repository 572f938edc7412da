/-
DatamodelTypes.Proofs.Conversion.Failure — when a conversion fails.

Nothing but an unknown primitive can fail. `Datamodel.unknown?` finds the
first one in reading order: models before composite types, models in
order, fields in order. `convert_eq_error` says that a conversion fails
exactly when there is one, and with the first one.

The conversion is a nest of loops with an early end. Each level fails with
what its first item fails with (`failure?_mapM`), so the search has the
same levels and there is one lemma for each of them.
-/
import DatamodelTypes.Proofs.Conversion.Imports

namespace DatamodelTypes

namespace Datamodel

/-! ## 1. Unknown primitives -/

/-- The primitives that have a Python type. -/
def knownScalars : List String :=
  ["String", "Int", "Boolean", "DateTime", "Json"]

/-- The primitive of a field, if it has one that is unknown. -/
def Field.unknown? (field : Field) : Option String :=
  match field.kind with
  | .scalar name => if name ∈ knownScalars then none else some name
  | _ => none

/-- The first unknown primitive in the fields of a model. -/
def Model.unknown? (model : Model) : Option String :=
  model.fields.findSome? (·.unknown?)

/-- The first unknown primitive in a list of models. -/
def unknownIn? (models : List Model) : Option String :=
  models.findSome? (·.unknown?)

/-- The first unknown primitive of a datamodel. -/
def unknown? (datamodel : Datamodel) : Option String :=
  unknownIn? (datamodel.models ++ datamodel.types)

theorem unknownIn?_append (models models' : List Model) :
    unknownIn? (models ++ models') = (unknownIn? models).or (unknownIn? models') :=
  List.findSome?_append

theorem Field.unknown?_eq_some {field : Field} {name : String} :
    field.unknown? = some name ↔ field.kind = .scalar name ∧ name ∉ knownScalars := by
  unfold Field.unknown?
  cases field.kind with
  | scalar found =>
    by_cases hknown : found ∈ knownScalars
    · simp only [hknown, if_true, reduceCtorEq, FieldKind.scalar.injEq, false_iff]
      rintro ⟨rfl, hname⟩
      exact hname hknown
    · simp only [hknown, if_false, Option.some.injEq, FieldKind.scalar.injEq]
      constructor
      · rintro rfl
        exact ⟨rfl, hknown⟩
      · exact fun h => h.1
  | relation => simp
  | reference => simp

/-- There is a first unknown primitive when any field has one. -/
theorem exists_unknown {datamodel : Datamodel} :
    (∃ name, datamodel.unknown? = some name) ↔
      ∃ field, datamodel.HasField field ∧
        ∃ name, field.kind = .scalar name ∧ name ∉ knownScalars := by
  rw [← Option.isSome_iff_exists, unknown?, unknownIn?, List.findSome?_isSome_iff]
  constructor
  · rintro ⟨model, hmodel, hsome⟩
    obtain ⟨field, hfield, hsome⟩ := List.findSome?_isSome_iff.1 hsome
    obtain ⟨name, hname⟩ := Option.isSome_iff_exists.1 hsome
    exact ⟨field, ⟨model, hmodel, hfield⟩, name, Field.unknown?_eq_some.1 hname⟩
  · rintro ⟨field, ⟨model, hmodel, hfield⟩, name, hname⟩
    have hsome : field.unknown?.isSome := by
      rw [Field.unknown?_eq_some.2 hname]
      rfl
    exact ⟨model, hmodel, List.findSome?_isSome_iff.2 ⟨field, hfield, hsome⟩⟩

end Datamodel

namespace Page

open Datamodel (knownScalars unknownIn?)

/-! ## 2. What a conversion fails with -/

theorem failure?_ofScalar (name : String) :
    failure? (Builtin.ofScalar name) =
      if name ∈ knownScalars then none else some (.unknownScalar name) := by
  unfold Builtin.ofScalar
  split_ifs <;> simp_all [knownScalars]

theorem failure?_ofField (field : Datamodel.Field) :
    failure? (Attribute.ofField field) = field.unknown?.map .unknownScalar := by
  rw [Attribute.ofField, failure?_bind_pure, Datamodel.Field.unknown?]
  cases field.kind with
  | relation => rfl
  | reference => rfl
  | scalar name =>
    simp only [BaseType.ofKind]
    rw [failure?_bind_pure, failure?_ofScalar]
    split_ifs <;> rfl

theorem failure?_ofModel (model : Datamodel.Model) :
    failure? (Declaration.ofModel model) = model.unknown?.map .unknownScalar := by
  rw [Declaration.ofModel, failure?_bind_pure, attributesOfFields, failure?_bind_pure,
    failure?_mapM, Datamodel.Model.unknown?, List.map_findSome?]
  exact congrArg (List.findSome? · model.fields) (funext failure?_ofField)

theorem failure?_mapM_ofModel (models : List Datamodel.Model) :
    failure? (models.mapM Declaration.ofModel) = (unknownIn? models).map .unknownScalar := by
  rw [failure?_mapM, unknownIn?, List.map_findSome?]
  exact congrArg (List.findSome? · models) (funext failure?_ofModel)

/-- Models come before types. -/
theorem failure?_ofDatamodel (datamodel : Datamodel) :
    failure? (ofDatamodel datamodel) = datamodel.unknown?.map .unknownScalar := by
  rw [ofDatamodel, failure?_bind fun models => failure?_bind_pure, failure?_mapM_ofModel,
    failure?_mapM_ofModel, Datamodel.unknown?, Datamodel.unknownIn?_append, Option.map_or]

end Page

namespace Datamodel

theorem failure?_convert (options : Options) (datamodel : Datamodel) :
    failure? (datamodel.convert options) = datamodel.unknown?.map .unknownScalar := by
  rw [convert, failure?_bind_pure, Page.failure?_ofDatamodel]

theorem convert_eq_error {options : Options} {datamodel : Datamodel} {failure : Failure} :
    datamodel.convert options = .error failure ↔
      ∃ name, datamodel.unknown? = some name ∧ failure = .unknownScalar name := by
  rw [← failure?_eq_some, failure?_convert, Option.map_eq_some_iff]
  simp only [eq_comm]

/-! ## 3. More declarations -/

/-- One more declaration. -/
inductive Addition where
  | enum (enum : Enum)
  | model (model : Model)
  | type (type : Model)

/-- The datamodel with one more declaration. -/
def add (datamodel : Datamodel) : Addition → Datamodel
  | .enum enum => datamodel.withEnum enum
  | .model model => datamodel.withModel model
  | .type type => datamodel.withType type

/-- The datamodel with more declarations, one after the other. -/
def addAll (datamodel : Datamodel) (additions : List Addition) : Datamodel :=
  additions.foldl add datamodel

/-- An addition leaves what there was in place, and adds behind it. -/
theorem add_models (datamodel : Datamodel) (addition : Addition) :
    (∃ more, (datamodel.add addition).models = datamodel.models ++ more) ∧
      ∃ more, (datamodel.add addition).types = datamodel.types ++ more := by
  cases addition with
  | enum enum => exact ⟨⟨[], by simp [add, withEnum]⟩, ⟨[], by simp [add, withEnum]⟩⟩
  | model model => exact ⟨⟨[model], rfl⟩, ⟨[], by simp [add, withModel]⟩⟩
  | type type => exact ⟨⟨[], by simp [add, withType]⟩, ⟨[type], rfl⟩⟩

theorem addAll_models (additions : List Addition) (datamodel : Datamodel) :
    (∃ more, (datamodel.addAll additions).models = datamodel.models ++ more) ∧
      ∃ more, (datamodel.addAll additions).types = datamodel.types ++ more := by
  induction additions generalizing datamodel with
  | nil => exact ⟨⟨[], by simp [addAll]⟩, ⟨[], by simp [addAll]⟩⟩
  | cons addition additions ih =>
    obtain ⟨⟨models, hmodels⟩, ⟨types, htypes⟩⟩ := datamodel.add_models addition
    obtain ⟨⟨models', hmodels'⟩, ⟨types', htypes'⟩⟩ := ih (datamodel.add addition)
    rw [hmodels, List.append_assoc] at hmodels'
    rw [htypes, List.append_assoc] at htypes'
    exact ⟨⟨models ++ models', hmodels'⟩, ⟨types ++ types', htypes'⟩⟩

/-- Fields are only added. -/
theorem HasField.addAll {datamodel : Datamodel} {field : Field} (h : datamodel.HasField field)
    (additions : List Addition) : (datamodel.addAll additions).HasField field := by
  obtain ⟨⟨models, hmodels⟩, ⟨types, htypes⟩⟩ := addAll_models additions datamodel
  obtain ⟨model, hmodel, hfield⟩ := h
  refine ⟨model, ?_, hfield⟩
  rw [hmodels, htypes]
  rw [List.mem_append] at hmodel
  obtain hmodel | hmodel := hmodel <;> simp [hmodel]

/-- An unknown primitive in a model stays the first one. -/
theorem unknown?_addAll {datamodel : Datamodel} {name : String}
    (h : unknownIn? datamodel.models = some name) (additions : List Addition) :
    (datamodel.addAll additions).unknown? = some name := by
  obtain ⟨⟨models, hmodels⟩, -⟩ := addAll_models additions datamodel
  rw [unknown?, hmodels, List.append_assoc, unknownIn?_append, h, Option.some_or]

/-! ## 4. The first failure wins -/

/-- A conversion fails exactly when some primitive is unknown, and then with
the first one in reading order; the options, the enums and all other fields
do not matter. More declarations do not mend it, and they do not come
before an unknown primitive of a model. -/
theorem convert_fails_iff (datamodel : Datamodel) (options : Options) :
    ((∃ failure, datamodel.convert options = .error failure) ↔
      ∃ field, datamodel.HasField field ∧
        ∃ name, field.kind = .scalar name ∧ name ∉ knownScalars) ∧
    (∀ failure, datamodel.convert options = .error failure ↔
      ∃ name, datamodel.unknown? = some name ∧ failure = .unknownScalar name) ∧
    (∀ failure, datamodel.convert options = .error failure →
      ∀ additions options', ∃ failure',
        (datamodel.addAll additions).convert options' = .error failure') ∧
    (∀ name, unknownIn? datamodel.models = some name →
      datamodel.convert options = .error (.unknownScalar name) ∧
      ∀ additions options', (datamodel.addAll additions).convert options' =
        .error (.unknownScalar name)) := by
  have hfails : ∀ (datamodel : Datamodel) (options : Options),
      (∃ failure, datamodel.convert options = .error failure) ↔
        ∃ field, datamodel.HasField field ∧
          ∃ name, field.kind = .scalar name ∧ name ∉ knownScalars := by
    intro datamodel options
    rw [← exists_unknown]
    constructor
    · rintro ⟨failure, h⟩
      obtain ⟨name, hname, -⟩ := convert_eq_error.1 h
      exact ⟨name, hname⟩
    · rintro ⟨name, hname⟩
      exact ⟨_, convert_eq_error.2 ⟨name, hname, rfl⟩⟩
  refine ⟨hfails datamodel options, fun failure => convert_eq_error, ?_, ?_⟩
  · intro failure h additions options'
    obtain ⟨field, hfield, hname⟩ := (hfails datamodel options).1 ⟨failure, h⟩
    exact (hfails _ options').2 ⟨field, hfield.addAll additions, hname⟩
  · intro name h
    have hstays : ∀ additions options', (datamodel.addAll additions).convert options' =
        .error (.unknownScalar name) := fun additions options' =>
      convert_eq_error.2 ⟨name, unknown?_addAll h additions, rfl⟩
    exact ⟨hstays [] options, hstays⟩

/-- A model with two unknown primitives, and a composite type with another. -/
def prices : Datamodel where
  models := [⟨"Price", none, [.relation "owner" "User" "PriceToUser", .scalar "id" "Int",
    (Field.scalar "amount" "Float").optional, .scalar "rate" "Decimal"]⟩]
  types := [⟨"Blob", none, [.scalar "data" "Bytes"]⟩]

/-- The first one in the model wins, also when there is more to come. -/
theorem convert_fails_iff_prices :
    prices.convert {} = .error (.unknownScalar "Float") ∧
      (prices.addAll [.type ⟨"Page", none, [.scalar "body" "Xml"]⟩,
        .enum (.ofNames "Mood" ["good"])]).convert ⟨2⟩ = .error (.unknownScalar "Float") := by
  have hfirst : unknownIn? prices.models = some "Float" := by decide
  obtain ⟨-, -, -, hmodels⟩ := convert_fails_iff prices {}
  obtain ⟨hconvert, hadded⟩ := hmodels "Float" hfirst
  exact ⟨hconvert, hadded _ ⟨2⟩⟩

end Datamodel

end DatamodelTypes
