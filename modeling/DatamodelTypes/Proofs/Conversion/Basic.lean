/-
DatamodelTypes.Proofs.Conversion.Basic — what a datamodel is converted to.

A field becomes an attribute in one of three ways, which `Attribute.Of`
lists. Lists of fields and lists of models are converted item by item, so
what is computed from a page can be computed from the datamodel instead:
`flatMap_attributesOfFields` and `map_declarations` say so for attributes
and for declarations.
-/
import DatamodelTypes.Conversion
import DatamodelTypes.Proofs.Except
import Mathlib.Data.List.Basic

namespace DatamodelTypes.Page

/-! ## 1. Attributes -/

/-- The primitive that a type stands for. -/
def Builtin.scalar : Builtin → String
  | .str => "String"
  | .int => "Int"
  | .bool => "Boolean"
  | .datetime => "DateTime"
  | .any => "Json"

/-- Every type is the type of one primitive, and of no other. -/
theorem Builtin.ofScalar_eq_ok {name : String} {type : Builtin} :
    Builtin.ofScalar name = .ok type ↔ name = type.scalar := by
  constructor
  · intro h
    simp only [Builtin.ofScalar] at h
    split_ifs at h with h1 h2 h3 h4 h5
    · cases h; exact h1
    · cases h; exact h2
    · cases h; exact h3
    · cases h; exact h4
    · cases h; exact h5
  · rintro rfl
    cases type <;> rfl

/-- The attribute that a field becomes, if it is no relation. -/
inductive Attribute.Of (field : Datamodel.Field) : Option Attribute → Prop
  | relation {name target : String} (hkind : field.kind = .relation name target) : Of field none
  | builtin {type : Builtin} (hkind : field.kind = .scalar type.scalar) :
      Of field (some ⟨field.outputName, ⟨.builtin type, field.isList, !field.isRequired⟩⟩)
  | declared {target : String} (hkind : field.kind = .reference target) :
      Of field (some ⟨field.outputName, ⟨.declared target, field.isList, !field.isRequired⟩⟩)

theorem Attribute.ofField_eq_ok {field : Datamodel.Field} {found : Option Attribute} :
    Attribute.ofField field = .ok found ↔ Attribute.Of field found := by
  simp only [Attribute.ofField, bind_eq_ok, pure_eq_ok]
  constructor
  · rintro ⟨base, hbase, rfl⟩
    cases hkind : field.kind with
    | relation name target =>
      rw [hkind] at hbase
      cases hbase
      exact .relation hkind
    | scalar name =>
      rw [hkind, BaseType.ofKind] at hbase
      simp only [bind_eq_ok, pure_eq_ok, Builtin.ofScalar_eq_ok] at hbase
      obtain ⟨type, rfl, rfl⟩ := hbase
      exact .builtin hkind
    | reference target =>
      rw [hkind] at hbase
      cases hbase
      exact .declared hkind
  · intro h
    cases h with
    | relation hkind => exact ⟨none, by rw [hkind]; rfl, rfl⟩
    | @builtin type hkind =>
      refine ⟨some (.builtin type), ?_, rfl⟩
      simp only [hkind, BaseType.ofKind, bind_eq_ok, pure_eq_ok, Builtin.ofScalar_eq_ok]
      exact ⟨type, rfl, rfl⟩
    | declared hkind => exact ⟨_, by rw [hkind]; rfl, rfl⟩

/-- Every attribute is the attribute of a field. -/
theorem exists_of_mem_attributesOfFields {fields : List Datamodel.Field}
    {attributes : List Attribute} (h : attributesOfFields fields = .ok attributes)
    {attr : Attribute} (hattr : attr ∈ attributes) :
    ∃ field ∈ fields, Attribute.Of field (some attr) := by
  simp only [attributesOfFields, bind_eq_ok, pure_eq_ok] at h
  obtain ⟨found, hfound, rfl⟩ := h
  obtain ⟨some', hsome, hid⟩ := List.mem_filterMap.1 hattr
  obtain rfl : some' = some attr := hid
  obtain ⟨field, hfield, hof⟩ := exists_of_mem_mapM hfound hsome
  exact ⟨field, hfield, Attribute.ofField_eq_ok.1 hof⟩

/-- What is gathered from the attributes of a list of fields can be gathered
from the fields: relations give nothing, all others what they give alone. -/
theorem flatMap_attributesOfFields {β : Type} {fields : List Datamodel.Field}
    {attributes : List Attribute} (h : attributesOfFields fields = .ok attributes)
    {f : Attribute → List β} {g : Datamodel.Field → List β}
    (heq : ∀ {field found}, field ∈ fields → Attribute.Of field found →
      found.toList.flatMap f = g field) :
    attributes.flatMap f = fields.flatMap g := by
  simp only [attributesOfFields, bind_eq_ok, pure_eq_ok] at h
  obtain ⟨found, hfound, rfl⟩ := h
  have hmap : found.map (·.toList.flatMap f) = fields.map g :=
    map_eq_map_of_mapM hfound fun hfield h => heq hfield (Attribute.ofField_eq_ok.1 h)
  rw [List.filterMap_eq_flatMap_toList, List.flatMap_assoc, List.flatMap_def, List.flatMap_def]
  exact congrArg List.flatten hmap

/-! ## 2. Declarations and pages -/

theorem Declaration.ofModel_eq_ok {model : Datamodel.Model} {declaration : Declaration} :
    Declaration.ofModel model = .ok declaration ↔
      ∃ attributes, attributesOfFields model.fields = .ok attributes ∧
        .record model.name attributes = declaration := by
  simp only [Declaration.ofModel, bind_eq_ok, pure_eq_ok]

theorem ofDatamodel_eq_ok {datamodel : Datamodel} {page : Page} :
    ofDatamodel datamodel = .ok page ↔
      page.enums = datamodel.enums.map .ofEnum ∧
        datamodel.models.mapM Declaration.ofModel = .ok page.models ∧
        datamodel.types.mapM Declaration.ofModel = .ok page.types := by
  simp only [ofDatamodel, bind_eq_ok, pure_eq_ok]
  constructor
  · rintro ⟨models, hmodels, types, htypes, rfl⟩
    exact ⟨rfl, hmodels, htypes⟩
  · rintro ⟨henums, hmodels, htypes⟩
    exact ⟨page.models, hmodels, page.types, htypes, by rw [← henums]⟩

theorem convert_eq_ok {options : Options} {datamodel : Datamodel} {text : String} :
    datamodel.convert options = .ok text ↔
      ∃ page, ofDatamodel datamodel = .ok page ∧ page.render options = text := by
  simp only [Datamodel.convert, bind_eq_ok, pure_eq_ok]

end DatamodelTypes.Page
