/-
DatamodelTypes.Proofs.Conversion.Relations — relations leave no trace on a
page.

A field that is a relation becomes no attribute, asks for no import and
cannot fail. So a datamodel is converted like the one without its
relations (`convert_withoutRelations`): to the same text, or to the same
failure.
-/
import DatamodelTypes.Proofs.Conversion.Basic

namespace DatamodelTypes

namespace Datamodel

/-! ## 1. Fields that are data -/

/-- The fields that are no relations. -/
def dataFields (fields : List Field) : List Field :=
  fields.filter (!·.isRelation)

/-- The model without its relations. -/
def Model.withoutRelations (model : Model) : Model :=
  { model with fields := dataFields model.fields }

/-- The datamodel without its relations. -/
def withoutRelations (datamodel : Datamodel) : Datamodel :=
  { datamodel with
    models := datamodel.models.map (·.withoutRelations)
    types := datamodel.types.map (·.withoutRelations) }

theorem dataFields_append (fields more : List Field) :
    dataFields (fields ++ more) = dataFields fields ++ dataFields more :=
  List.filter_append ..

end Datamodel

namespace Page

open Datamodel (dataFields)

/-! ## 2. Their conversion -/

theorem Attribute.ofField_of_isRelation {field : Datamodel.Field} (h : field.isRelation = true) :
    Attribute.ofField field = .ok none := by
  cases hkind : field.kind with
  | relation name target => exact Attribute.ofField_eq_ok.2 (.relation hkind)
  | scalar => simp [Datamodel.Field.isRelation, hkind] at h
  | reference => simp [Datamodel.Field.isRelation, hkind] at h

theorem attributesOfFields_cons (field : Datamodel.Field) (fields : List Datamodel.Field) :
    attributesOfFields (field :: fields) = (do
      let first ← Attribute.ofField field
      let attributes ← attributesOfFields fields
      return first.toList ++ attributes) := by
  simp only [attributesOfFields, List.mapM_cons]
  cases Attribute.ofField field with
  | error failure => rfl
  | ok first =>
    cases fields.mapM Attribute.ofField with
    | error failure => rfl
    | ok found => cases first <;> rfl

/-- By induction on the fields: a relation adds nothing to the attributes of
those behind it. -/
theorem attributesOfFields_dataFields (fields : List Datamodel.Field) :
    attributesOfFields (dataFields fields) = attributesOfFields fields := by
  induction fields with
  | nil => rfl
  | cons field fields ih =>
    cases h : field.isRelation with
    | true =>
      have hskipped : dataFields (field :: fields) = dataFields fields := by simp [dataFields, h]
      rw [hskipped, ih, attributesOfFields_cons, Attribute.ofField_of_isRelation h]
      cases attributesOfFields fields <;> rfl
    | false =>
      have hkept : dataFields (field :: fields) = field :: dataFields fields := by
        simp [dataFields, h]
      rw [hkept, attributesOfFields_cons, attributesOfFields_cons, ih]

theorem Declaration.ofModel_withoutRelations (model : Datamodel.Model) :
    Declaration.ofModel model.withoutRelations = Declaration.ofModel model := by
  rw [Declaration.ofModel, Declaration.ofModel, Datamodel.Model.withoutRelations,
    attributesOfFields_dataFields]

theorem ofDatamodel_withoutRelations (datamodel : Datamodel) :
    ofDatamodel datamodel.withoutRelations = ofDatamodel datamodel := by
  simp only [ofDatamodel, Datamodel.withoutRelations,
    mapM_map_of_eq Declaration.ofModel_withoutRelations]

end Page

namespace Datamodel

/-- Relations do not count for what a datamodel is converted to. -/
theorem convert_withoutRelations (options : Options) (datamodel : Datamodel) :
    datamodel.withoutRelations.convert options = datamodel.convert options := by
  rw [convert, convert, Page.ofDatamodel_withoutRelations]

end Datamodel

end DatamodelTypes
