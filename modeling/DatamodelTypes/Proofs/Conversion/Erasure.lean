/-
DatamodelTypes.Proofs.Conversion.Erasure — what of a datamodel never
reaches a page.

Relations become no text, and neither do the names that enum values, models
and composite types have in the database. A field is known by one name: the
one in the database if it has one that is not empty, and its own otherwise.
`Datamodel.erased` forgets all that. Datamodels that are the same then are
converted alike (`convert_eq_of_erased_eq`): to the same text or to the
same failure, with the same numbers in the log.

It is enough that a datamodel has the page of its erasure, failures
included, since text and numbers are computed from the page. Relations are
done with by `attributesOfFields_dataFields`; what is left is a statement
about one field, carried up through the lists.
-/
import DatamodelTypes.Cli.Run
import DatamodelTypes.Proofs.Conversion.Relations

namespace DatamodelTypes

namespace Datamodel

/-! ## 1. Erasure -/

/-- The enum without the names of its values in the database. -/
def Enum.erased (enum : Enum) : Enum :=
  .ofNames enum.name (enum.values.map (·.name))

/-- The field under the name that stands in generated text, and no other. -/
def Field.erased (field : Field) : Field :=
  { field with name := field.outputName, dbName := none }

/-- The model without its relations and its name in the database. -/
def Model.erased (model : Model) : Model where
  name := model.name
  fields := (dataFields model.fields).map (·.erased)

/-- The datamodel without what never reaches a page. -/
def erased (datamodel : Datamodel) : Datamodel where
  enums := datamodel.enums.map (·.erased)
  models := datamodel.models.map (·.erased)
  types := datamodel.types.map (·.erased)

/-- The one name that is left is the one that counted before. -/
@[simp] theorem Field.outputName_erased (field : Field) :
    field.erased.outputName = field.outputName :=
  rfl

/-- No declaration is forgotten as a whole. -/
theorem length_eq_of_erased_eq {datamodel other : Datamodel}
    (h : datamodel.erased = other.erased) :
    datamodel.enums.length = other.enums.length ∧
      datamodel.models.length = other.models.length ∧
      datamodel.types.length = other.types.length := by
  have henums := congrArg (·.enums.length) h
  have hmodels := congrArg (·.models.length) h
  have htypes := congrArg (·.types.length) h
  simp only [erased, List.length_map] at henums hmodels htypes
  exact ⟨henums, hmodels, htypes⟩

end Datamodel

namespace Page

open Datamodel (dataFields)

/-! ## 2. The page of an erasure -/

theorem Declaration.ofEnum_erased (enum : Datamodel.Enum) :
    Declaration.ofEnum enum.erased = Declaration.ofEnum enum := by
  simp [Declaration.ofEnum, Datamodel.Enum.erased, Datamodel.Enum.ofNames]

theorem Attribute.ofField_erased (field : Datamodel.Field) :
    Attribute.ofField field.erased = Attribute.ofField field := by
  rw [Attribute.ofField, Attribute.ofField, Datamodel.Field.outputName_erased]
  rfl

theorem attributesOfFields_erased (fields : List Datamodel.Field) :
    attributesOfFields ((dataFields fields).map (·.erased)) = attributesOfFields fields := by
  rw [← attributesOfFields_dataFields fields, attributesOfFields,
    mapM_map_of_eq Attribute.ofField_erased]
  rfl

theorem Declaration.ofModel_erased (model : Datamodel.Model) :
    Declaration.ofModel model.erased = Declaration.ofModel model := by
  rw [Declaration.ofModel, Declaration.ofModel, Datamodel.Model.erased, attributesOfFields_erased]

/-- A datamodel has the page of its erasure, or fails as that does. -/
theorem ofDatamodel_erased (datamodel : Datamodel) :
    ofDatamodel datamodel.erased = ofDatamodel datamodel := by
  have henums : (datamodel.enums.map (·.erased)).map Declaration.ofEnum =
      datamodel.enums.map Declaration.ofEnum := by
    rw [List.map_map]
    exact congrArg (List.map · datamodel.enums) (funext Declaration.ofEnum_erased)
  simp only [ofDatamodel, Datamodel.erased, mapM_map_of_eq Declaration.ofModel_erased, henums]

theorem ofDatamodel_eq_of_erased_eq {datamodel other : Datamodel}
    (h : datamodel.erased = other.erased) : ofDatamodel datamodel = ofDatamodel other := by
  rw [← ofDatamodel_erased, h, ofDatamodel_erased]

end Page

namespace Datamodel

/-! ## 3. Datamodels with one erasure -/

/-- Datamodels with the same erasure are converted to the same text or fail
with the same failure, for all options. They have as many enums, models and
composite types and need as many modules, which is what the log says about
a conversion: so texts that are parsed to them have the same page and the
same event, or fail alike. -/
theorem convert_eq_of_erased_eq {datamodel other : Datamodel}
    (h : datamodel.erased = other.erased) :
    (∀ options, datamodel.convert options = other.convert options) ∧
      datamodel.enums.length = other.enums.length ∧
      datamodel.models.length = other.models.length ∧
      datamodel.types.length = other.types.length ∧
      (·.imports.size) <$> Page.ofDatamodel datamodel =
        (·.imports.size) <$> Page.ofDatamodel other ∧
      ∀ text text', parse text = .ok datamodel → parse text' = .ok other →
        Cli.pageOfText text = Cli.pageOfText text' := by
  have hpage : Page.ofDatamodel datamodel = Page.ofDatamodel other :=
    Page.ofDatamodel_eq_of_erased_eq h
  obtain ⟨henums, hmodels, htypes⟩ := length_eq_of_erased_eq h
  refine ⟨fun options => ?_, henums, hmodels, htypes, ?_, ?_⟩
  · rw [convert, convert, hpage]
  · rw [hpage]
  · intro text text' htext htext'
    rw [Cli.pageOfText, Cli.pageOfText, htext, htext', ok_bind, ok_bind, hpage, henums, hmodels,
      htypes]

/-- An order with a relation in front of its data, and names in a database
that are used, empty or of no use. -/
def orders : Datamodel where
  enums := [⟨"State", [⟨"open", some "o"⟩, ⟨"paid", none⟩]⟩]
  models := [⟨"Order", some "orders", [.relation "buyer" "User" "OrderToUser",
    (Field.scalar "placedAt" "DateTime").withDbName "placed_at",
    (Field.scalar "id" "Int").withDbName "", (Field.relation "lines" "Line" "").list,
    (Field.scalar "total" "Money").optional]⟩]

/-- The same order as far as a page can tell. -/
def plainOrders : Datamodel where
  enums := [.ofNames "State" ["open", "paid"]]
  models := [⟨"Order", none, [.scalar "placed_at" "DateTime",
    (Field.scalar "key" "Int").withDbName "id", (Field.scalar "total" "Money").optional,
    (Field.relation "lines" "Line" "OrderToLine").optional]⟩]

/-- Both fail with the same unknown primitive. -/
theorem convert_eq_of_erased_eq_orders :
    orders.erased = plainOrders.erased ∧
      orders.convert {} = .error (.unknownScalar "Money") ∧
      plainOrders.convert {} = .error (.unknownScalar "Money") := by
  have herased : orders.erased = plainOrders.erased := by decide
  obtain ⟨hconvert, -⟩ := convert_eq_of_erased_eq herased
  have horders : orders.convert {} = .error (.unknownScalar "Money") := rfl
  exact ⟨herased, horders, hconvert {} ▸ horders⟩

end Datamodel

end DatamodelTypes
