/-
DatamodelTypes.Conversion — from a datamodel to a page.

An enum becomes an enumeration, a model or composite type a record with
an attribute for each field that is no relation. The only thing that can
fail is the type of a primitive field; the first such field counts, with
models before composite types.
-/
import DatamodelTypes.Datamodel.Document
import DatamodelTypes.Page

namespace DatamodelTypes

namespace Page

/-! ## 1. Declarations -/

/-- The type that a field is built on, if it is no relation. -/
def BaseType.ofKind : Datamodel.FieldKind → Except Failure (Option BaseType)
  | .relation _ _ => .ok none
  | .scalar name => return some (.builtin (← Builtin.ofScalar name))
  | .reference target => .ok (some (.declared target))

/-- The attribute of a field, if it is no relation. -/
def Attribute.ofField (field : Datamodel.Field) : Except Failure (Option Attribute) := do
  let base ← BaseType.ofKind field.kind
  return base.map fun base =>
    ⟨field.outputName, ⟨base, field.isList, !field.isRequired⟩⟩

/-- The attributes of a list of fields. -/
def attributesOfFields (fields : List Datamodel.Field) : Except Failure (List Attribute) := do
  let attributes ← fields.mapM Attribute.ofField
  return attributes.filterMap id

/-- The declaration of an enum. -/
def Declaration.ofEnum (enum : Datamodel.Enum) : Declaration :=
  .enumeration enum.name (enum.values.map (·.name))

/-- The declaration of a model or composite type. -/
def Declaration.ofModel (model : Datamodel.Model) : Except Failure Declaration := do
  let attributes ← attributesOfFields model.fields
  return .record model.name attributes

/-! ## 2. Pages -/

/-- The page of a datamodel. -/
def ofDatamodel (datamodel : Datamodel) : Except Failure Page := do
  let models ← datamodel.models.mapM Declaration.ofModel
  let types ← datamodel.types.mapM Declaration.ofModel
  return { enums := datamodel.enums.map .ofEnum, types, models }

end Page

namespace Datamodel

/-- Reads the text of a DMMF document. -/
def parse (text : String) : Except Failure Datamodel :=
  (read text).mapError (.parse ·.message)

/-- The page of the datamodel, as text. -/
def convert (options : Options) (datamodel : Datamodel) : Except Failure String := do
  let page ← Page.ofDatamodel datamodel
  return page.render options

end Datamodel

/-! ## 3. Texts -/

/-- Converts the datamodel that `parse` finds in a text. -/
def convertWith (parse : String → Except Failure Datamodel) (options : Options) (text : String) :
    Except Failure String := do
  let datamodel ← parse text
  datamodel.convert options

/-- Converts the text of a DMMF document. -/
def convertText (options : Options) (text : String) : Except Failure String :=
  convertWith Datamodel.parse options text

end DatamodelTypes
