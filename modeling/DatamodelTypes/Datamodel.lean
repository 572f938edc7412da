/-
DatamodelTypes.Datamodel — enums, models and composite types, as a
Prisma schema declares them; how the text they are converted to is laid
out, and why there may be none.
-/

namespace DatamodelTypes

namespace Datamodel

/-- One value of an enum. -/
structure EnumValue where
  name : String
  dbName : Option String := none
  deriving DecidableEq, Repr

/-- An enum and its values, in order of declaration. -/
structure Enum where
  name : String
  values : List EnumValue
  deriving DecidableEq, Repr

/-- What a field holds. -/
inductive FieldKind where
  /-- A primitive such as `String` or `DateTime`. -/
  | scalar (name : String)
  /-- A link to another model, which is no data of its own. -/
  | relation (name : String) (target : String)
  /-- Any other named type: an enum, a composite type or an unsupported one. -/
  | reference (target : String)
  deriving DecidableEq, Repr

/-- A field of a model. -/
structure Field where
  name : String
  dbName : Option String := none
  kind : FieldKind
  isList : Bool := false
  isRequired : Bool := true
  deriving DecidableEq, Repr

/-- A model or composite type and its fields, in order of declaration. -/
structure Model where
  name : String
  dbName : Option String := none
  fields : List Field
  deriving DecidableEq, Repr

/-! ## Enums -/

/-- An enum whose values have no database names. -/
def Enum.ofNames (name : String) (values : List String) : Enum :=
  ⟨name, values.map ({ name := · })⟩

/-! ## Fields -/

namespace Field

/-- A required field that holds one primitive. -/
def scalar (name type : String) : Field :=
  { name, kind := .scalar type }

/-- A required field that links to one `target`. -/
def relation (name target relationName : String) : Field :=
  { name, kind := .relation relationName target }

/-- A required field that holds one value of a declared type. -/
def reference (name target : String) : Field :=
  { name, kind := .reference target }

/-- The field made optional. -/
def optional (field : Field) : Field :=
  { field with isRequired := false }

/-- The field made a list. -/
def list (field : Field) : Field :=
  { field with isList := true }

/-- The field under a name of its own in the database. -/
def withDbName (field : Field) (dbName : String) : Field :=
  { field with dbName := some dbName }

/-- The name that stands in generated text: the one in the database, if
there is one that is not empty. -/
def outputName (field : Field) : String :=
  match field.dbName with
  | some dbName => if dbName = "" then field.name else dbName
  | none => field.name

/-- Whether the field is a link to another model. -/
def isRelation (field : Field) : Bool :=
  match field.kind with
  | .relation _ _ => true
  | _ => false

end Field

end Datamodel

/-- The declarations of a schema, in three lists. Composite types have
the form of models. -/
structure Datamodel where
  enums : List Datamodel.Enum := []
  models : List Datamodel.Model := []
  types : List Datamodel.Model := []
  deriving DecidableEq, Repr

namespace Datamodel

/-- The datamodel with one more enum. -/
def withEnum (datamodel : Datamodel) (enum : Enum) : Datamodel :=
  { datamodel with enums := datamodel.enums ++ [enum] }

/-- The datamodel with one more model. -/
def withModel (datamodel : Datamodel) (model : Model) : Datamodel :=
  { datamodel with models := datamodel.models ++ [model] }

/-- The datamodel with one more composite type. -/
def withType (datamodel : Datamodel) (type : Model) : Datamodel :=
  { datamodel with types := datamodel.types ++ [type] }

end Datamodel

/-! ## Conversions -/

/-- Why a conversion fails: its input is no datamodel, for a reason given
in words, or the datamodel names a primitive that nothing is known about. -/
inductive Failure where
  | parse (detail : String)
  | unknownScalar (name : String)
  deriving DecidableEq, Repr

/-- The wording of a failure. -/
def Failure.message : Failure → String
  | .parse detail => "Failed to parse Prisma DMMF: " ++ detail
  | .unknownScalar name => "Unknown scalar type: " ++ name

/-- The number of spaces that a level of nesting takes unless another is
asked for. -/
def defaultIndentation : Nat := 4

/-- The layout of the output: how many spaces a level of nesting takes. -/
structure Options where
  indentation : Nat := defaultIndentation
  deriving DecidableEq, Repr

namespace Options

/-- A line, `levels` levels deep. -/
def indent (options : Options) (line : String) (levels : Nat) : String :=
  String.ofList (List.replicate (options.indentation * levels) ' ') ++ line

end Options

end DatamodelTypes
