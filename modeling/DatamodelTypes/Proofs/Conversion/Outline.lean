/-
DatamodelTypes.Proofs.Conversion.Outline — the generated text determines
what was declared.

The outline of a datamodel is what its declarations say in Python: the
names, the values of enums, and the fields that are no relations with the
names of their types and their flags. Two datamodels with plain names that
are converted to one text have one outline (`outline_eq_of_convert_eq`).

A datamodel with plain names becomes a page with plain names, and a page
tells its declarations by `Proofs.Page.Legibility`; what is left is that
the outline of a datamodel can be read off its page.
-/
import DatamodelTypes.Proofs.Conversion.Imports
import DatamodelTypes.Proofs.Page.Legibility

namespace DatamodelTypes

namespace Datamodel

open Page (IsName Attribute Declaration)

/-! ## 1. Outlines -/

/-- A field as it is declared in Python. -/
structure FieldOutline where
  name : String
  base : String
  isList : Bool
  isRequired : Bool
  deriving DecidableEq, Repr

/-- What the declarations of a datamodel say in Python, by section. -/
structure Outline where
  enums : List (String × List String)
  types : List (String × List FieldOutline)
  models : List (String × List FieldOutline)
  deriving DecidableEq, Repr

/-- The name of the Python type that a field is built on. -/
def FieldKind.base? : FieldKind → Option String
  | .relation _ _ => none
  | .scalar name => (Page.Builtin.ofScalar name).toOption.map (·.name)
  | .reference target => some target

/-- A field in outline, unless it is a relation. -/
def Field.outline? (field : Field) : Option FieldOutline :=
  field.kind.base?.map fun base => ⟨field.outputName, base, field.isList, field.isRequired⟩

/-- An enum in outline. -/
def Enum.outline (enum : Enum) : String × List String :=
  (enum.name, enum.values.map (·.name))

/-- A model or composite type in outline. -/
def Model.outline (model : Model) : String × List FieldOutline :=
  (model.name, model.fields.filterMap (·.outline?))

/-- A datamodel in outline. -/
def outline (datamodel : Datamodel) : Outline where
  enums := datamodel.enums.map (·.outline)
  types := datamodel.types.map (·.outline)
  models := datamodel.models.map (·.outline)

/-! ## 2. Plain names -/

/-- A field whose names are plain, if they are printed. -/
def Field.Legible (field : Field) : Prop :=
  field.isRelation = false →
    IsName field.outputName ∧ ∀ target, field.kind = .reference target → IsName target

/-- A datamodel whose printed names are plain. -/
structure Legible (datamodel : Datamodel) : Prop where
  enums : ∀ enum ∈ datamodel.enums, IsName enum.name ∧ ∀ value ∈ enum.values, IsName value.name
  models : ∀ model ∈ datamodel.models ++ datamodel.types,
    IsName model.name ∧ ∀ field ∈ model.fields, field.Legible

/-- The names of built-in types are plain. -/
theorem isName_builtin (type : Page.Builtin) : IsName type.name := by
  cases type <;> decide

theorem Field.Legible.attribute {field : Field} (h : field.Legible) {attr : Attribute}
    (hof : Attribute.Of field (some attr)) : IsName attr.name ∧ IsName attr.hint.base.name := by
  cases hof with
  | @builtin type hkind =>
    exact ⟨(h (by rw [isRelation, hkind])).1, isName_builtin type⟩
  | @declared target hkind =>
    obtain ⟨hname, htarget⟩ := h (by rw [isRelation, hkind])
    exact ⟨hname, htarget target hkind⟩

theorem legible_ofModel {models : List Model} {declarations : List Declaration}
    (h : models.mapM Declaration.ofModel = .ok declarations)
    (hlegible : ∀ model ∈ models, IsName model.name ∧ ∀ field ∈ model.fields, field.Legible) :
    ∀ declaration ∈ declarations, declaration.Legible := by
  intro declaration hdeclaration
  obtain ⟨model, hmodel, hof⟩ := exists_of_mem_mapM h hdeclaration
  obtain ⟨attributes, hattributes, rfl⟩ := Page.Declaration.ofModel_eq_ok.1 hof
  obtain ⟨hname, hfields⟩ := hlegible model hmodel
  refine ⟨hname, fun attr hattr => ?_⟩
  obtain ⟨field, hfield, hof⟩ := Page.exists_of_mem_attributesOfFields hattributes hattr
  exact (hfields field hfield).attribute hof

/-- A datamodel with plain names becomes a page with plain names. -/
theorem Legible.page {datamodel : Datamodel} (h : datamodel.Legible) {page : Page}
    (hpage : Page.ofDatamodel datamodel = .ok page) : page.Legible := by
  obtain ⟨henums, hmodels, htypes⟩ := Page.ofDatamodel_eq_ok.1 hpage
  constructor
  case imports =>
    have hknown : ∀ request ∈ knownRequests,
        '\n' ∉ request.source.toList ∧ '\n' ∉ request.symbol.toList := by decide
    rw [Page.imports_ofDatamodel hpage]
    exact Page.newline_not_mem_importLine fun request h => hknown request (mem_knownRequests h)
  case enums =>
    rw [henums, List.forall_mem_map]
    intro enum henum
    obtain ⟨hname, hvalues⟩ := h.enums enum henum
    exact ⟨hname, by simpa using hvalues⟩
  case types =>
    exact legible_ofModel htypes fun model hmodel =>
      h.models model (List.mem_append_right _ hmodel)
  case models =>
    exact legible_ofModel hmodels fun model hmodel =>
      h.models model (List.mem_append_left _ hmodel)

end Datamodel

namespace Page

open Datamodel (FieldOutline)

/-! ## 3. Outlines of pages -/

/-- An attribute in outline. -/
def Attribute.outline (attr : Attribute) : FieldOutline :=
  ⟨attr.name, attr.hint.base.name, attr.hint.isList, !attr.hint.isOptional⟩

/-- The values of an enumeration, with its name. -/
def Declaration.valueOutline : Declaration → String × List String
  | .enumeration name values => (name, values)
  | .record name _ => (name, [])

/-- The attributes of a record in outline, with its name. -/
def Declaration.fieldOutline : Declaration → String × List FieldOutline
  | .enumeration name _ => (name, [])
  | .record name attributes => (name, attributes.map (·.outline))

theorem Declaration.valueOutline_named (declaration : Declaration) :
    declaration.named.valueOutline = declaration.valueOutline := by
  cases declaration <;> rfl

theorem Declaration.fieldOutline_named (declaration : Declaration) :
    declaration.named.fieldOutline = declaration.fieldOutline := by
  cases declaration with
  | enumeration => rfl
  | record name attributes =>
    simp only [Declaration.named, Declaration.fieldOutline, List.map_map]
    rfl

theorem Attribute.Of.outline {field : Datamodel.Field} {found : Option Attribute}
    (h : Attribute.Of field found) :
    found.toList.flatMap (fun attr => [attr.outline]) = field.outline?.toList := by
  cases h with
  | relation hkind => simp [Datamodel.Field.outline?, Datamodel.FieldKind.base?, hkind]
  | @builtin type hkind =>
    simp [Datamodel.Field.outline?, Datamodel.FieldKind.base?, hkind,
      Builtin.ofScalar_eq_ok.2 rfl, Except.toOption, Attribute.outline, BaseType.name]
  | declared hkind =>
    simp [Datamodel.Field.outline?, Datamodel.FieldKind.base?, hkind, Attribute.outline,
      BaseType.name]

theorem fieldOutline_ofModel {models : List Datamodel.Model} {declarations : List Declaration}
    (h : models.mapM Declaration.ofModel = .ok declarations) :
    declarations.map (·.fieldOutline) = models.map (·.outline) := by
  refine map_eq_map_of_mapM h fun _ hof => ?_
  obtain ⟨attributes, hattributes, rfl⟩ := Declaration.ofModel_eq_ok.1 hof
  have hfields := flatMap_attributesOfFields hattributes fun _ h => h.outline
  rw [Declaration.fieldOutline, Datamodel.Model.outline, List.filterMap_eq_flatMap_toList,
    ← hfields, List.map_eq_flatMap]

/-- The outline of a datamodel can be read off its page. -/
theorem outline_ofDatamodel {datamodel : Datamodel} {page : Page}
    (h : ofDatamodel datamodel = .ok page) :
    datamodel.outline = ⟨page.enums.map (·.valueOutline), page.types.map (·.fieldOutline),
      page.models.map (·.fieldOutline)⟩ := by
  obtain ⟨henums, hmodels, htypes⟩ := ofDatamodel_eq_ok.1 h
  have henum : page.enums.map (·.valueOutline) = datamodel.enums.map (·.outline) := by
    rw [henums, List.map_map]
    rfl
  rw [Datamodel.outline, henum, fieldOutline_ofModel htypes, fieldOutline_ofModel hmodels]

/-- What declarations say is told by their names. -/
theorem map_eq_map_of_named {β : Type} {declarations declarations' : List Declaration}
    (h : declarations.map (·.named) = declarations'.map (·.named)) {f : Declaration → β}
    (hf : ∀ declaration, f declaration.named = f declaration) :
    declarations.map f = declarations'.map f := by
  refine map_eq_map_of_map_eq_map h fun d _ d' _ hnamed => ?_
  rw [← hf d, ← hf d', hnamed]

end Page

namespace Datamodel

/-! ## 4. Texts -/

/-- The text tells all that was declared: whatever the indentation, nothing
is lost, merged or moved from one section to another. -/
theorem outline_eq_of_convert_eq {options : Options} {datamodel datamodel' : Datamodel}
    {text : String} (h : datamodel.convert options = .ok text)
    (h' : datamodel'.convert options = .ok text) (hlegible : datamodel.Legible)
    (hlegible' : datamodel'.Legible) : datamodel.outline = datamodel'.outline := by
  obtain ⟨page, hpage, hrender⟩ := Page.convert_eq_ok.1 h
  obtain ⟨page', hpage', hrender'⟩ := Page.convert_eq_ok.1 h'
  obtain ⟨henums, htypes, hmodels⟩ := Page.named_eq_of_render_eq (hrender.trans hrender'.symm)
    (hlegible.page hpage) (hlegible'.page hpage')
  rw [Page.outline_ofDatamodel hpage, Page.outline_ofDatamodel hpage',
    Page.map_eq_map_of_named henums Page.Declaration.valueOutline_named,
    Page.map_eq_map_of_named htypes Page.Declaration.fieldOutline_named,
    Page.map_eq_map_of_named hmodels Page.Declaration.fieldOutline_named]

/-- An entry with a number, a note and a link. -/
def entries : Datamodel where
  enums := [.ofNames "Mood" ["good"]]
  models := [⟨"Entry", none, [.scalar "id" "Int", .relation "notes" "Note" "NoteToEntry",
    (Field.reference "mood" "Mood").optional]⟩]
  types := [⟨"Note", none, []⟩]

/-- The same classes from other declarations. -/
def entries' : Datamodel where
  enums := [⟨"Mood", [⟨"good", some "g"⟩]⟩]
  models := [⟨"Entry", some "entries", [(Field.reference "number" "int").withDbName "id",
    (Field.reference "mood" "Mood").optional]⟩]
  types := [⟨"Note", none, [.relation "entry" "Entry" "NoteToEntry"]⟩]

/-- Two datamodels that say the same in Python, without indentation. -/
theorem outline_eq_of_convert_eq_entries :
    entries ≠ entries' ∧ (∃ text, entries.convert ⟨0⟩ = .ok text ∧ entries'.convert ⟨0⟩ = .ok text) ∧
      entries.outline = entries'.outline := by
  have h : ∃ text, entries.convert ⟨0⟩ = .ok text := ⟨_, rfl⟩
  obtain ⟨text, h⟩ := h
  have h' : entries'.convert ⟨0⟩ = .ok text := h
  refine ⟨by decide, ⟨text, h, h'⟩, outline_eq_of_convert_eq h h' ?_ ?_⟩
  · constructor <;> simp [entries, Enum.ofNames, Field.Legible, Field.scalar, Field.reference,
      Field.relation, Field.optional, Field.outputName, Field.isRelation] <;> decide
  · constructor <;> simp [entries', Field.Legible, Field.reference, Field.withDbName,
      Field.relation, Field.optional, Field.outputName, Field.isRelation] <;> decide

end Datamodel

end DatamodelTypes
