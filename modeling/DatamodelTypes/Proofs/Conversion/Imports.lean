/-
DatamodelTypes.Proofs.Conversion.Imports — the imports of a converted
datamodel.

`Datamodel.requests` lists what the declarations of a datamodel need
imported, in the order in which it is needed: an enum its base class; a
model or composite type what its fields need and then its own base class,
with models before types. The import block of the text is made of exactly
the lines that these requests ask for.
-/
import DatamodelTypes.Cli.Run
import DatamodelTypes.Proofs.Conversion.Basic
import DatamodelTypes.Proofs.Page.Imports

namespace DatamodelTypes

namespace Datamodel

open Page (Request)

/-! ## 1. What declarations need -/

/-- What a field needs imported: nothing if it is a relation; otherwise the
type of its primitive, if that is not built in, and then `Optional`, if it
is not required. -/
def Field.requests (field : Field) : List Request :=
  let optional : List Request := if field.isRequired then [] else [⟨"typing", "Optional"⟩]
  match field.kind with
  | .relation _ _ => []
  | .reference _ => optional
  | .scalar name =>
    (if name = "DateTime" then [⟨"datetime", "datetime"⟩]
      else if name = "Json" then [⟨"typing", "Any"⟩]
      else []) ++ optional

/-- What a model or composite type needs imported. -/
def Model.requests (model : Model) : List Request :=
  model.fields.flatMap (·.requests) ++ [⟨"typing", "TypedDict"⟩]

/-- What a datamodel needs imported. -/
def requests (datamodel : Datamodel) : List Request :=
  datamodel.enums.map (fun _ => ⟨"enum", "Enum"⟩) ++
    (datamodel.models ++ datamodel.types).flatMap (·.requests)

end Datamodel

namespace Page

/-! ## 2. The requests of a page -/

theorem Attribute.Of.requests {field : Datamodel.Field} {found : Option Attribute}
    (h : Attribute.Of field found) :
    found.toList.flatMap (·.hint.requests) = field.requests := by
  cases h with
  | relation hkind => simp [Datamodel.Field.requests, hkind]
  | @builtin type hkind =>
    cases hrequired : field.isRequired <;> cases type <;>
      simp [Datamodel.Field.requests, hkind, hrequired, TypeHint.requests, BaseType.requests,
        Builtin.request?, Builtin.scalar]
  | declared hkind =>
    cases hrequired : field.isRequired <;>
      simp [Datamodel.Field.requests, hkind, hrequired, TypeHint.requests, BaseType.requests]

theorem requests_ofModel {model : Datamodel.Model} {declaration : Declaration}
    (h : Declaration.ofModel model = .ok declaration) :
    declaration.requests = model.requests := by
  obtain ⟨attributes, hattributes, rfl⟩ := Declaration.ofModel_eq_ok.1 h
  rw [Declaration.requests, Datamodel.Model.requests,
    flatMap_attributesOfFields hattributes fun _ h => h.requests]

theorem flatMap_requests_ofModel {models : List Datamodel.Model}
    {declarations : List Declaration} (h : models.mapM Declaration.ofModel = .ok declarations) :
    declarations.flatMap (·.requests) = models.flatMap (·.requests) := by
  rw [List.flatMap_def, List.flatMap_def, map_eq_map_of_mapM h fun _ h => requests_ofModel h]

/-- A page asks for what its datamodel needs, in the same order. -/
theorem requests_ofDatamodel {datamodel : Datamodel} {page : Page}
    (h : ofDatamodel datamodel = .ok page) : page.requests = datamodel.requests := by
  obtain ⟨henums, hmodels, htypes⟩ := ofDatamodel_eq_ok.1 h
  have henum : page.enums.flatMap (·.requests) =
      datamodel.enums.map (fun _ => ⟨"enum", "Enum"⟩) := by
    rw [henums, List.flatMap_map, List.map_eq_flatMap]
    rfl
  rw [requests, Datamodel.requests, List.flatMap_append, List.flatMap_append, List.flatMap_append,
    henum, flatMap_requests_ofModel hmodels, flatMap_requests_ofModel htypes, List.append_assoc]

/-- The import lines of a page are those of its datamodel. -/
theorem imports_ofDatamodel {datamodel : Datamodel} {page : Page}
    (h : ofDatamodel datamodel = .ok page) :
    page.imports.lines = importLines datamodel.requests := by
  rw [imports, lines_ofRequests, requests_ofDatamodel h]

end Page

namespace Datamodel

open Page (Request ImportLine importLines)

/-! ## 3. What is needed by what -/

/-- Whether a symbol stands on an import line of its module. -/
def ImportsSymbol (datamodel : Datamodel) (source symbol : String) : Prop :=
  ∃ line ∈ importLines datamodel.requests, line.source = source ∧ symbol ∈ line.symbols

/-- A field of a model or composite type. -/
def HasField (datamodel : Datamodel) (field : Field) : Prop :=
  ∃ model ∈ datamodel.models ++ datamodel.types, field ∈ model.fields

theorem imports_iff {datamodel : Datamodel} {source symbol : String} :
    datamodel.ImportsSymbol source symbol ↔ ⟨source, symbol⟩ ∈ datamodel.requests :=
  Page.exists_importLine ⟨source, symbol⟩

/-- The three things that a field may need. -/
theorem mem_requests_field {field : Field} {request : Request} :
    request ∈ field.requests ↔
      (field.kind = .scalar "DateTime" ∧ request = ⟨"datetime", "datetime"⟩) ∨
      (field.kind = .scalar "Json" ∧ request = ⟨"typing", "Any"⟩) ∨
      (field.isRelation = false ∧ field.isRequired = false ∧ request = ⟨"typing", "Optional"⟩) := by
  simp only [Field.requests, Field.isRelation]
  cases field.kind with
  | relation name target => simp
  | reference target => cases field.isRequired <;> simp
  | scalar name =>
    cases field.isRequired <;> by_cases hd : name = "DateTime" <;> by_cases hj : name = "Json" <;>
      simp [hd, hj]

/-- What is needed is needed by an enum, a model or composite type, or a field. -/
theorem mem_requests {datamodel : Datamodel} {request : Request} :
    request ∈ datamodel.requests ↔
      (datamodel.enums ≠ [] ∧ request = ⟨"enum", "Enum"⟩) ∨
      (datamodel.models ++ datamodel.types ≠ [] ∧ request = ⟨"typing", "TypedDict"⟩) ∨
      ∃ field, datamodel.HasField field ∧ request ∈ field.requests := by
  have henums : request ∈ datamodel.enums.map (fun _ => (⟨"enum", "Enum"⟩ : Request)) ↔
      datamodel.enums ≠ [] ∧ request = ⟨"enum", "Enum"⟩ := by
    rw [List.map_const', List.mem_replicate, ne_eq, List.length_eq_zero_iff]
  rw [requests, List.mem_append, henums, List.mem_flatMap]
  refine or_congr_right ?_
  simp only [Model.requests, List.mem_append, List.mem_flatMap, List.mem_singleton]
  constructor
  · rintro ⟨model, hmodel, ⟨field, hfield, hrequest⟩ | rfl⟩
    · exact .inr ⟨field, ⟨model, List.mem_append.2 hmodel, hfield⟩, hrequest⟩
    · exact .inl ⟨List.ne_nil_of_mem (List.mem_append.2 hmodel), rfl⟩
  · rintro (⟨hne, rfl⟩ | ⟨field, ⟨model, hmodel, hfield⟩, hrequest⟩)
    · obtain ⟨model, hmodel⟩ := List.exists_mem_of_ne_nil _ hne
      exact ⟨model, List.mem_append.1 hmodel, .inr rfl⟩
    · exact ⟨model, List.mem_append.1 hmodel, .inl ⟨field, hfield, hrequest⟩⟩

theorem imports_enum (datamodel : Datamodel) :
    datamodel.ImportsSymbol "enum" "Enum" ↔ datamodel.enums ≠ [] := by
  simp [imports_iff, mem_requests, mem_requests_field]

theorem imports_typedDict (datamodel : Datamodel) :
    datamodel.ImportsSymbol "typing" "TypedDict" ↔ datamodel.models ≠ [] ∨ datamodel.types ≠ [] := by
  simp [imports_iff, mem_requests, mem_requests_field, Decidable.or_iff_not_not_and_not]

theorem imports_datetime (datamodel : Datamodel) :
    datamodel.ImportsSymbol "datetime" "datetime" ↔
      ∃ field, datamodel.HasField field ∧ field.kind = .scalar "DateTime" := by
  simp [imports_iff, mem_requests, mem_requests_field]

theorem imports_any (datamodel : Datamodel) :
    datamodel.ImportsSymbol "typing" "Any" ↔
      ∃ field, datamodel.HasField field ∧ field.kind = .scalar "Json" := by
  simp [imports_iff, mem_requests, mem_requests_field]

theorem imports_optional (datamodel : Datamodel) :
    datamodel.ImportsSymbol "typing" "Optional" ↔
      ∃ field, datamodel.HasField field ∧ field.isRelation = false ∧ field.isRequired = false := by
  simp [imports_iff, mem_requests, mem_requests_field]

/-- All that is ever imported. -/
def knownRequests : List Request :=
  [⟨"enum", "Enum"⟩, ⟨"typing", "TypedDict"⟩, ⟨"datetime", "datetime"⟩, ⟨"typing", "Any"⟩,
    ⟨"typing", "Optional"⟩]

theorem mem_knownRequests {datamodel : Datamodel} {request : Request}
    (h : request ∈ datamodel.requests) : request ∈ knownRequests := by
  obtain ⟨-, rfl⟩ | ⟨-, rfl⟩ | ⟨field, -, h⟩ := mem_requests.1 h
  · simp [knownRequests]
  · simp [knownRequests]
  · obtain ⟨-, rfl⟩ | ⟨-, rfl⟩ | ⟨-, -, rfl⟩ := mem_requests_field.1 h <;> simp [knownRequests]

/-! ## 4. The import block -/

/-- The import block as text, a line for each module. -/
def importBlock (datamodel : Datamodel) : String :=
  "\n".intercalate ((importLines datamodel.requests).map Page.Imports.renderLine)

/-- Between the banner and the sections stand exactly the lines that the
declarations ask for: so what is imported can be told from what is
declared, and the log counts these lines. -/
theorem convert_importBlock {options : Options} {datamodel : Datamodel} {text : String}
    (h : datamodel.convert options = .ok text) :
    (∃ page, Page.ofDatamodel datamodel = .ok page ∧
      text = Page.banner ++ "\n\n" ++ datamodel.importBlock ++
        "\n\n# Enums\n\n" ++ Page.renderSection options page.enums ++
        "\n\n# Types\n\n" ++ Page.renderSection options page.types ++
        "\n\n# Models\n\n" ++ Page.renderSection options page.models ++ "\n") ∧
    (datamodel.ImportsSymbol "enum" "Enum" ↔ datamodel.enums ≠ []) ∧
    (datamodel.ImportsSymbol "typing" "TypedDict" ↔ datamodel.models ≠ [] ∨ datamodel.types ≠ []) ∧
    (datamodel.ImportsSymbol "datetime" "datetime" ↔
      ∃ field, datamodel.HasField field ∧ field.kind = .scalar "DateTime") ∧
    (datamodel.ImportsSymbol "typing" "Any" ↔
      ∃ field, datamodel.HasField field ∧ field.kind = .scalar "Json") ∧
    (datamodel.ImportsSymbol "typing" "Optional" ↔
      ∃ field, datamodel.HasField field ∧ field.isRelation = false ∧ field.isRequired = false) ∧
    (∀ source symbol, datamodel.ImportsSymbol source symbol → ⟨source, symbol⟩ ∈ knownRequests) ∧
    (∀ input, parse input = .ok datamodel →
      ∃ page, page.render options = text ∧
        Cli.pageOfText input = .ok (.converted datamodel.enums.length datamodel.models.length
          datamodel.types.length (importLines datamodel.requests).length, page)) := by
  obtain ⟨page, hpage, rfl⟩ := Page.convert_eq_ok.1 h
  have hlines := Page.imports_ofDatamodel hpage
  refine ⟨⟨page, hpage, ?_⟩, datamodel.imports_enum, datamodel.imports_typedDict,
    datamodel.imports_datetime, datamodel.imports_any, datamodel.imports_optional,
    fun _ _ h => mem_knownRequests (imports_iff.1 h), fun input hinput => ⟨page, rfl, ?_⟩⟩
  · rw [Page.render, Page.Imports.render, hlines, importBlock]
  · simp only [Cli.pageOfText, bind_eq_ok, pure_eq_ok, Page.Imports.size]
    exact ⟨datamodel, hinput, page, hpage, by rw [hlines]⟩

/-- A model that needs an optional date and time, and a type that is any. -/
def journal : Datamodel where
  enums := [.ofNames "Mood" ["good"]]
  models := [⟨"Entry", none, [(Field.scalar "at" "DateTime").optional]⟩]
  types := [⟨"Note", none, [.scalar "body" "Json", .relation "entry" "Entry" "NoteToEntry"]⟩]

/-- The models are asked first, although the types are printed first. -/
theorem convert_importBlock_journal :
    ∃ text sections, journal.convert {} = .ok text ∧
      text = Page.banner ++ "\n\n" ++ ("from enum import Enum\nfrom datetime import datetime\n" ++
        "from typing import Optional, TypedDict, Any") ++ "\n\n# Enums\n\n" ++ sections := by
  have h : ∃ text, journal.convert {} = .ok text := ⟨_, rfl⟩
  obtain ⟨text, h⟩ := h
  obtain ⟨⟨page, -, htext⟩, -⟩ := convert_importBlock h
  have hblock : journal.importBlock = "from enum import Enum\nfrom datetime import datetime\n" ++
      "from typing import Optional, TypedDict, Any" := by decide
  refine ⟨text, Page.renderSection {} page.enums ++ "\n\n# Types\n\n" ++
    Page.renderSection {} page.types ++ "\n\n# Models\n\n" ++
    Page.renderSection {} page.models ++ "\n", h, ?_⟩
  rw [htext, hblock]
  simp only [String.append_assoc]

end Datamodel

end DatamodelTypes
