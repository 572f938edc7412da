/-
DatamodelTypes.Proofs.Conversion.Sections — a converted datamodel section
by section.

A datamodel is converted exactly if it has no unknown primitive, and its
text can be written down without its page: the import lines that it needs,
and a section for each of its lists, made of that list alone
(`convert_eq_ok_iff`). So what a change of the lists does to the text can be
read off: `convert_exchanged` exchanges the models and the composite types,
`convert_withType` appends composite types.

The imports depend on all lists. What a change does to them is a matter of
the requests: the exchange puts them in another order, and appended types
make their requests behind all others.
-/
import DatamodelTypes.Proofs.Conversion.Failure
import DatamodelTypes.Proofs.Conversion.Order
import DatamodelTypes.Proofs.Page.Collecting

namespace DatamodelTypes

namespace Page

/-! ## 1. Sections of a page -/

/-- A section as text: its classes with an empty line between any two. -/
def sectionText (options : Options) (blocks : List Block) : String :=
  "\n\n".intercalate (blocks.map (·.render options))

/-- A page as text, from its import lines and its sections. -/
def assembled (lines : List ImportLine) (enums types models : String) : String :=
  banner ++ "\n\n" ++ "\n".intercalate (lines.map Imports.renderLine) ++
    "\n\n# Enums\n\n" ++ enums ++ "\n\n# Types\n\n" ++ types ++
    "\n\n# Models\n\n" ++ models ++ "\n"

theorem renderSection_eq (options : Options) (declarations : List Declaration) :
    renderSection options declarations = sectionText options (declarations.map (·.block)) := by
  rw [renderSection, sectionText, List.map_map]
  rfl

end Page

namespace Datamodel

open Page (ImportLine importLines assembled sectionText SameImports Extends)

/-! ## 2. Sections of a datamodel -/

/-- The section of some enums. -/
def enumSection (options : Options) (enums : List Enum) : String :=
  sectionText options (enums.map (·.block))

/-- The section of some models, or of some composite types. -/
def modelSection (options : Options) (models : List Model) : String :=
  sectionText options (models.map (·.block))

/-- A datamodel as text. -/
def text (options : Options) (datamodel : Datamodel) : String :=
  assembled (importLines datamodel.requests) (enumSection options datamodel.enums)
    (modelSection options datamodel.types) (modelSection options datamodel.models)

theorem render_ofDatamodel {datamodel : Datamodel} {page : Page}
    (h : Page.ofDatamodel datamodel = .ok page) (options : Options) :
    page.render options = datamodel.text options := by
  obtain ⟨henums, hmodels, htypes⟩ := Page.ofDatamodel_eq_ok.1 h
  have henum : page.enums.map (·.block) = datamodel.enums.map (·.block) := by
    rw [henums, List.map_map]
    exact List.map_congr_left fun enum _ => Page.block_ofEnum enum
  rw [Page.render, Page.Imports.render, Page.imports_ofDatamodel h, Page.renderSection_eq,
    Page.renderSection_eq, Page.renderSection_eq, henum, Page.blocks_ofModel htypes,
    Page.blocks_ofModel hmodels, text, assembled, enumSection, modelSection, modelSection]

/-- The conversion in closed form. -/
theorem convert_eq_ok_iff {options : Options} {datamodel : Datamodel} {result : String} :
    datamodel.convert options = .ok result ↔
      datamodel.unknown? = none ∧ datamodel.text options = result := by
  constructor
  · intro h
    obtain ⟨page, hpage, rfl⟩ := Page.convert_eq_ok.1 h
    have hfailure := failure?_convert options datamodel
    rw [h, failure?_ok, eq_comm, Option.map_eq_none_iff] at hfailure
    exact ⟨hfailure, (render_ofDatamodel hpage options).symm⟩
  · rintro ⟨hknown, rfl⟩
    cases hconvert : datamodel.convert options with
    | error failure =>
      obtain ⟨name, hname, -⟩ := convert_eq_error.1 hconvert
      rw [hknown] at hname
      cases hname
    | ok result =>
      obtain ⟨page, hpage, rfl⟩ := Page.convert_eq_ok.1 hconvert
      rw [render_ofDatamodel hpage]

theorem exists_convert_iff {options : Options} {datamodel : Datamodel} :
    (∃ result, datamodel.convert options = .ok result) ↔ datamodel.unknown? = none := by
  simp only [convert_eq_ok_iff, exists_and_left, exists_eq', and_true]

/-! ## 3. Models and composite types exchanged -/

/-- The datamodel with its models as composite types and its composite types
as models. -/
def exchanged (datamodel : Datamodel) : Datamodel where
  enums := datamodel.enums
  models := datamodel.types
  types := datamodel.models

theorem requests_exchanged (datamodel : Datamodel) :
    datamodel.requests.Perm datamodel.exchanged.requests := by
  rw [requests, requests, exchanged]
  exact (List.perm_append_comm.flatMap_right _).append_left _

theorem unknown?_exchanged (datamodel : Datamodel) :
    datamodel.exchanged.unknown? = none ↔ datamodel.unknown? = none := by
  rw [unknown?, unknown?, unknownIn?_append, unknownIn?_append, Option.or_eq_none_iff,
    Option.or_eq_none_iff]
  exact And.comm

/-- Models and composite types are converted alike. If they are exchanged,
the datamodel is converted as before or fails as before, its section of
enums stays, the other two change places, and the imports come to the same. -/
theorem convert_exchanged (options : Options) (datamodel : Datamodel) :
    ((∃ result, datamodel.convert options = .ok result) ↔
      ∃ result, datamodel.exchanged.convert options = .ok result) ∧
    ∀ result, datamodel.convert options = .ok result →
      result = assembled (importLines datamodel.requests) (enumSection options datamodel.enums)
        (modelSection options datamodel.types) (modelSection options datamodel.models) ∧
      datamodel.exchanged.convert options = .ok
        (assembled (importLines datamodel.exchanged.requests)
          (enumSection options datamodel.enums) (modelSection options datamodel.models)
          (modelSection options datamodel.types)) ∧
      SameImports (importLines datamodel.requests) (importLines datamodel.exchanged.requests) := by
  refine ⟨?_, fun result h => ?_⟩
  · rw [exists_convert_iff, exists_convert_iff, unknown?_exchanged]
  · obtain ⟨hknown, rfl⟩ := convert_eq_ok_iff.1 h
    refine ⟨rfl, ?_, Page.sameImports_of_perm datamodel.requests_exchanged⟩
    exact convert_eq_ok_iff.2 ⟨datamodel.unknown?_exchanged.2 hknown, rfl⟩

/-- An enum, a model with a date and a composite type that may be anything. -/
def visits : Datamodel where
  enums := [.ofNames "Mood" ["good"]]
  models := [⟨"Visit", none, [.scalar "at" "DateTime"]⟩]
  types := [⟨"Note", none, [(Field.scalar "body" "Json").optional]⟩]

/-- With the exchange the types are asked first what they need. -/
theorem convert_exchanged_visits :
    (∃ result, visits.convert {} = .ok result) ∧
      (∃ result, visits.exchanged.convert {} = .ok result) ∧
      importLines visits.requests = [⟨"enum", ["Enum"]⟩, ⟨"datetime", ["datetime"]⟩,
        ⟨"typing", ["TypedDict", "Any", "Optional"]⟩] ∧
      importLines visits.exchanged.requests = [⟨"enum", ["Enum"]⟩,
        ⟨"typing", ["Any", "Optional", "TypedDict"]⟩, ⟨"datetime", ["datetime"]⟩] ∧
      SameImports (importLines visits.requests) (importLines visits.exchanged.requests) := by
  have h : ∃ result, visits.convert {} = .ok result := ⟨_, rfl⟩
  obtain ⟨hiff, hsections⟩ := convert_exchanged {} visits
  obtain ⟨result, hresult⟩ := h
  obtain ⟨-, -, himports⟩ := hsections result hresult
  exact ⟨⟨result, hresult⟩, hiff.1 ⟨result, hresult⟩, by decide, by decide, himports⟩

/-! ## 4. Composite types appended -/

/-- The datamodel with more composite types, one after the other. -/
def withTypes (datamodel : Datamodel) (types : List Model) : Datamodel :=
  types.foldl withType datamodel

theorem withTypes_eq (datamodel : Datamodel) (types : List Model) :
    datamodel.withTypes types = { datamodel with types := datamodel.types ++ types } := by
  induction types generalizing datamodel with
  | nil => simp [withTypes]
  | cons type types ih =>
    rw [withTypes, List.foldl_cons, ← withTypes, ih, withType, List.append_assoc]
    rfl

theorem requests_withTypes (datamodel : Datamodel) (types : List Model) :
    (datamodel.withTypes types).requests =
      datamodel.requests ++ types.flatMap (·.requests) := by
  rw [withTypes_eq]
  simp only [requests, List.flatMap_append, List.append_assoc]

theorem unknown?_withTypes (datamodel : Datamodel) (types : List Model) :
    (datamodel.withTypes types).unknown? = datamodel.unknown?.or (unknownIn? types) := by
  rw [withTypes_eq, unknown?, unknown?, ← unknownIn?_append, List.append_assoc]

/-- Nothing is unknown in models whose primitives are all known. -/
theorem unknownIn?_eq_none {models : List Model} :
    unknownIn? models = none ↔
      ∀ model ∈ models, ∀ field ∈ model.fields, ∀ name, field.kind = .scalar name →
        name ∈ knownScalars := by
  have hfield (field : Field) :
      field.unknown? = none ↔ ∀ name, field.kind = .scalar name → name ∈ knownScalars := by
    rw [Option.eq_none_iff_forall_ne_some]
    simp only [ne_eq, Field.unknown?_eq_some, not_and, not_not]
  simp only [unknownIn?, Model.unknown?, List.findSome?_eq_none_iff, hfield]

/-- What stands between classes and those that are appended to them: an
empty line, if there are classes on both sides. -/
def gapBetween (models more : List Model) : String :=
  if models = [] ∨ more = [] then "" else "\n\n"

theorem modelSection_append (options : Options) (models more : List Model) :
    modelSection options (models ++ more) =
      modelSection options models ++ (gapBetween models more ++ modelSection options more) := by
  unfold gapBetween
  by_cases hmodels : models = []
  · simp [hmodels, modelSection, sectionText]
  · by_cases hmore : more = []
    · simp [hmore, modelSection, sectionText]
    · rw [if_neg (not_or.2 ⟨hmodels, hmore⟩), modelSection, sectionText, List.map_append,
        List.map_append, String.intercalate_append_of_ne_nil (by simpa using hmodels)
          (by simpa using hmore), String.append_assoc]
      rfl

theorem modelSection_singleton (options : Options) (model : Model) :
    modelSection options [model] = model.block.render options := by
  rw [modelSection, sectionText, List.map_singleton, List.map_singleton,
    String.intercalate_singleton]

/-- What becomes of a datamodel that can be converted when composite types
are appended to it: it can be converted unless a primitive of theirs is
unknown, and else fails with the first one; its sections of enums and models
stay, that of the composite types goes on with `more`, and the import lines
go on from those before. -/
structure GoesOn (options : Options) (datamodel : Datamodel) (types : List Model)
    (longer : Datamodel) (more : String) : Prop where
  converts : (∃ text, longer.convert options = .ok text) ↔
    ∀ type ∈ types, ∀ field ∈ type.fields, ∀ name, field.kind = .scalar name →
      name ∈ knownScalars
  fails : ∀ failure, longer.convert options = .error failure ↔
    ∃ name, unknownIn? types = some name ∧ failure = .unknownScalar name
  sections : ∀ text, longer.convert options = .ok text →
    text = assembled (importLines longer.requests) (enumSection options datamodel.enums)
      (modelSection options datamodel.types ++ more) (modelSection options datamodel.models)
  imports : Extends (importLines datamodel.requests) (importLines longer.requests)

theorem goesOn_withTypes {options : Options} {datamodel : Datamodel}
    (h : datamodel.unknown? = none) (types : List Model) :
    GoesOn options datamodel types (datamodel.withTypes types)
      (gapBetween datamodel.types types ++ modelSection options types) := by
  have hunknown : (datamodel.withTypes types).unknown? = unknownIn? types := by
    rw [unknown?_withTypes, h, Option.none_or]
  constructor
  case converts => rw [exists_convert_iff, hunknown, unknownIn?_eq_none]
  case fails =>
    intro failure
    rw [convert_eq_error, hunknown]
  case sections =>
    intro text htext
    obtain ⟨-, rfl⟩ := convert_eq_ok_iff.1 htext
    rw [← modelSection_append, Datamodel.text, withTypes_eq]
  case imports =>
    rw [requests_withTypes]
    exact Page.extends_importLines _ _

/-- A composite type that is appended adds to a text and changes nothing in
it: its class stands behind those of the other composite types, with an empty
line between if there are any. The same holds of one type after the other. -/
theorem convert_withType {options : Options} {datamodel : Datamodel} {result : String}
    (h : datamodel.convert options = .ok result) :
    result = assembled (importLines datamodel.requests) (enumSection options datamodel.enums)
      (modelSection options datamodel.types) (modelSection options datamodel.models) ∧
    (∀ type, GoesOn options datamodel [type] (datamodel.withType type)
      ((if datamodel.types = [] then "" else "\n\n") ++ type.block.render options)) ∧
    ∀ types, GoesOn options datamodel types (datamodel.withTypes types)
      (gapBetween datamodel.types types ++ modelSection options types) := by
  obtain ⟨hknown, rfl⟩ := convert_eq_ok_iff.1 h
  refine ⟨rfl, fun type => ?_, goesOn_withTypes hknown⟩
  have hone := @goesOn_withTypes options _ hknown [type]
  simp only [gapBetween, modelSection_singleton, List.cons_ne_nil, or_false] at hone
  exact hone

/-- A model, and no composite types yet. -/
def gallery : Datamodel where
  models := [⟨"Picture", none, [.scalar "title" "String"]⟩]

/-- A composite type with a date, and one that may be anything. -/
def frame : Model :=
  ⟨"Frame", none, [.scalar "made" "DateTime"]⟩

def note : Model :=
  ⟨"Note", none, [(Field.scalar "body" "Json").optional]⟩

/-- The first type brings a module and the second one symbols of a module
that is there; a type with an unknown primitive is refused. -/
theorem convert_withType_gallery :
    (∃ result, (gallery.withTypes [frame, note]).convert {} = .ok result) ∧
      importLines gallery.requests = [⟨"typing", ["TypedDict"]⟩] ∧
      importLines (gallery.withTypes [frame, note]).requests =
        [⟨"typing", ["TypedDict", "Any", "Optional"]⟩, ⟨"datetime", ["datetime"]⟩] ∧
      Extends (importLines gallery.requests)
        (importLines (gallery.withTypes [frame, note]).requests) ∧
      (gallery.withType ⟨"Blob", none, [.scalar "data" "Bytes"]⟩).convert {} =
        .error (.unknownScalar "Bytes") := by
  have h : ∃ result, gallery.convert {} = .ok result := ⟨_, rfl⟩
  obtain ⟨result, hresult⟩ := h
  obtain ⟨-, hone, hmore⟩ := convert_withType hresult
  have htypes := hmore [frame, note]
  have hknown : ∀ type ∈ [frame, note], ∀ field ∈ type.fields, ∀ name,
      field.kind = .scalar name → name ∈ knownScalars := by
    simp [frame, note, Field.scalar, Field.optional, knownScalars]
  refine ⟨htypes.converts.2 hknown, by decide, by decide, htypes.imports, ?_⟩
  exact ((hone _).fails _).2 ⟨"Bytes", by decide, rfl⟩

end Datamodel

end DatamodelTypes
