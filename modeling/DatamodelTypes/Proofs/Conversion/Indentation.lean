/-
DatamodelTypes.Proofs.Conversion.Indentation — what depends on the
indentation.

Nothing but the blanks in front of members and attributes does. Whether a
datamodel is converted, and what it fails with, is the same for every
indentation; and if it is converted, its texts are one text with gaps, one
for each enum value and each field that is no relation, and as many blanks
in every gap as the indentation says (`convert_indentation`).

How many gaps a text has is found from how it is put together: `HasGaps`
adds up when texts are appended or joined, and the only gap of its own is
that in front of an entry.
-/
import DatamodelTypes.Proofs.Conversion.Relations

namespace DatamodelTypes

/-! ## 1. Texts with gaps -/

/-- A gap of so many blanks. -/
def blanks (n : Nat) : String :=
  String.ofList (List.replicate n ' ')

/-- A text that varies with a number of blanks, in so many gaps. -/
def HasGaps (text : Nat → String) (count : Nat) : Prop :=
  ∃ first pieces, pieces.length = count ∧
    ∀ n, text n = (blanks n).intercalate (first :: pieces)

/-- The last piece of a text and the first one of the next become one, with
any gap between the pieces. -/
theorem exists_intercalate_append (first first' : String) (pieces pieces' : List String) :
    ∃ next rest, rest.length = pieces.length + pieces'.length ∧ ∀ gap : String,
      gap.intercalate (first :: pieces) ++ gap.intercalate (first' :: pieces') =
        gap.intercalate (next :: rest) := by
  induction pieces generalizing first with
  | nil =>
    refine ⟨first ++ first', pieces', by simp, fun gap => ?_⟩
    rw [String.intercalate_singleton, String.intercalate_cons_append]
  | cons piece pieces ih =>
    obtain ⟨next, rest, hlength, hrest⟩ := ih piece
    refine ⟨first, next :: rest, ?_, fun gap => ?_⟩
    · rw [List.length_cons, hlength, List.length_cons]
      omega
    · rw [String.intercalate_cons_cons, String.append_assoc, hrest, String.intercalate_cons_cons]

namespace HasGaps

theorem const (text : String) : HasGaps (fun _ => text) 0 :=
  ⟨text, [], rfl, fun n => by rw [String.intercalate_singleton]⟩

theorem gap (text : String) : HasGaps (fun n => blanks n ++ text) 1 :=
  ⟨"", [text], rfl, fun n => by
    rw [String.intercalate_cons_cons, String.intercalate_singleton, String.empty_append]⟩

theorem append {text text' : Nat → String} {count count' : Nat} (h : HasGaps text count)
    (h' : HasGaps text' count') : HasGaps (fun n => text n ++ text' n) (count + count') := by
  obtain ⟨first, pieces, rfl, htext⟩ := h
  obtain ⟨first', pieces', rfl, htext'⟩ := h'
  obtain ⟨next, rest, hlength, hrest⟩ := exists_intercalate_append first first' pieces pieces'
  refine ⟨next, rest, hlength, fun n => ?_⟩
  change text n ++ text' n = _
  rw [htext, htext', hrest]

/-- Joined texts have the gaps of all of them: one for each entry of each. -/
theorem intercalate {α β : Type} {text : α → Nat → String} {entries : α → List β}
    {items : List α} (h : ∀ x ∈ items, HasGaps (text x) (entries x).length) (separator : String) :
    HasGaps (fun n => separator.intercalate (items.map (text · n)))
      (items.flatMap entries).length := by
  induction items with
  | nil => exact const ""
  | cons item items ih =>
    obtain ⟨hitem, hitems⟩ := List.forall_mem_cons.1 h
    cases items with
    | nil => simpa using hitem
    | cons next items =>
      have hjoined := (hitem.append (const separator)).append (ih hitems)
      rw [Nat.add_zero, ← List.length_append] at hjoined
      simpa only [List.map_cons, String.intercalate_cons_cons, List.flatMap_cons] using hjoined

end HasGaps

namespace Page

open Datamodel (dataFields)

/-! ## 2. Gaps of a page -/

/-- The number of entries of some classes. -/
def entryCount (declarations : List Declaration) : Nat :=
  (declarations.flatMap (·.block.entries)).length

theorem Block.hasGaps (block : Block) :
    HasGaps (fun n => block.render ⟨n⟩) block.entries.length := by
  have hentry : ∀ entry ∈ block.entries,
      HasGaps (fun n => Options.indent ⟨n⟩ entry 1) [entry].length := by
    intro entry _
    simp only [Options.indent, Nat.mul_one]
    exact HasGaps.gap entry
  have hentries := HasGaps.intercalate hentry "\n"
  have hblock := (HasGaps.const (block.header ++ "\n")).append hentries
  simpa [Block.render] using hblock

theorem hasGaps_renderSection (declarations : List Declaration) :
    HasGaps (fun n => renderSection ⟨n⟩ declarations) (entryCount declarations) :=
  HasGaps.intercalate (fun declaration _ => declaration.block.hasGaps) "\n\n"

theorem hasGaps_render (page : Page) :
    HasGaps (fun n => page.render ⟨n⟩)
      (entryCount page.enums + entryCount page.types + entryCount page.models) := by
  have henums := ((HasGaps.const (banner ++ "\n\n" ++ page.imports.render)).append
    (HasGaps.const "\n\n# Enums\n\n")).append (hasGaps_renderSection page.enums)
  have htypes := (henums.append (HasGaps.const "\n\n# Types\n\n")).append
    (hasGaps_renderSection page.types)
  have hmodels := (htypes.append (HasGaps.const "\n\n# Models\n\n")).append
    (hasGaps_renderSection page.models)
  have hpage := hmodels.append (HasGaps.const "\n")
  simp only [Nat.add_zero, Nat.zero_add] at hpage
  exact hpage

/-! ## 3. Entries of a datamodel -/

/-- Relations give no entry, and all other fields one. -/
theorem length_attributesOfFields {fields : List Datamodel.Field} {attributes : List Attribute}
    (h : attributesOfFields fields = .ok attributes) :
    attributes.length = (dataFields fields).length := by
  induction fields generalizing attributes with
  | nil =>
    cases h
    rfl
  | cons field fields ih =>
    rw [attributesOfFields_cons] at h
    simp only [bind_eq_ok, pure_eq_ok, Attribute.ofField_eq_ok] at h
    obtain ⟨first, hfirst, rest, hrest, rfl⟩ := h
    rw [List.length_append, ih hrest]
    cases hfirst with
    | relation hkind => simp [dataFields, Datamodel.Field.isRelation, hkind]
    | builtin hkind =>
      simp [dataFields, Datamodel.Field.isRelation, hkind]
      omega
    | declared hkind =>
      simp [dataFields, Datamodel.Field.isRelation, hkind]
      omega

theorem entryCount_ofModel {models : List Datamodel.Model} {declarations : List Declaration}
    (h : models.mapM Declaration.ofModel = .ok declarations) :
    entryCount declarations = (models.flatMap fun model => dataFields model.fields).length := by
  rw [entryCount, List.length_flatMap, List.length_flatMap]
  refine congrArg List.sum (map_eq_map_of_mapM h fun _ hof => ?_)
  obtain ⟨attributes, hattributes, rfl⟩ := Declaration.ofModel_eq_ok.1 hof
  rw [Declaration.block, List.length_map, length_attributesOfFields hattributes]

end Page

namespace Datamodel

/-- The number of enum values and of fields that are no relations. -/
def entryCount (datamodel : Datamodel) : Nat :=
  (datamodel.enums.flatMap (·.values)).length +
    ((datamodel.types ++ datamodel.models).flatMap fun model => dataFields model.fields).length

theorem entryCount_ofDatamodel {datamodel : Datamodel} {page : Page}
    (h : Page.ofDatamodel datamodel = .ok page) :
    Page.entryCount page.enums + Page.entryCount page.types + Page.entryCount page.models =
      datamodel.entryCount := by
  obtain ⟨henums, hmodels, htypes⟩ := Page.ofDatamodel_eq_ok.1 h
  have henum : Page.entryCount page.enums = (datamodel.enums.flatMap (·.values)).length := by
    rw [henums, Page.entryCount, List.flatMap_map, List.length_flatMap, List.length_flatMap]
    refine congrArg List.sum (List.map_congr_left fun enum _ => ?_)
    simp [Page.Declaration.ofEnum, Page.Declaration.block]
  rw [henum, Page.entryCount_ofModel htypes, Page.entryCount_ofModel hmodels, entryCount,
    List.flatMap_append, List.length_append, Nat.add_assoc]

/-! ## 4. Texts -/

/-- The texts of a datamodel differ in their gaps only, or all fail alike. -/
theorem convert_hasGaps (datamodel : Datamodel) :
    (∃ failure, ∀ options, datamodel.convert options = .error failure) ∨
      ∃ text, HasGaps text datamodel.entryCount ∧ ∀ n, datamodel.convert ⟨n⟩ = .ok (text n) := by
  cases hpage : Page.ofDatamodel datamodel with
  | error failure =>
    refine .inl ⟨failure, fun options => ?_⟩
    rw [convert, hpage, error_bind]
  | ok page =>
    refine .inr ⟨fun n => page.render ⟨n⟩, ?_, fun n => ?_⟩
    · rw [← entryCount_ofDatamodel hpage]
      exact page.hasGaps_render
    · rw [convert, hpage, ok_bind, pure_eq]

/-- A datamodel fails alike for every indentation, or is converted for every
one, and then its text is the same but for the blanks in front of members
and attributes: so many as the indentation says in front of each, and none
of them in the pieces between. So whether a document is converted does not
depend on the indentation either, and what it fails with does not. -/
theorem convert_indentation :
    (∀ datamodel : Datamodel,
      (∃ failure, ∀ options, datamodel.convert options = .error failure) ∨
        ∃ first pieces, pieces.length = datamodel.entryCount ∧
          ∀ n, datamodel.convert ⟨n⟩ = .ok ((blanks n).intercalate (first :: pieces))) ∧
    ∀ document,
      (∃ failure, ∀ options, convertText options document = .error failure) ∨
        ∀ options, ∃ text, convertText options document = .ok text := by
  refine ⟨fun datamodel => ?_, fun document => ?_⟩
  · rcases datamodel.convert_hasGaps with hfails | ⟨text, ⟨first, pieces, hlength, htext⟩, hconvert⟩
    · exact .inl hfails
    · refine .inr ⟨first, pieces, hlength, fun n => ?_⟩
      rw [hconvert, htext]
  · cases hparse : parse document with
    | error failure =>
      refine .inl ⟨failure, fun options => ?_⟩
      rw [convertText, convertWith, hparse, error_bind]
    | ok datamodel =>
      simp only [convertText, convertWith, hparse, ok_bind]
      rcases datamodel.convert_hasGaps with hfails | ⟨text, -, hconvert⟩
      · exact .inl hfails
      · exact .inr fun options => ⟨text options.indentation, hconvert options.indentation⟩

/-- One gap for the member and one for the attribute that is no relation. -/
example : (Datamodel.mk [.ofNames "Mood" ["good"]]
    [⟨"Entry", none, [.scalar "id" "Int", .relation "notes" "Note" "NoteToEntry"]⟩] []).entryCount =
    2 := by
  decide

end Datamodel

end DatamodelTypes
