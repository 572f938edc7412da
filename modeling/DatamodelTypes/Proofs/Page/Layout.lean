/-
DatamodelTypes.Proofs.Page.Layout — a page line by line.

`Page.lines` lists the lines of a page, empty ones included, from its
declarations. `linesOf_render` says that splitting the text of the page at
its newlines gives exactly these lines, if no import line, class line or
entry has a newline in it.

The text is taken apart from its end: a page is its banner with one piece
after another behind it, and behind each joint `List.splitOn` starts
afresh.
-/
import DatamodelTypes.Page
import Mathlib.Data.List.Basic

namespace DatamodelTypes.Page

/-! ## 1. Lines of a text -/

/-- The lines of a text; an empty one is the last if the text ends in a
newline. -/
def linesOf (text : String) : List (List Char) :=
  text.toList.splitOn '\n'

theorem linesOf_eq_singleton {text : String} (h : '\n' ∉ text.toList) :
    linesOf text = [text.toList] :=
  List.splitOn_eq_singleton h

theorem linesOf_append_newline (s t : String) : linesOf (s ++ "\n" ++ t) = linesOf s ++ linesOf t := by
  simp [linesOf, List.splitOn_append_cons_self]

/-- An empty line between two texts. -/
theorem linesOf_append_gap (s t : String) :
    linesOf (s ++ "\n\n" ++ t) = linesOf s ++ [] :: linesOf t := by
  simp [linesOf, List.splitOn_append_cons_self, List.splitOn_cons_eq_if_modifyHead]

/-- A heading stands between empty lines. -/
theorem linesOf_append_heading (s t : String) {heading : String} (h : '\n' ∉ heading.toList) :
    linesOf (s ++ ("\n\n" ++ heading ++ "\n\n") ++ t) =
      linesOf s ++ [[], heading.toList, []] ++ linesOf t := by
  rw [← String.append_assoc, ← String.append_assoc, linesOf_append_gap, linesOf_append_gap,
    linesOf_eq_singleton h]
  simp

/-! ## 2. Joined texts -/

/-- Lines one below the other; one empty line if there are none. -/
def listed : List (List Char) → List (List Char)
  | [] => [[]]
  | lines => lines

/-- Blocks of lines with an empty line between any two; one empty line if
there are none. -/
def stacked : List (List (List Char)) → List (List Char)
  | [] => [[]]
  | block :: blocks => block ++ blocks.flatMap ([] :: ·)

theorem linesOf_intercalate_newline {texts : List String} (h : ∀ text ∈ texts, '\n' ∉ text.toList) :
    linesOf ("\n".intercalate texts) = listed (texts.map (·.toList)) := by
  cases texts with
  | nil => rfl
  | cons text texts =>
    rw [linesOf, String.toList_intercalate]
    refine List.splitOn_intercalate '\n' ?_ (by simp)
    simpa using h

theorem linesOf_intercalate_gap (texts : List String) :
    linesOf ("\n\n".intercalate texts) = stacked (texts.map linesOf) := by
  cases texts with
  | nil => rfl
  | cons text texts =>
    induction texts generalizing text with
    | nil => simp [stacked]
    | cons next texts ih =>
      rw [String.intercalate_cons_cons, linesOf_append_gap, ih]
      simp [stacked]

/-! ## 3. Lines of a page -/

theorem linesOf_banner : linesOf banner =
    ["# Generated by prisma-to-python - https://github.com/jmsv/prisma-to-python#readme".toList,
      "# Do not edit this file directly!".toList] := by
  decide +kernel

/-- A block whose class line and entries are lines. -/
structure Block.OneLined (block : Block) : Prop where
  header : '\n' ∉ block.header.toList
  entries : ∀ entry ∈ block.entries, '\n' ∉ entry.toList

/-- An entry with its indentation. -/
def entryLine (options : Options) (entry : String) : List Char :=
  (options.indent entry 1).toList

/-- The class line of a block and its entries; one empty line if it has
none. -/
def Block.lines (options : Options) (block : Block) : List (List Char) :=
  block.header.toList :: listed (block.entries.map (entryLine options))

/-- The lines of a section without its heading. -/
def sectionLines (options : Options) (declarations : List Declaration) : List (List Char) :=
  stacked (declarations.map (·.block.lines options))

/-- The lines of a page. -/
def lines (options : Options) (page : Page) : List (List Char) :=
  linesOf banner ++ [[]] ++ listed (page.imports.lines.map (Imports.renderLine · |>.toList)) ++
    [[], "# Enums".toList, []] ++ sectionLines options page.enums ++
    [[], "# Types".toList, []] ++ sectionLines options page.types ++
    [[], "# Models".toList, []] ++ sectionLines options page.models ++ [[]]

theorem entryLine_eq (options : Options) (entry : String) :
    entryLine options entry = List.replicate options.indentation ' ' ++ entry.toList := by
  simp [entryLine, Options.indent]

theorem Block.linesOf_render {options : Options} {block : Block} (h : block.OneLined) :
    linesOf (block.render options) = block.lines options := by
  have hentries : ∀ text ∈ block.entries.map (options.indent · 1), '\n' ∉ text.toList := by
    intro text htext
    obtain ⟨entry, hentry, rfl⟩ := List.mem_map.1 htext
    have hline := entryLine_eq options entry
    rw [entryLine] at hline
    rw [hline, List.mem_append, List.mem_replicate]
    rintro (⟨-, hc⟩ | hc)
    · exact absurd hc (by decide)
    · exact h.entries entry hentry hc
  rw [Block.render, linesOf_append_newline, linesOf_eq_singleton h.header,
    linesOf_intercalate_newline hentries, List.map_map]
  rfl

theorem linesOf_renderSection {options : Options} {declarations : List Declaration}
    (h : ∀ declaration ∈ declarations, declaration.block.OneLined) :
    linesOf (renderSection options declarations) = sectionLines options declarations := by
  rw [renderSection, linesOf_intercalate_gap, List.map_map, sectionLines]
  refine congrArg stacked (List.map_congr_left fun declaration hdeclaration => ?_)
  exact Block.linesOf_render (h declaration hdeclaration)

theorem Imports.linesOf_render {imports : Imports}
    (h : ∀ line ∈ imports.lines, '\n' ∉ (renderLine line).toList) :
    linesOf imports.render = listed (imports.lines.map (renderLine · |>.toList)) := by
  rw [render, linesOf_intercalate_newline, List.map_map]
  · rfl
  · intro text htext
    obtain ⟨line, hline, rfl⟩ := List.mem_map.1 htext
    exact h line hline

/-- A page is its sections behind their headings, whatever names they have. -/
theorem linesOf_render_eq (options : Options) (page : Page) :
    linesOf (page.render options) =
      linesOf banner ++ [[]] ++ linesOf page.imports.render ++
        [[], "# Enums".toList, []] ++ linesOf (renderSection options page.enums) ++
        [[], "# Types".toList, []] ++ linesOf (renderSection options page.types) ++
        [[], "# Models".toList, []] ++ linesOf (renderSection options page.models) ++ [[]] := by
  have hend (s : String) : linesOf (s ++ "\n") = linesOf s ++ [[]] := by
    have hempty := linesOf_append_newline s ""
    rwa [String.append_empty] at hempty
  rw [render, hend,
    show "\n\n# Models\n\n" = "\n\n" ++ "# Models" ++ "\n\n" from rfl,
    show "\n\n# Types\n\n" = "\n\n" ++ "# Types" ++ "\n\n" from rfl,
    show "\n\n# Enums\n\n" = "\n\n" ++ "# Enums" ++ "\n\n" from rfl,
    linesOf_append_heading _ _ (by decide), linesOf_append_heading _ _ (by decide),
    linesOf_append_heading _ _ (by decide), linesOf_append_gap]
  simp only [List.append_assoc, List.cons_append, List.nil_append]

/-- A page has exactly its lines. -/
theorem linesOf_render {options : Options} {page : Page}
    (himports : ∀ line ∈ page.imports.lines, '\n' ∉ (Imports.renderLine line).toList)
    (henums : ∀ declaration ∈ page.enums, declaration.block.OneLined)
    (htypes : ∀ declaration ∈ page.types, declaration.block.OneLined)
    (hmodels : ∀ declaration ∈ page.models, declaration.block.OneLined) :
    linesOf (page.render options) = page.lines options := by
  rw [linesOf_render_eq, Imports.linesOf_render himports, linesOf_renderSection henums,
    linesOf_renderSection htypes, linesOf_renderSection hmodels, lines]

end DatamodelTypes.Page
