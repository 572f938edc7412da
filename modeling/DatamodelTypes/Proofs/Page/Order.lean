/-
DatamodelTypes.Proofs.Page.Order — what stands above what on a page.

The classes of a page stand one below the other, enums first, then types,
then models, and in each section in the order of its list. `Stacks` says
that of blocks of lines and the lines of a text, and `stacks_render` of the
classes of a page and its text, whatever names they have.

No line is looked for in a text: the blocks are found where the page is
put together, one joint after the other.
-/
import DatamodelTypes.Proofs.Page.Layout
import Mathlib.Data.List.TakeWhile

namespace DatamodelTypes.Page

variable {α : Type}

/-! ## 1. Blocks one below the other -/

/-- Blocks of lines that stand one below the other, among other lines. -/
inductive Stacks : List (List α) → List α → Prop
  | none (lines : List α) : Stacks [] lines
  | block (above block : List α) {blocks : List (List α)} {rest : List α}
      (h : Stacks blocks rest) : Stacks (block :: blocks) (above ++ block ++ rest)

namespace Stacks

theorem prepend {blocks : List (List α)} {lines : List α} (h : Stacks blocks lines)
    (more : List α) : Stacks blocks (more ++ lines) := by
  cases h with
  | none => exact .none _
  | block above block h =>
    rw [List.append_assoc, ← List.append_assoc, ← List.append_assoc]
    exact .block (more ++ above) block h

theorem append {blocks blocks' : List (List α)} {lines lines' : List α} (h : Stacks blocks lines)
    (h' : Stacks blocks' lines') : Stacks (blocks ++ blocks') (lines ++ lines') := by
  induction h with
  | none lines => exact h'.prepend lines
  | block above block _ ih =>
    rw [List.append_assoc]
    exact .block above block ih

theorem extend {blocks : List (List α)} {lines : List α} (h : Stacks blocks lines)
    (more : List α) : Stacks blocks (lines ++ more) := by
  have hmore := h.append (.none more)
  rwa [List.append_nil] at hmore

/-- A block that does not count is one of the other lines. -/
theorem sublist {blocks fewer : List (List α)} {lines : List α} (h : Stacks blocks lines)
    (hfewer : fewer.Sublist blocks) : Stacks fewer lines := by
  induction h generalizing fewer with
  | none lines =>
    rw [List.sublist_nil.1 hfewer]
    exact .none lines
  | block above block _ ih =>
    cases hfewer with
    | cons _ hrest => exact (ih hrest).prepend _
    | cons_cons _ hrest => exact .block above block (ih hrest)

end Stacks

theorem stacks_stacked (blocks : List (List (List Char))) : Stacks blocks (stacked blocks) := by
  have hgaps (blocks : List (List (List Char))) : Stacks blocks (blocks.flatMap ([] :: ·)) := by
    induction blocks with
    | nil => exact .none _
    | cons block blocks ih => exact .block [[]] block ih
  cases blocks with
  | nil => exact .none _
  | cons block blocks => exact .block [] block (hgaps blocks)

/-! ## 2. Pieces of a text -/

/-- A piece of a text, on lines of its own. -/
def StandsIn (text piece : String) : Prop :=
  ∃ above below, linesOf text = above ++ linesOf piece ++ below

/-- Two pieces of a text on lines of their own, the first one above the
second. -/
def StandsAbove (text upper lower : String) : Prop :=
  ∃ above between below,
    linesOf text = above ++ linesOf upper ++ between ++ linesOf lower ++ below

theorem Stacks.standsIn {text piece : String} (h : Stacks [linesOf piece] (linesOf text)) :
    StandsIn text piece := by
  generalize hlines : linesOf text = lines at h
  cases h with
  | @block above _ _ below _ => exact ⟨above, below, hlines⟩

theorem Stacks.standsAbove {text upper lower : String}
    (h : Stacks [linesOf upper, linesOf lower] (linesOf text)) : StandsAbove text upper lower := by
  generalize hlines : linesOf text = lines at h
  cases h with
  | block above _ h =>
    cases h with
    | @block between _ _ below _ =>
      refine ⟨above, between, below, ?_⟩
      rw [hlines]
      simp only [List.append_assoc]

/-- A line of the lower piece is found behind the first one that is like a
given line of the upper piece. -/
theorem StandsAbove.mem_dropWhile {text upper lower : String} (h : StandsAbove text upper lower)
    {line line' : List Char} (hline : line ∈ linesOf upper) (hline' : line' ∈ linesOf lower) :
    line' ∈ (linesOf text).dropWhile (· ≠ line) := by
  obtain ⟨above, between, below, htext⟩ := h
  have hsplit : linesOf text =
      (above ++ linesOf upper) ++ (between ++ linesOf lower ++ below) := by
    rw [htext]
    simp only [List.append_assoc]
  have hfound : ¬ ((above ++ linesOf upper).dropWhile (· ≠ line)).isEmpty = true := by
    rw [List.isEmpty_iff, List.dropWhile_eq_nil_iff]
    intro hnone
    have hother := hnone line (List.mem_append_right _ hline)
    simp at hother
  rw [hsplit, List.dropWhile_append, if_neg hfound]
  simp [hline']

/-! ## 3. Classes of a page -/

/-- The classes of a page in the order of its sections. -/
def declarations (page : Page) : List Declaration :=
  page.enums ++ page.types ++ page.models

theorem stacks_renderSection (options : Options) (declarations : List Declaration) :
    Stacks (declarations.map fun declaration => linesOf (declaration.render options))
      (linesOf (renderSection options declarations)) := by
  rw [renderSection, linesOf_intercalate_gap, List.map_map]
  exact stacks_stacked _

/-- The classes of a page stand one below the other in its text. -/
theorem stacks_render (options : Options) (page : Page) :
    Stacks (page.declarations.map fun declaration => linesOf (declaration.render options))
      (linesOf (page.render options)) := by
  have henums := (stacks_renderSection options page.enums).prepend
    (linesOf banner ++ [[]] ++ linesOf page.imports.render ++ [[], "# Enums".toList, []])
  have htypes := (stacks_renderSection options page.types).prepend [[], "# Types".toList, []]
  have hmodels := (stacks_renderSection options page.models).prepend [[], "# Models".toList, []]
  have hsections := ((henums.append htypes).append hmodels).extend [[]]
  rw [declarations, List.map_append, List.map_append, linesOf_render_eq]
  simpa only [List.append_assoc] using hsections

end DatamodelTypes.Page
