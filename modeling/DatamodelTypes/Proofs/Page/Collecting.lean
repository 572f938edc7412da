/-
DatamodelTypes.Proofs.Page.Collecting — what a collection of imports says
about the requests that led to it.

`Proofs.Page.Imports` computes the lines of a collection. Here they are
described without computing: `FirstOccurrences` says that a list names the
items of another, each of them once and in the order in which they come
first, and the modules of a collection and the symbols of each module are
such lists (`ofRequests_represents`).

Each property is one of a single request, carried along the requests. Two
of them compare collections: `SameImports`, which holds of the collections
of the same requests in another order, and `Extends`, which holds of a
collection and any later state of it.
-/
import DatamodelTypes.Proofs.Page.Imports
import Mathlib.Data.Finset.Card

namespace DatamodelTypes.Page

/-! ## 1. First occurrences -/

/-- The items of a list, each of them once, in the order in which they come
first: no item stands at or behind the place of a later one. -/
structure FirstOccurrences (items listed : List String) : Prop where
  mem_iff : ∀ item, item ∈ listed ↔ item ∈ items
  inOrder : listed.Pairwise fun item later => items.idxOf item < items.idxOf later

namespace FirstOccurrences

/-- One more item is listed at the end, unless it is known. -/
theorem concat {items listed : List String} (h : FirstOccurrences items listed) (item : String) :
    FirstOccurrences (items ++ [item]) (Imports.addSymbol item listed) := by
  have hbefore : ∀ known ∈ listed, (items ++ [item]).idxOf known = items.idxOf known :=
    fun known hknown => List.idxOf_append_of_mem ((h.mem_iff known).1 hknown)
  have horder : listed.Pairwise fun known later =>
      (items ++ [item]).idxOf known < (items ++ [item]).idxOf later :=
    h.inOrder.imp_of_mem fun hknown hlater hlt => by
      rwa [hbefore _ hknown, hbefore _ hlater]
  refine ⟨fun wanted => ?_, ?_⟩
  · rw [Imports.mem_addSymbol, h.mem_iff, List.mem_append, List.mem_singleton]
  · unfold Imports.addSymbol
    split
    · exact horder
    · rename_i hnew
      refine List.pairwise_append.2 ⟨horder, List.pairwise_singleton _ _, ?_⟩
      intro known hknown last hlast
      obtain rfl := List.mem_singleton.1 hlast
      have hnone : last ∉ items := mt (h.mem_iff last).2 hnew
      rw [hbefore known hknown, List.idxOf_append_of_notMem hnone]
      exact Nat.lt_add_right _ (List.idxOf_lt_length_of_mem ((h.mem_iff known).1 hknown))

end FirstOccurrences

theorem firstOccurrences_eraseDups (items : List String) :
    FirstOccurrences items items.eraseDups := by
  induction items using List.reverseRecOn with
  | nil => exact ⟨by simp, List.Pairwise.nil⟩
  | append_singleton items item ih =>
    rw [eraseDups_concat]
    exact ih.concat item

/-! ## 2. Lines -/

theorem map_source_importLines (requests : List Request) :
    (importLines requests).map (·.source) = (requests.map (·.source)).eraseDups := by
  rw [importLines, List.map_map]
  exact List.map_id _

/-- The line of a module lists its symbols. -/
theorem symbols_of_mem_importLines {requests : List Request} {line : ImportLine}
    (h : line ∈ importLines requests) : line.symbols = symbolsOf line.source requests := by
  obtain ⟨source, -, rfl⟩ := List.mem_map.1 h
  rfl

/-- There is no line without a symbol: a module stands where it is asked for
one. -/
theorem symbols_ne_nil_of_mem_importLines {requests : List Request} {line : ImportLine}
    (h : line ∈ importLines requests) : line.symbols ≠ [] := by
  have hsource : line.source ∈ requests.map (·.source) := by
    rw [← List.mem_eraseDups, ← map_source_importLines]
    exact List.mem_map.2 ⟨line, h, rfl⟩
  obtain ⟨request, hrequest, heq⟩ := List.mem_map.1 hsource
  obtain ⟨other, hother, hsame, hsymbol⟩ := (exists_importLine request).2 hrequest
  rw [symbols_of_mem_importLines hother, hsame, heq, ← symbols_of_mem_importLines h] at hsymbol
  exact List.ne_nil_of_mem hsymbol

/-- A request that was made before changes no line. -/
theorem importLines_concat_of_mem {requests : List Request} {request : Request}
    (h : request ∈ requests) : importLines (requests ++ [request]) = importLines requests := by
  have hsource : request.source ∈ (requests.map (·.source)).eraseDups :=
    List.mem_eraseDups.2 (List.mem_map.2 ⟨request, h, rfl⟩)
  have hsymbol : request.symbol ∈ symbolsOf request.source requests := by
    simp only [symbolsOf, List.mem_eraseDups, List.mem_map, List.mem_filter, decide_eq_true_eq]
    exact ⟨request, ⟨h, rfl⟩, rfl⟩
  rw [importLines, List.map_append, List.map_singleton, eraseDups_concat, Imports.addSymbol,
    if_pos hsource, importLines]
  refine List.map_congr_left fun source _ => ?_
  rw [symbolsOf_concat]
  split
  · rename_i heq
    subst heq
    rw [Imports.addSymbol, if_pos hsymbol]
  · rfl

/-- Only an empty collection has an empty text. -/
theorem render_eq_empty_iff (imports : Imports) : imports.render = "" ↔ imports.lines = [] := by
  constructor
  · intro h
    cases hlines : imports.lines with
    | nil => rfl
    | cons line lines =>
      rw [Imports.render, hlines, List.map_cons, Imports.renderLine, String.append_assoc,
        String.append_assoc, String.intercalate_cons_append] at h
      simp at h
  · intro h
    rw [Imports.render, h]
    rfl

/-! ## 3. The order of the requests -/

/-- Import lines that come to the same: the same modules, each of them with
the same symbols, in whatever order. -/
structure SameImports (lines lines' : List ImportLine) : Prop where
  sources : (lines.map (·.source)).Perm (lines'.map (·.source))
  symbols : ∀ line ∈ lines, ∀ line' ∈ lines', line.source = line'.source →
    line.symbols.Perm line'.symbols

theorem eraseDups_perm {items items' : List String} (h : items.Perm items') :
    items.eraseDups.Perm items'.eraseDups := by
  rw [List.perm_ext_iff_of_nodup (nodup_eraseDups _) (nodup_eraseDups _)]
  intro item
  rw [List.mem_eraseDups, List.mem_eraseDups, h.mem_iff]

/-- What is imported does not depend on the order in which it is asked for. -/
theorem sameImports_of_perm {requests requests' : List Request} (h : requests.Perm requests') :
    SameImports (importLines requests) (importLines requests') := by
  constructor
  case sources =>
    rw [map_source_importLines, map_source_importLines]
    exact eraseDups_perm (h.map _)
  case symbols =>
    intro line hline line' hline' hsource
    rw [symbols_of_mem_importLines hline, symbols_of_mem_importLines hline', hsource]
    exact eraseDups_perm ((h.filter _).map _)

/-! ## 4. Collections -/

/-- A symbol is imported if and only if it was asked for: by `has_add`, one
request after the other. -/
theorem has_ofRequests (requests : List Request) (request : Request) :
    (Imports.ofRequests requests).has request = true ↔ request ∈ requests := by
  induction requests using List.reverseRecOn with
  | nil => simp [Imports.ofRequests, Imports.has]
  | append_singleton requests last ih =>
    rw [Imports.ofRequests_append, Imports.has_add, Bool.or_eq_true, ih, beq_iff_eq,
      List.mem_append, List.mem_singleton, eq_comm (a := last)]

theorem size_ofRequests (requests : List Request) :
    (Imports.ofRequests requests).size = (requests.map (·.source)).toFinset.card := by
  have hlength : (Imports.ofRequests requests).size =
      (requests.map (·.source)).eraseDups.length := by
    rw [Imports.size, lines_ofRequests, importLines, List.length_map]
  rw [hlength, ← List.toFinset_card_of_nodup (nodup_eraseDups _)]
  congr 1
  ext source
  simp

theorem lines_ofRequests_eq_nil_iff (requests : List Request) :
    (Imports.ofRequests requests).lines = [] ↔ requests = [] := by
  constructor
  · intro h
    cases requests with
    | nil => rfl
    | cons request requests =>
      obtain ⟨line, hline, -⟩ := (exists_importLine request).2 (List.mem_cons_self (l := requests))
      rw [← lines_ofRequests, h] at hline
      cases hline
  · rintro rfl
    rfl

/-- A collection represents the requests that led to it, whatever they are:
the modules are listed in the order in which they come first, and so are
the symbols of each, of which there is at least one; a symbol is there if
and only if it was asked for; the size counts the modules, and only without
requests there is nothing to import and no text. A request that was made
before changes nothing, and the order of the requests changes nothing but
the order of the lists. -/
theorem ofRequests_represents (requests : List Request) :
    FirstOccurrences (requests.map (·.source))
      ((Imports.ofRequests requests).lines.map (·.source)) ∧
    (∀ line ∈ (Imports.ofRequests requests).lines, line.symbols ≠ [] ∧
      FirstOccurrences ((requests.filter (·.source = line.source)).map (·.symbol))
        line.symbols) ∧
    (∀ request, (Imports.ofRequests requests).has request = true ↔ request ∈ requests) ∧
    (Imports.ofRequests requests).size = (requests.map (·.source)).toFinset.card ∧
    ((Imports.ofRequests requests).isEmpty = true ↔ requests = []) ∧
    ((Imports.ofRequests requests).render = "" ↔ requests = []) ∧
    (∀ request ∈ requests,
      (Imports.ofRequests requests).add request = Imports.ofRequests requests) ∧
    ∀ other, requests.Perm other →
      (∀ request, (Imports.ofRequests other).has request =
        (Imports.ofRequests requests).has request) ∧
      (Imports.ofRequests other).size = (Imports.ofRequests requests).size ∧
      SameImports (Imports.ofRequests requests).lines (Imports.ofRequests other).lines := by
  have hlines := lines_ofRequests requests
  refine ⟨?_, ?_, has_ofRequests requests, size_ofRequests requests, ?_, ?_, ?_, ?_⟩
  · rw [hlines, map_source_importLines]
    exact firstOccurrences_eraseDups _
  · intro line hline
    rw [hlines] at hline
    refine ⟨symbols_ne_nil_of_mem_importLines hline, ?_⟩
    rw [symbols_of_mem_importLines hline]
    exact firstOccurrences_eraseDups _
  · rw [Imports.isEmpty, List.isEmpty_iff, lines_ofRequests_eq_nil_iff]
  · rw [render_eq_empty_iff, lines_ofRequests_eq_nil_iff]
  · intro request hrequest
    rw [Imports.add, hlines, addToLines_importLines, importLines_concat_of_mem hrequest, ← hlines]
  · intro other hperm
    refine ⟨fun request => ?_, ?_, ?_⟩
    · rw [Bool.eq_iff_iff, has_ofRequests, has_ofRequests, hperm.mem_iff]
    · rw [size_ofRequests, size_ofRequests,
        List.toFinset_eq_of_perm _ _ (hperm.map (·.source))]
    · rw [hlines, lines_ofRequests]
      exact sameImports_of_perm hperm

/-- Requests for two modules in turns, one of them made twice. -/
def turns : List Request :=
  [⟨"typing", "Optional"⟩, ⟨"datetime", "datetime"⟩, ⟨"typing", "Any"⟩, ⟨"typing", "Optional"⟩]

/-- Asking once more changes nothing, and asking from behind nothing but the
order. -/
theorem ofRequests_represents_turns :
    (Imports.ofRequests turns).lines =
        [⟨"typing", ["Optional", "Any"]⟩, ⟨"datetime", ["datetime"]⟩] ∧
      (Imports.ofRequests turns).add ⟨"typing", "Any"⟩ = Imports.ofRequests turns ∧
      (Imports.ofRequests turns.reverse).size = 2 ∧
      SameImports (Imports.ofRequests turns).lines (Imports.ofRequests turns.reverse).lines := by
  obtain ⟨-, -, -, -, -, -, hagain, horder⟩ := ofRequests_represents turns
  obtain ⟨-, hsize, hsame⟩ := horder turns.reverse (List.reverse_perm turns).symm
  exact ⟨by decide, hagain _ (by decide), hsize.trans (by decide), hsame⟩

/-! ## 5. More requests -/

/-- Import lines that go on from others: in front the same modules, and in
front of the symbols of each of them the same symbols. -/
inductive Extends : List ImportLine → List ImportLine → Prop
  | more (lines : List ImportLine) : Extends [] lines
  | line {line longer : ImportLine} {rest rest' : List ImportLine}
      (hsource : line.source = longer.source) (hsymbols : line.symbols <+: longer.symbols)
      (h : Extends rest rest') : Extends (line :: rest) (longer :: rest')

namespace Extends

theorem refl (lines : List ImportLine) : Extends lines lines := by
  induction lines with
  | nil => exact .more []
  | cons line lines ih => exact .line rfl (List.prefix_refl _) ih

theorem trans {lines lines' lines'' : List ImportLine} (h : Extends lines lines')
    (h' : Extends lines' lines'') : Extends lines lines'' := by
  induction h generalizing lines'' with
  | more => exact .more _
  | line hsource hsymbols _ ih =>
    cases h' with
    | line hsource' hsymbols' hrest =>
      exact .line (hsource.trans hsource') (hsymbols.trans hsymbols') (ih hrest)

end Extends

theorem prefix_addSymbol (symbol : String) (symbols : List String) :
    symbols <+: Imports.addSymbol symbol symbols := by
  unfold Imports.addSymbol
  split
  · exact List.prefix_refl _
  · exact List.prefix_append _ _

/-- One request only adds: a symbol to one line, or a line behind all. -/
theorem extends_addToLines (request : Request) (lines : List ImportLine) :
    Extends lines (Imports.addToLines request lines) := by
  induction lines with
  | nil => exact .more _
  | cons line lines ih =>
    unfold Imports.addToLines
    split
    · exact .line rfl (prefix_addSymbol _ _) (.refl lines)
    · exact .line rfl (List.prefix_refl _) ih

/-- More requests only add, by induction from the last one. -/
theorem extends_importLines (requests more : List Request) :
    Extends (importLines requests) (importLines (requests ++ more)) := by
  induction more using List.reverseRecOn with
  | nil =>
    rw [List.append_nil]
    exact .refl _
  | append_singleton more last ih =>
    rw [← List.append_assoc, ← addToLines_importLines]
    exact ih.trans (extends_addToLines last _)

end DatamodelTypes.Page
