/-
DatamodelTypes.Proofs.Page.Imports — what collecting imports comes to.

`Imports.ofRequests` works through its requests one at a time and changes
one line, or adds one, at each of them. `importLines` says in one go what
the lines are in the end: a line for each module that is asked for, where
it is asked for first, and in it the symbols in the order in which they
are first asked for. `List.eraseDups` is that order.
-/
import DatamodelTypes.Page.Imports
import Mathlib.Data.List.Induction
import Mathlib.Data.List.Nodup

namespace DatamodelTypes.Page

/-! ## 1. Distinct items -/

/-- One more item counts only if it is new, as `addSymbol` has it. -/
theorem eraseDups_concat (symbols : List String) (symbol : String) :
    (symbols ++ [symbol]).eraseDups = Imports.addSymbol symbol symbols.eraseDups := by
  rw [List.eraseDups_append]
  by_cases h : symbol ∈ symbols
  · simp [Imports.addSymbol, List.removeAll, h]
  · simp [Imports.addSymbol, List.removeAll, List.eraseDups_cons, h]

theorem nodup_eraseDups (symbols : List String) : symbols.eraseDups.Nodup := by
  induction symbols using List.reverseRecOn with
  | nil => exact List.nodup_nil
  | append_singleton symbols symbol ih =>
    rw [eraseDups_concat, Imports.addSymbol]
    split
    · exact ih
    · rename_i h
      exact List.nodup_append.2 ⟨ih, List.nodup_singleton _, by
        rintro x hx y hy rfl
        exact h (List.mem_singleton.1 hy ▸ hx)⟩

/-! ## 2. Import lines -/

/-- The symbols that a module is asked for, each where it is first. -/
def symbolsOf (source : String) (requests : List Request) : List String :=
  ((requests.filter (·.source = source)).map (·.symbol)).eraseDups

/-- A line for each module, where it is first asked for. -/
def importLines (requests : List Request) : List ImportLine :=
  (requests.map (·.source)).eraseDups.map fun source => ⟨source, symbolsOf source requests⟩

theorem symbolsOf_concat (source : String) (requests : List Request) (request : Request) :
    symbolsOf source (requests ++ [request]) =
      if request.source = source then Imports.addSymbol request.symbol (symbolsOf source requests)
      else symbolsOf source requests := by
  unfold symbolsOf
  split
  · rename_i h
    simp [h, eraseDups_concat]
  · rename_i h
    simp [h]

/-- A request for a module that has no line yet adds one at the end. -/
theorem addToLines_of_not_mem {request : Request} {sources : List String}
    {symbols : String → List String} (h : request.source ∉ sources) :
    Imports.addToLines request (sources.map fun source => ⟨source, symbols source⟩) =
      (sources.map fun source => ⟨source, symbols source⟩) ++
        [⟨request.source, [request.symbol]⟩] := by
  induction sources with
  | nil => rfl
  | cons source sources ih =>
    obtain ⟨hne, hrest⟩ := not_or.1 (mt List.mem_cons.2 h)
    simp only [List.map_cons, Imports.addToLines, if_neg (Ne.symm hne), ih hrest, List.cons_append]

/-- A request for a module that has a line changes that line only. -/
theorem addToLines_of_mem {request : Request} {sources : List String}
    {symbols : String → List String} (hnodup : sources.Nodup) (h : request.source ∈ sources) :
    Imports.addToLines request (sources.map fun source => ⟨source, symbols source⟩) =
      sources.map fun source => ⟨source, if request.source = source then
        Imports.addSymbol request.symbol (symbols source) else symbols source⟩ := by
  induction sources with
  | nil => cases h
  | cons source sources ih =>
    obtain ⟨hsource, hnodup⟩ := List.nodup_cons.1 hnodup
    by_cases heq : source = request.source
    · have hrest : ∀ other ∈ sources, ¬ request.source = other := by
        rintro other hother rfl
        exact hsource (heq ▸ hother)
      simp only [List.map_cons, Imports.addToLines, heq, if_true, List.cons.injEq, true_and]
      refine List.map_congr_left fun other hother => ?_
      rw [if_neg (hrest other hother)]
    · have hmem : request.source ∈ sources := by
        rcases List.mem_cons.1 h with h | h
        · exact absurd h.symm heq
        · exact h
      simp only [List.map_cons, Imports.addToLines, if_neg heq, if_neg (Ne.symm heq),
        ih hnodup hmem]

/-- A module that was not asked for has no symbols. -/
theorem symbolsOf_of_not_mem {source : String} {requests : List Request}
    (h : source ∉ requests.map (·.source)) : symbolsOf source requests = [] := by
  have hfilter : requests.filter (·.source = source) = [] := by
    rw [List.filter_eq_nil_iff]
    intro request hrequest
    simpa using fun heq => h (List.mem_map.2 ⟨request, hrequest, heq⟩)
  rw [symbolsOf, hfilter]
  rfl

/-- One more request changes the lines as the collector changes them. -/
theorem addToLines_importLines (requests : List Request) (request : Request) :
    Imports.addToLines request (importLines requests) = importLines (requests ++ [request]) := by
  have hmap : (requests ++ [request]).map (·.source) =
      requests.map (·.source) ++ [request.source] := by simp
  by_cases h : request.source ∈ (requests.map (·.source)).eraseDups
  · rw [importLines, addToLines_of_mem (nodup_eraseDups _) h, importLines, hmap, eraseDups_concat,
      Imports.addSymbol, if_pos h]
    simp only [symbolsOf_concat]
  · have hnew : symbolsOf request.source requests = [] :=
      symbolsOf_of_not_mem (mt List.mem_eraseDups.2 h)
    rw [importLines, addToLines_of_not_mem h, importLines, hmap, eraseDups_concat,
      Imports.addSymbol, if_neg h, List.map_append, List.map_singleton]
    congr 1
    · refine List.map_congr_left fun source hsource => ?_
      have hne : request.source ≠ source := by
        rintro rfl
        exact h hsource
      rw [symbolsOf_concat, if_neg hne]
    · rw [symbolsOf_concat, if_pos rfl, hnew]
      rfl

/-- The collector ends with the lines that the requests ask for. -/
theorem lines_ofRequests (requests : List Request) :
    (Imports.ofRequests requests).lines = importLines requests := by
  induction requests using List.reverseRecOn with
  | nil => rfl
  | append_singleton requests request ih =>
    rw [Imports.ofRequests_append, Imports.add, ih, addToLines_importLines]

/-! ## 3. What is imported -/

/-- Exactly what is asked for stands on some line. -/
theorem exists_importLine {requests : List Request} (request : Request) :
    (∃ line ∈ importLines requests, line.source = request.source ∧ request.symbol ∈ line.symbols) ↔
      request ∈ requests := by
  obtain ⟨source, symbol⟩ := request
  constructor
  · rintro ⟨line, hline, rfl, hsymbol⟩
    obtain ⟨source, -, rfl⟩ := List.mem_map.1 hline
    simp only [symbolsOf, List.mem_eraseDups, List.mem_map, List.mem_filter,
      decide_eq_true_eq] at hsymbol
    obtain ⟨⟨_, _⟩, ⟨hrequest, rfl⟩, rfl⟩ := hsymbol
    exact hrequest
  · intro h
    refine ⟨⟨source, symbolsOf source requests⟩, ?_, rfl, ?_⟩
    · exact List.mem_map.2 ⟨source, List.mem_eraseDups.2 (List.mem_map.2 ⟨_, h, rfl⟩), rfl⟩
    · simp only [symbolsOf, List.mem_eraseDups, List.mem_map, List.mem_filter, decide_eq_true_eq]
      exact ⟨⟨source, symbol⟩, ⟨h, rfl⟩, rfl⟩

/-- Each symbol of a line was asked for. -/
theorem mem_of_mem_symbols {requests : List Request} {line : ImportLine} {symbol : String}
    (hline : line ∈ importLines requests) (hsymbol : symbol ∈ line.symbols) :
    ⟨line.source, symbol⟩ ∈ requests :=
  (exists_importLine ⟨line.source, symbol⟩).1 ⟨line, hline, rfl, hsymbol⟩

/-! ## 4. Import lines as text -/

/-- A character of joined texts is one of the texts or of the separator. -/
theorem mem_intercalate {c : Char} {separator : List Char} {texts : List (List Char)}
    (h : c ∈ separator.intercalate texts) : c ∈ separator ∨ ∃ text ∈ texts, c ∈ text := by
  induction texts with
  | nil => cases h
  | cons text texts ih =>
    by_cases hnil : texts = []
    · subst hnil
      rw [List.intercalate_singleton] at h
      exact .inr ⟨text, by simp, h⟩
    · rw [List.intercalate_cons_of_ne_nil hnil, List.mem_append, List.mem_append] at h
      obtain (h | h) | h := h
      · exact .inr ⟨text, by simp, h⟩
      · exact .inl h
      · exact (ih h).imp_right fun ⟨other, hother, h⟩ => ⟨other, List.mem_cons_of_mem _ hother, h⟩

/-- An import line is a line if no name in it goes over two. -/
theorem newline_not_mem_importLine {requests : List Request}
    (h : ∀ request ∈ requests, '\n' ∉ request.source.toList ∧ '\n' ∉ request.symbol.toList) :
    ∀ line ∈ importLines requests, '\n' ∉ (Imports.renderLine line).toList := by
  intro line hline
  obtain ⟨source, hsource, rfl⟩ := List.mem_map.1 hline
  obtain ⟨request, hrequest, rfl⟩ := List.mem_map.1 (List.mem_eraseDups.1 hsource)
  simp only [Imports.renderLine, String.toList_append, String.toList_intercalate, List.mem_append]
  rintro (((hc | hc) | hc) | hc)
  · exact absurd hc (by decide)
  · exact (h request hrequest).1 hc
  · exact absurd hc (by decide)
  · obtain hc | ⟨text, htext, hc⟩ := mem_intercalate hc
    · exact absurd hc (by decide)
    · obtain ⟨symbol, hsymbol, rfl⟩ := List.mem_map.1 htext
      exact (h _ (mem_of_mem_symbols hline hsymbol)).2 hc

end DatamodelTypes.Page
