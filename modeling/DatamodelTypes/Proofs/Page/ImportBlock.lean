/-
DatamodelTypes.Proofs.Page.ImportBlock — reading an import block back.

`readImports` finds the import lines of a text. It undoes the rendering of
every collection of readable names (`readImports_render`), so two such
collections with one text are the same collection
(`lines_eq_of_render_eq`).

## How the proof goes

Rendering joins twice, symbols with commas and lines with newlines, and
reading splits twice, at the newlines first. A join can be undone if the
separator is in none of the pieces and if there is a piece at all: nothing
joined and one empty piece have the same text. For the symbols there is
always one, as no module stands on a line without having been asked for
something. For the lines there need not be, but no line is empty, so the
empty ones that splitting finds can be passed over.
-/
import DatamodelTypes.Proofs.Page.Collecting
import DatamodelTypes.Proofs.Page.Legibility

namespace DatamodelTypes.Page

/-! ## 1. Readable names -/

/-- A request whose names end on their import line where they should: that
of the module in front of the first blank, that of the symbol in front of a
comma, and both on the line itself. So it is with all names that have no
blank, comma or newline; they may also be empty, and a symbol may have
blanks. -/
structure Request.Readable (request : Request) : Prop where
  source : ' ' ∉ request.source.toList ∧ '\n' ∉ request.source.toList
  symbol : ',' ∉ request.symbol.toList ∧ '\n' ∉ request.symbol.toList

/-- Names are checked character by character. -/
instance (request : Request) : Decidable request.Readable :=
  decidable_of_iff ((' ' ∉ request.source.toList ∧ '\n' ∉ request.source.toList) ∧
    ',' ∉ request.symbol.toList ∧ '\n' ∉ request.symbol.toList)
    ⟨fun ⟨source, symbol⟩ => ⟨source, symbol⟩, fun h => ⟨h.source, h.symbol⟩⟩

/-- An import line that can be read. -/
structure ImportLine.Readable (line : ImportLine) : Prop where
  source : ' ' ∉ line.source.toList
  symbols : ∀ symbol ∈ line.symbols, ',' ∉ symbol.toList
  nonempty : line.symbols ≠ []
  oneLined : '\n' ∉ (Imports.renderLine line).toList

theorem readable_importLines {requests : List Request}
    (h : ∀ request ∈ requests, request.Readable) :
    ∀ line ∈ importLines requests, line.Readable := by
  intro line hline
  have hnonempty := symbols_ne_nil_of_mem_importLines hline
  have hnewline : ∀ request ∈ requests,
      '\n' ∉ request.source.toList ∧ '\n' ∉ request.symbol.toList :=
    fun request hrequest => ⟨(h request hrequest).source.2, (h request hrequest).symbol.2⟩
  constructor
  case source =>
    obtain ⟨symbol, hsymbol⟩ := List.exists_mem_of_ne_nil _ hnonempty
    exact (h _ (mem_of_mem_symbols hline hsymbol)).source.1
  case symbols =>
    intro symbol hsymbol
    exact (h _ (mem_of_mem_symbols hline hsymbol)).symbol.1
  case nonempty => exact hnonempty
  case oneLined => exact newline_not_mem_importLine hnewline line hline

/-! ## 2. Symbols -/

/-- The symbols of a text: they stand behind a blank each, with commas
between them. -/
def readSymbols (text : List Char) : List String :=
  (text.splitOn ',').map fun symbol => String.ofList (symbol.drop 1)

/-- Joining with a comma and a blank is joining with a comma, when there is
a blank in front of every symbol. -/
theorem cons_intercalate_comma {symbols : List String} (h : symbols ≠ []) :
    ' ' :: (", ".intercalate symbols).toList =
      [','].intercalate (symbols.map (' ' :: ·.toList)) := by
  induction symbols with
  | nil => exact absurd rfl h
  | cons symbol symbols ih =>
    cases symbols with
    | nil => simp
    | cons next symbols =>
      rw [List.map_cons, List.intercalate_cons_of_ne_nil (by simp), ← ih (by simp),
        String.intercalate_cons_cons]
      simp

theorem readSymbols_intercalate {symbols : List String} (hnonempty : symbols ≠ [])
    (h : ∀ symbol ∈ symbols, ',' ∉ symbol.toList) :
    readSymbols (' ' :: (", ".intercalate symbols).toList) = symbols := by
  have hcomma : ∀ piece ∈ symbols.map (' ' :: ·.toList), ',' ∉ piece := by
    simpa using h
  rw [readSymbols, cons_intercalate_comma hnonempty,
    List.splitOn_intercalate ',' hcomma (by simpa using hnonempty), List.map_map]
  simp [Function.comp_def]

/-! ## 3. Lines -/

/-- The import line that a line of text is. -/
def readLine (text : List Char) : ImportLine :=
  let names := text.drop "from ".toList.length
  ⟨String.ofList (names.takeWhile (· ≠ ' ')),
    readSymbols ((names.dropWhile (· ≠ ' ')).drop " import".toList.length)⟩

/-- A line that is written can be read: the name of its module is what stands
in front of the first blank. -/
theorem readLine_renderLine {line : ImportLine} (h : line.Readable) :
    readLine (Imports.renderLine line).toList = line := by
  have htext : (Imports.renderLine line).toList = "from ".toList ++ (line.source.toList ++
      (" import".toList ++ ' ' :: (", ".intercalate line.symbols).toList)) := by
    simp [Imports.renderLine]
  have hsource : ∀ c ∈ line.source.toList, decide (c ≠ ' ') = true := by
    intro c hc
    exact decide_eq_true fun heq => h.source (heq ▸ hc)
  have hblank : ∀ c ∈ (" import".toList ++ ' ' :: (", ".intercalate line.symbols).toList).head?,
      decide (c ≠ ' ') = false := by
    simp
  obtain ⟨htake, hrest⟩ := takeWhile_append_of_stop hsource hblank
  rw [readLine, htext, List.drop_left, htake, hrest, List.drop_left, String.ofList_toList,
    readSymbols_intercalate h.nonempty h.symbols]

/-! ## 4. Collections -/

/-- The import lines of a text. -/
def readImports (text : String) : Imports :=
  ⟨(inked (linesOf text)).map readLine⟩

/-- A collection that is written can be read. -/
theorem readImports_render {imports : Imports} (h : ∀ line ∈ imports.lines, line.Readable) :
    readImports imports.render = imports := by
  have hlines :=
    calc imports.lines.map (fun line => readLine (Imports.renderLine line).toList)
      _ = imports.lines.map id :=
        List.map_congr_left fun line hline => readLine_renderLine (h line hline)
      _ = imports.lines := List.map_id imports.lines
  rw [readImports, Imports.linesOf_render fun line hline => (h line hline).oneLined, inked_listed,
    inked_importLines, List.map_map]
  exact congrArg Imports.mk hlines

theorem readImports_render_ofRequests {requests : List Request}
    (h : ∀ request ∈ requests, request.Readable) :
    readImports (Imports.ofRequests requests).render = Imports.ofRequests requests := by
  refine readImports_render fun line hline => ?_
  rw [lines_ofRequests] at hline
  exact readable_importLines h line hline

/-- Nothing is lost in the text of a collection. If two of them, of readable
names, have one text, they list the same modules in the same order, and the
same symbols of each of them in the same order. So they have the same size
and the same answer to each request, and the same has been asked for. -/
theorem lines_eq_of_render_eq {requests requests' : List Request}
    (hreadable : ∀ request ∈ requests, request.Readable)
    (hreadable' : ∀ request ∈ requests', request.Readable)
    (h : (Imports.ofRequests requests).render = (Imports.ofRequests requests').render) :
    (Imports.ofRequests requests).lines = (Imports.ofRequests requests').lines ∧
      (Imports.ofRequests requests).size = (Imports.ofRequests requests').size ∧
      (∀ request, (Imports.ofRequests requests).has request =
        (Imports.ofRequests requests').has request) ∧
      ∀ request, request ∈ requests ↔ request ∈ requests' := by
  have hsame : Imports.ofRequests requests = Imports.ofRequests requests' := by
    rw [← readImports_render_ofRequests hreadable, h, readImports_render_ofRequests hreadable']
  refine ⟨congrArg Imports.lines hsame, congrArg Imports.size hsame, fun request => ?_,
    fun request => ?_⟩
  · rw [hsame]
  · rw [← has_ofRequests, hsame, has_ofRequests]

/-- What `turns` asks for, module by module and once each. -/
def inTurn : List Request :=
  [⟨"typing", "Optional"⟩, ⟨"typing", "Any"⟩, ⟨"datetime", "datetime"⟩]

/-- Requests in turns and module by module: one text and one collection. -/
theorem lines_eq_of_render_eq_turns :
    turns ≠ inTurn ∧
      (Imports.ofRequests turns).render =
        "from typing import Optional, Any\nfrom datetime import datetime" ∧
      (Imports.ofRequests inTurn).render =
        "from typing import Optional, Any\nfrom datetime import datetime" ∧
      (Imports.ofRequests turns).lines = (Imports.ofRequests inTurn).lines ∧
      (Imports.ofRequests turns).size = (Imports.ofRequests inTurn).size ∧
      (∀ request, (Imports.ofRequests turns).has request =
        (Imports.ofRequests inTurn).has request) ∧
      ∀ request, request ∈ turns ↔ request ∈ inTurn := by
  have hturns : (Imports.ofRequests turns).render =
      "from typing import Optional, Any\nfrom datetime import datetime" := by decide
  have hinTurn : (Imports.ofRequests inTurn).render =
      "from typing import Optional, Any\nfrom datetime import datetime" := by decide
  have hreadable : ∀ request ∈ turns, request.Readable := by decide
  have hreadable' : ∀ request ∈ inTurn, request.Readable := by decide
  exact ⟨by decide, hturns, hinTurn,
    lines_eq_of_render_eq hreadable hreadable' (hturns.trans hinTurn.symm)⟩

/-- The names have to be readable: a comma in a symbol looks like one between
two symbols. -/
example : (Imports.ofRequests [⟨"typing", "Any, Optional"⟩]).render =
    (Imports.ofRequests [⟨"typing", "Any"⟩, ⟨"typing", "Optional"⟩]).render := by
  decide

end DatamodelTypes.Page
