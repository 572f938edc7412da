/-
DatamodelTypes.Proofs.Cli.Setting — the filter that a setting of the log
puts in force.

A setting that writes a filter puts that one in force, and a malformed one
leaves the log as it is without a setting (`InForce`). There are settings
that do neither. The ends of the parts of a directive are found without the
blanks around it, but the parts are cut out of the text as it stands, and so
a cut can fall inside a blank of several bytes (`SplitsCharacter`).

That takes a directive with a blank in front. Without one, what is cut out
is what was found: `Piece.Reads` says of an offset and the text that is read
there that they belong together, and each step of reading a directive keeps
it so.
-/
import DatamodelTypes.Cli.Filter
import DatamodelTypes.Proofs.Cutting
import DatamodelTypes.Proofs.Except

namespace DatamodelTypes

/-! ## 1. Cuts between characters -/

namespace Text

theorem byteCount_append (xs ys : List Char) :
    byteCount (xs ++ ys) = byteCount xs + byteCount ys := by
  induction xs with
  | nil => simp [byteCount]
  | cons x xs ih =>
    rw [List.cons_append, byteCount, byteCount, ih]
    omega

theorem cut_append (before after : List Char) :
    cut (byteCount before) (before ++ after) = .ok (before, after) := by
  induction before with
  | nil => cases after <;> simp [byteCount, cut]
  | cons c cs ih =>
    have hc := c.utf8Size_pos
    simp only [byteCount, List.cons_append, cut]
    rw [if_neg (by omega), if_neg (by omega), Nat.add_sub_cancel_left, ih]
    rfl

/-- A part that lies between two others is what is cut out between them. -/
theorem slice_append (before part after : List Char) :
    slice (byteCount before) (byteCount before + byteCount part) (before ++ (part ++ after)) =
      .ok part := by
  simp only [slice, cut_append, Nat.add_sub_cancel_left]

/-- Trimming a text that starts without a blank takes away blanks at its end
only. -/
theorem exists_eq_trim_append {cs : List Char} (h : trimStart cs = cs) :
    ∃ blanks, cs = trim cs ++ blanks := by
  have hcut : cs.reverse = cs.reverse.takeWhile isBlank ++ trimStart cs.reverse :=
    List.takeWhile_append_dropWhile.symm
  refine ⟨(cs.reverse.takeWhile isBlank).reverse, ?_⟩
  rw [trim, h, ← List.reverse_append, ← hcut, List.reverse_reverse]

end Text

namespace Cli

open Text (byteCount)

/-! ## 2. Kinds of settings -/

/-- The filter that is in force with a setting of the log, and with verbose
logging or without: that of the setting, if it writes one; otherwise all
events are shown up to debugging, or up to warnings. -/
inductive InForce : Option String → Bool → Filter → Prop
  | unset {verbose : Bool} : InForce none verbose (.everywhere (if verbose then .debug else .warn))
  | valid {setting : String} {verbose : Bool} {filter : Filter}
      (written : Filter.ofText setting = .ok filter) : InForce (some setting) verbose filter
  | malformed {setting : String} {verbose : Bool}
      (invalid : Filter.ofText setting = .error .malformed) :
      InForce (some setting) verbose (.everywhere (if verbose then .debug else .warn))

/-- A setting of the log that a part would have to be cut out of in the
middle of a character. -/
def SplitsCharacter (logSetting : Option String) : Prop :=
  ∃ text fault, logSetting = some text ∧ Filter.ofText text = .error (.splitCharacter fault)

theorem not_splitsCharacter_none : ¬SplitsCharacter none := by
  rintro ⟨text, fault, hnone, -⟩
  cases hnone

/-- Every other setting has a filter, whether logging is verbose or not. -/
theorem exists_inForce {logSetting : Option String} (hlog : ¬SplitsCharacter logSetting)
    (verbose : Bool) :
    ∃ filter, Filter.inForce logSetting verbose = .ok filter ∧
      InForce logSetting verbose filter := by
  cases logSetting with
  | none => exact ⟨_, rfl, .unset⟩
  | some setting =>
    unfold Filter.inForce
    rw [Option.map_some]
    cases hsetting : Filter.ofText setting with
    | ok filter => exact ⟨_, rfl, .valid hsetting⟩
    | error fault =>
      cases fault with
      | malformed => exact ⟨_, rfl, .malformed hsetting⟩
      | splitCharacter fault => exact absurd ⟨setting, fault, rfl, hsetting⟩ hlog

/-- Where the log cannot be set up, a part of its setting is to blame. -/
theorem splitsCharacter_of_inForce {logSetting : Option String} {verbose : Bool}
    {fault : Text.SliceFault} (h : Filter.inForce logSetting verbose = .error fault) :
    SplitsCharacter logSetting := by
  by_contra hlog
  obtain ⟨filter, hfilter, -⟩ := exists_inForce hlog verbose
  rw [hfilter] at h
  cases h

/-! ## 3. Reading without a split -/

/-- A reading that does not fail for a split character. -/
def Unsplit {α : Type} (x : Except FilterFault α) : Prop :=
  ∀ fault, x ≠ .error (.splitCharacter fault)

section Unsplit

variable {α β : Type}

theorem unsplit_ok (a : α) : Unsplit (.ok a) := by
  rintro fault ⟨⟩

theorem unsplit_malformed : Unsplit (.error .malformed : Except FilterFault α) := by
  rintro fault ⟨⟩

theorem Unsplit.bind {x : Except FilterFault α} {f : α → Except FilterFault β} (hx : Unsplit x)
    (hf : ∀ a, x = .ok a → Unsplit (f a)) : Unsplit (x >>= f) := by
  cases x with
  | ok a => exact hf a rfl
  | error fault =>
    rintro split hsplit
    exact hx split (by cases hsplit; rfl)

theorem Unsplit.mapM {f : α → Except FilterFault β} {xs : List α}
    (h : ∀ x ∈ xs, Unsplit (f x)) : Unsplit (xs.mapM f) := by
  induction xs with
  | nil => exact unsplit_ok []
  | cons x xs ih =>
    obtain ⟨hx, hxs⟩ := List.forall_mem_cons.1 h
    rw [List.mapM_cons]
    exact hx.bind fun y _ => (ih hxs).bind fun ys _ => unsplit_ok _

end Unsplit

/-! ## 4. Directives without a blank in front -/

namespace Piece

/-- What is read of a piece at a byte offset: all that follows, but for
something at the end that reading passes over. -/
inductive Reads (piece : Piece) : Nat → List Char → Prop
  | intro {before rest : List Char} (passed : List Char)
      (cut : piece = before ++ (rest ++ passed)) :
      Reads piece (byteCount before) rest

variable {piece : Piece} {offset : Nat} {rest : List Char}

theorem Reads.behind_append (xs : List Char) {ys : List Char}
    (h : Reads piece offset (xs ++ ys)) : Reads piece (offset + byteCount xs) ys := by
  obtain ⟨passed, hcut⟩ := h
  rw [← Text.byteCount_append]
  refine .intro passed ?_
  rw [hcut]
  simp only [List.append_assoc]

theorem Reads.part_append {xs ys : List Char} (h : Reads piece offset (xs ++ ys)) :
    piece.part offset (offset + byteCount xs) = .ok xs := by
  obtain ⟨passed, rfl⟩ := h
  rw [part, List.append_assoc, Text.slice_append]
  rfl

/-- A part that goes on as long as its characters have a property. -/
theorem Reads.takeWhile (h : Reads piece offset rest) (p : Char → Bool) :
    piece.part offset (offset + byteCount (rest.takeWhile p)) = .ok (rest.takeWhile p) ∧
      Reads piece (offset + byteCount (rest.takeWhile p)) (rest.dropWhile p) := by
  rw [← List.takeWhile_append_dropWhile (p := p) (l := rest)] at h
  exact ⟨h.part_append, h.behind_append _⟩

theorem Reads.behind (h : Reads piece offset rest) : ∃ text, piece.behind offset = .ok text := by
  obtain ⟨passed, hcut⟩ := h
  rename_i before
  have hwhole : Reads piece (byteCount before) ((rest ++ passed) ++ []) :=
    .intro [] (by simp [hcut])
  refine ⟨rest ++ passed, ?_⟩
  rw [Piece.behind, ← hwhole.part_append, hcut, Text.byteCount_append]

/-- A level is cut out up to the end, whatever is behind it. -/
theorem unsplit_threshold (h : Reads piece offset rest) :
    Unsplit (piece.threshold offset rest) := by
  unfold threshold
  split
  · exact unsplit_ok _
  · rename_i more
    have hbehind : Reads piece (offset + 1) more := h.behind_append ['=']
    obtain ⟨text, htext⟩ := hbehind.behind
    rw [htext, ok_bind]
    split
    · exact unsplit_ok _
    · split
      · exact unsplit_ok _
      · exact unsplit_malformed
  · exact unsplit_malformed

/-- What is read behind a scope starts where the scope ends. -/
theorem scope_cases (h : Reads piece offset rest) :
    piece.scope offset rest = .error .malformed ∨
      ∃ found, piece.scope offset rest = .ok found ∧ Reads piece found.2.1 found.2.2 := by
  unfold scope
  dsimp only
  obtain ⟨hspan, hspanEnd⟩ := h.takeWhile fun c => !(decide (c = ']') || decide (c = '{'))
  split
  · exact .inl rfl
  · rename_i more hend
    rw [hend] at hspanEnd
    rw [hspan, ok_bind]
    -- a bracket takes one byte, so what follows it is read one offset further on
    exact .inr ⟨_, rfl, hspanEnd.behind_append [']']⟩
  · rename_i c more hbracket hend
    have hbrace : c = '{' := by
      simpa [show c ≠ ']' from hbracket] using eq_false_of_dropWhile_eq_cons hend
    subst hbrace
    rw [hend] at hspanEnd
    rw [hspan, ok_bind]
    generalize offset + byteCount (rest.takeWhile _) = spanEnd at hspanEnd ⊢
    have hopened : Reads piece (spanEnd + 1) more := hspanEnd.behind_append ['{']
    obtain ⟨hfield, hfieldEnd⟩ := hopened.takeWhile fun c => decide (c ≠ '}')
    split
    · exact .inl rfl
    · rename_i d rest' hclosing
      have hbrace : d = '}' := by simpa using eq_false_of_dropWhile_eq_cons hclosing
      subst hbrace
      rw [hclosing] at hfieldEnd
      rw [hfield, ok_bind]
      split
      · exact .inr ⟨_, rfl, hfieldEnd.behind_append ['}', ']']⟩
      · exact .inl rfl

/-- Reading a directive that starts without a blank splits no character. -/
theorem unsplit_directive? (h : Text.trimStart piece = piece) : Unsplit piece.directive? := by
  obtain ⟨blanks, hblanks⟩ := Text.exists_eq_trim_append h
  have hstart : Reads piece 0 (Text.trim piece) := @Reads.intro _ [] _ blanks hblanks
  unfold directive?
  dsimp only
  obtain ⟨hhead, hheadEnd⟩ := hstart.takeWhile fun c => !(decide (c = '=') || decide (c = '['))
  rw [Nat.zero_add] at hhead hheadEnd
  split
  · exact unsplit_malformed
  · split
    · split
      · exact unsplit_ok _
      · exact unsplit_ok _
    · rename_i rest hend
      rw [hend] at hheadEnd
      have hopened : Reads piece (byteCount _ + 1) rest := hheadEnd.behind_append ['[']
      rw [hhead, ok_bind]
      obtain hscope | ⟨⟨scope, offset, behind⟩, hscope, hreads⟩ := scope_cases hopened
      · rw [hscope, error_bind]
        exact unsplit_malformed
      · rw [hscope, ok_bind]
        refine (unsplit_threshold hreads).bind fun threshold _ => ?_
        split
        · exact unsplit_ok _
        · exact unsplit_ok _
    · rename_i rest _ _ hend
      rw [hhead, ok_bind]
      refine (unsplit_threshold hheadEnd).bind fun threshold _ => unsplit_ok _

end Piece

/-- A setting whose directives start without blanks splits no character. -/
theorem not_splitsCharacter {text : String}
    (h : ∀ piece ∈ Text.splitAt ',' text.toList, Text.trimStart piece = piece) :
    ¬SplitsCharacter (some text) := by
  rintro ⟨_, fault, hsome, hfault⟩
  cases hsome
  unfold Filter.ofText at hfault
  split at hfault
  · cases hfault
  · have hpieces : Unsplit (((Text.splitAt ',' text.toList).filter (· ≠ [])).mapM
        Piece.directive?) := by
      refine Unsplit.mapM fun piece hpiece => Piece.unsplit_directive? (h piece ?_)
      exact (List.mem_filter.1 hpiece).1
    exact (hpieces.bind fun directives _ => unsplit_ok _) fault hfault

-- with a blank of two bytes in front, the end of the target lies inside it
example : Filter.inForce (some "\u00a0a=") false = .error ⟨false, 1, '\u00a0', 1⟩ := by
  decide +kernel

end Cli

end DatamodelTypes
