/-
DatamodelTypes.Proofs.Text.UpperCase — upper-casing is done once and for all.

What upper-casing produces has no upper-case form other than itself, so a
text in capitals stays as it is (`upper_upper`). And the only ASCII
characters that it produces from others are letters: underscores and
newlines are left alone, and none are added (`eq_of_mem_upperChar`).

## How the proof goes

Both are facts about the rows of the case table. A row has the characters
that it covers, its members, and those that it produces, its forms. No
form is a member of any row: with some 1,400 of each, they are not
compared one by one but as two sets of bits. The branch for ASCII agrees
with the table, so that the rest need not tell ASCII apart.
-/
import DatamodelTypes.Text.UpperCase
import Mathlib.Data.List.Basic
import Mathlib.Data.Nat.Bitwise

namespace DatamodelTypes.Text

/-! ## 1. ASCII characters -/

/-- A property of the ASCII characters is checked for each of them. -/
theorem ascii_induction {P : Char → Prop} (h : ∀ n < 0x80, P (Char.ofNat n)) {c : Char}
    (hc : c.toNat < 0x80) : P c := by
  have hP := h c.toNat hc
  rwa [Char.ofNat_toNat] at hP

/-! ## 2. Sets of numbers -/

/-- A set of numbers as one number, with the bits of its members set. -/
def bitSet (numbers : List Nat) : Nat :=
  numbers.foldr (fun n bits => 2 ^ n ||| bits) 0

theorem testBit_bitSet (numbers : List Nat) (n : Nat) :
    (bitSet numbers).testBit n = decide (n ∈ numbers) := by
  induction numbers with
  | nil => simp [bitSet]
  | cons m numbers ih =>
    have hbits : bitSet (m :: numbers) = 2 ^ m ||| bitSet numbers := rfl
    rw [hbits, Nat.testBit_or, ih, Nat.testBit_two_pow]
    simp [eq_comm]

/-- Sets without a common bit have no common member. -/
theorem not_mem_of_bitSet_and {xs ys : List Nat} (h : bitSet xs &&& bitSet ys = 0) {n : Nat}
    (hn : n ∈ xs) : n ∉ ys := by
  intro hys
  have hbit : (bitSet xs &&& bitSet ys).testBit n = true := by
    rw [Nat.testBit_and, testBit_bitSet, testBit_bitSet]
    simp [hn, hys]
  rw [h, Nat.zero_testBit] at hbit
  cases hbit

/-! ## 3. The case table -/

/-- The number of characters that a run covers. -/
def CaseRun.size (run : CaseRun) : Nat :=
  (run.last - run.first) / run.step + 1

/-- The code points that a run covers. -/
def CaseRun.members (run : CaseRun) : List Nat :=
  List.range' run.first run.size run.step

/-- The code points that a run produces. -/
def CaseRun.forms (run : CaseRun) : List Nat :=
  List.range' run.target run.size run.step ++ run.suffix

/-- A member is a number of steps from the first one. -/
theorem CaseRun.exists_steps {run : CaseRun} {n : Nat} (h : run.covers n = true) :
    ∃ i < run.size, n = run.first + run.step * i := by
  simp only [covers, Bool.and_eq_true, decide_eq_true_eq, beq_iff_eq] at h
  obtain ⟨⟨hfirst, hlast⟩, hstep⟩ := h
  obtain ⟨i, hi⟩ := Nat.dvd_of_mod_eq_zero hstep
  refine ⟨(n - run.first) / run.step, ?_, ?_⟩
  · have hle : (n - run.first) / run.step ≤ (run.last - run.first) / run.step :=
      Nat.div_le_div_right (by omega)
    rw [size]
    omega
  · have hmul : run.step * ((n - run.first) / run.step) = n - run.first :=
      Nat.mul_div_cancel' ⟨i, hi⟩
    omega

theorem CaseRun.mem_members {run : CaseRun} {n : Nat} (h : run.covers n = true) :
    n ∈ run.members := by
  obtain ⟨i, hi, rfl⟩ := exists_steps h
  exact List.mem_range'.2 ⟨i, hi, rfl⟩

/-- The upper-case form of a member, letter by letter. -/
theorem CaseRun.mem_forms {run : CaseRun} {n m : Nat} (h : run.covers n = true)
    (hm : m ∈ run.upper n) : m ∈ run.forms := by
  obtain ⟨i, hi, rfl⟩ := exists_steps h
  rw [upper, List.mem_cons] at hm
  rw [forms, List.mem_append]
  rcases hm with rfl | hm
  · exact .inl (List.mem_range'.2 ⟨i, hi, by omega⟩)
  · exact .inr hm

/-- What is produced are characters, and of those in ASCII only letters. -/
theorem forms_valid : ∀ run ∈ caseRuns, ∀ n ∈ run.forms,
    n.isValidChar ∧ (n < 0x80 → 'A'.toNat ≤ n ∧ n ≤ 'Z'.toNat) := by
  decide +kernel

/-- No form is a member of any run. -/
theorem bitSet_forms_and_members :
    bitSet (caseRuns.flatMap (·.forms)) &&& bitSet (caseRuns.flatMap (·.members)) = 0 := by
  decide +kernel

theorem not_covers_form {run : CaseRun} (hrun : run ∈ caseRuns) {n : Nat} (hn : n ∈ run.forms)
    {other : CaseRun} (hother : other ∈ caseRuns) : ¬ other.covers n = true := by
  intro hcovers
  have hform : n ∈ caseRuns.flatMap (·.forms) := List.mem_flatMap.2 ⟨run, hrun, hn⟩
  exact not_mem_of_bitSet_and bitSet_forms_and_members hform
    (List.mem_flatMap.2 ⟨other, hother, CaseRun.mem_members hcovers⟩)

/-! ## 4. Characters -/

/-- The run of the ASCII letters. -/
def asciiRun : CaseRun :=
  ⟨0x61, 0x7A, 1, 0x41, []⟩

/-- No other run has ASCII members. -/
theorem caseRuns_eq_cons : ∃ runs, caseRuns = asciiRun :: runs ∧ ∀ run ∈ runs, 0x80 ≤ run.first :=
  ⟨_, rfl, by decide +kernel⟩

theorem find?_ascii {n : Nat} (h : n < 0x80) :
    caseRuns.find? (·.covers n) = if asciiRun.covers n then some asciiRun else none := by
  obtain ⟨runs, hruns, hrest⟩ := caseRuns_eq_cons
  have hnone : runs.find? (·.covers n) = none := by
    rw [List.find?_eq_none]
    intro run hrun hcovers
    simp only [CaseRun.covers, Bool.and_eq_true, decide_eq_true_eq] at hcovers
    have hfirst := hrest run hrun
    omega
  rw [hruns, List.find?_cons, hnone]
  cases asciiRun.covers n <;> rfl

/-- The branch for ASCII gives the answer of the table. -/
theorem upperChar_eq (c : Char) :
    upperChar c = match caseRuns.find? (·.covers c.toNat) with
      | some run => (run.upper c.toNat).map Char.ofNat
      | none => [c] := by
  rw [upperChar]
  split
  · rename_i hascii
    rw [find?_ascii hascii]
    exact ascii_induction (P := fun c => [c.toUpper] =
      match if asciiRun.covers c.toNat then some asciiRun else none with
      | some run => (run.upper c.toNat).map Char.ofNat
      | none => [c]) (by decide) hascii
  · rfl

/-- Characters that no run covers stay as they are. -/
theorem upperChar_of_not_covers {c : Char} (h : ∀ run ∈ caseRuns, ¬ run.covers c.toNat = true) :
    upperChar c = [c] := by
  rw [upperChar_eq, List.find?_eq_none.2 h]

/-- What upper-casing produces is a form of some run, or was there before. -/
theorem mem_upperChar {c d : Char} (h : d ∈ upperChar c) :
    (∃ run ∈ caseRuns, d.toNat ∈ run.forms) ∨ upperChar c = [c] ∧ c = d := by
  have hupper := upperChar_eq c
  split at hupper
  · rename_i run hrun
    have hmem : run ∈ caseRuns := List.mem_of_find?_eq_some hrun
    have hcovers : run.covers c.toNat = true := by simpa using List.find?_some hrun
    rw [hupper] at h
    obtain ⟨n, hn, rfl⟩ := List.mem_map.1 h
    have hform := CaseRun.mem_forms hcovers hn
    have hnum : (Char.ofNat n).toNat = n := by
      rw [Char.ofNat, dif_pos (forms_valid run hmem n hform).1]
      rfl
    exact .inl ⟨run, hmem, hnum.symm ▸ hform⟩
  · rw [hupper, List.mem_singleton] at h
    exact .inr ⟨hupper, h.symm⟩

/-- Capitals have no capitals other than themselves. -/
theorem upperChar_of_mem_upperChar {c d : Char} (h : d ∈ upperChar c) : upperChar d = [d] := by
  rcases mem_upperChar h with ⟨run, hrun, hform⟩ | ⟨hsame, rfl⟩
  · exact upperChar_of_not_covers fun other hother => not_covers_form hrun hform hother
  · exact hsame

/-- An ASCII character that is no capital comes from itself only. -/
theorem eq_of_mem_upperChar {c d : Char} (h : d ∈ upperChar c)
    (hd : d.toNat < 'A'.toNat ∨ 'Z'.toNat < d.toNat ∧ d.toNat < 0x80) : c = d := by
  rcases mem_upperChar h with ⟨run, hrun, hform⟩ | ⟨-, hsame⟩
  · have hletter := (forms_valid run hrun _ hform).2
    have hA : 'A'.toNat = 0x41 := rfl
    have hZ : 'Z'.toNat = 0x5A := rfl
    omega
  · exact hsame

/-! ## 5. Texts -/

theorem toList_upper (text : String) : (upper text).toList = text.toList.flatMap upperChar := by
  rw [upper, String.toList_ofList]

/-- Upper-casing twice is upper-casing once. -/
theorem upper_upper (text : String) : upper (upper text) = upper text := by
  have hchar (c : Char) : (upperChar c).flatMap upperChar = upperChar c := by
    rw [List.flatMap_congr fun d hd => upperChar_of_mem_upperChar hd, List.flatMap_singleton']
  rw [← String.toList_inj, toList_upper, toList_upper, List.flatMap_assoc]
  exact List.flatMap_congr fun c _ => hchar c

/-- An ASCII character that is no capital stands in a text as often as in
the same text in capitals. -/
theorem count_upper (text : String) {d : Char}
    (hd : d.toNat < 'A'.toNat ∨ 'Z'.toNat < d.toNat ∧ d.toNat < 0x80) (hself : upperChar d = [d]) :
    (upper text).toList.count d = text.toList.count d := by
  rw [toList_upper]
  induction text.toList with
  | nil => rfl
  | cons c cs ih =>
    rw [List.flatMap_cons, List.count_append, ih, List.count_cons]
    by_cases hc : c = d
    · subst hc
      simp [hself]
      omega
    · have hnone : d ∉ upperChar c := fun h => hc (eq_of_mem_upperChar h hd)
      simp [List.count_eq_zero_of_not_mem hnone, hc]

end DatamodelTypes.Text
