/-
DatamodelTypes.Proofs.Page.MemberName — the characters of member names.

A member is named by its value in upper-case letters, with an underscore in
front of each that was an ASCII capital before, unless the value is in
upper-case letters already. So a name has no upper-case form other than
itself, naming twice is naming once, and nothing but the case of its
letters and underscores tells a name from its value
(`memberName_stable`). It has a newline only if its value has one
(`newline_mem_memberName`).

Letters, underscores and newlines can be followed one by one, because a
name with anything to raise is written character by character
(`toList_memberName`).
-/
import DatamodelTypes.Page.Declaration
import DatamodelTypes.Proofs.Text.UpperCase

namespace DatamodelTypes.Page

open Text (upper upperChar)

/-! ## 1. Names character by character -/

theorem toNat_lt_of_isUpper {c : Char} (h : c.isUpper = true) : c.toNat < 0x80 := by
  have hle : c.val ≤ 'Z'.val := (of_decide_eq_true h).2
  exact Nat.lt_of_le_of_lt (UInt32.le_iff_toNat_le.1 hle) (by decide)

/-- A property of the ASCII capitals is checked for each of them. -/
theorem isUpper_induction {P : Char → Prop}
    (h : ∀ n < 0x80, (Char.ofNat n).isUpper = true → P (Char.ofNat n)) {c : Char}
    (hc : c.isUpper = true) : P c :=
  Text.ascii_induction (P := fun c => c.isUpper = true → P c) h (toNat_lt_of_isUpper hc) hc

theorem upperChar_of_isUpper {c : Char} (h : c.isUpper = true) : upperChar c = [c] :=
  isUpper_induction (P := fun c => upperChar c = [c]) (by decide) h

/-- The start of a word is raised to the capital that it was. -/
theorem flatMap_upperChar_wordStart (c : Char) :
    (wordStart c).flatMap upperChar = if c.isUpper then ['_', c] else upperChar c := by
  cases hupper : c.isUpper with
  | false => simp [wordStart, hupper]
  | true =>
    rw [if_pos rfl]
    exact isUpper_induction (P := fun c => (wordStart c).flatMap upperChar = ['_', c])
      (by decide) hupper

/-- A name without anything to raise is kept. -/
theorem memberName_of_eq {value : String} (h : value = upper value) : memberName value = value := by
  rw [memberName, if_pos h]

/-- Any other name is raised, with its capitals marked. -/
theorem toList_memberName {value : String} (h : value ≠ upper value) :
    (memberName value).toList =
      value.toList.flatMap fun c => if c.isUpper then ['_', c] else upperChar c := by
  rw [memberName, if_neg h, Text.toList_upper, String.toList_ofList, List.flatMap_assoc]
  exact List.flatMap_congr fun c _ => flatMap_upperChar_wordStart c

/-! ## 2. Newlines -/

theorem newline_mem_memberName {value : String} (h : '\n' ∈ (memberName value).toList) :
    '\n' ∈ value.toList := by
  by_cases hupper : value = upper value
  · rwa [memberName_of_eq hupper] at h
  · rw [toList_memberName hupper, List.mem_flatMap] at h
    obtain ⟨c, hc, hmem⟩ := h
    have hsame : c = '\n' := by
      split at hmem
      · simpa [eq_comm] using hmem
      · exact Text.eq_of_mem_upperChar hmem (by decide)
    exact hsame ▸ hc

/-! ## 3. Case and underscores -/

/-- A text without its underscores. -/
def withoutUnderscores (text : String) : String :=
  String.ofList (text.toList.filter (· ≠ '_'))

/-- The number of underscores in a text. -/
def underscores (text : String) : Nat :=
  text.toList.count '_'

/-- The number of ASCII capitals in a text. -/
def capitals (text : String) : Nat :=
  text.toList.countP (·.isUpper)

theorem upper_memberName (value : String) : upper (memberName value) = memberName value := by
  rw [memberName]
  split
  · rename_i h
    exact h.symm
  · exact Text.upper_upper _

theorem withoutUnderscores_memberName (value : String) :
    withoutUnderscores (memberName value) = withoutUnderscores (upper value) := by
  by_cases h : value = upper value
  · rw [memberName_of_eq h, ← h]
  · rw [withoutUnderscores, withoutUnderscores, toList_memberName h, Text.toList_upper,
      List.filter_flatMap, List.filter_flatMap]
    refine congrArg String.ofList (List.flatMap_congr fun c _ => ?_)
    cases hupper : c.isUpper with
    | false => rfl
    | true => simp [upperChar_of_isUpper hupper]

theorem underscores_upper (text : String) : underscores (upper text) = underscores text :=
  Text.count_upper text (by decide) (by decide)

/-- Each capital brings an underscore of its own. -/
theorem underscores_memberName {value : String} (h : value ≠ upper value) :
    underscores (memberName value) = underscores value + capitals value := by
  rw [← underscores_upper value, underscores, underscores, capitals, toList_memberName h,
    Text.toList_upper]
  induction value.toList with
  | nil => rfl
  | cons c cs ih =>
    have hfirst : (if c.isUpper then ['_', c] else upperChar c).count '_' =
        (upperChar c).count '_' + if c.isUpper then 1 else 0 := by
      cases hupper : c.isUpper with
      | false => rfl
      | true => rw [if_pos rfl, if_pos rfl, upperChar_of_isUpper hupper, List.count_cons_self]
    rw [List.flatMap_cons, List.count_append, ih, hfirst, List.flatMap_cons, List.count_append,
      List.countP_cons]
    omega

/-- A member name is in upper-case letters for good: upper-casing it or
naming it again changes nothing. Without underscores it is the value in
upper-case letters; and it has the underscores of the value, with one more
for each ASCII capital if the value had anything to raise. -/
theorem memberName_stable (value : String) :
    upper (memberName value) = memberName value ∧
    memberName (memberName value) = memberName value ∧
    withoutUnderscores (memberName value) = withoutUnderscores (upper value) ∧
    underscores (memberName value) =
      underscores value + if value = upper value then 0 else capitals value := by
  refine ⟨upper_memberName value, memberName_of_eq (upper_memberName value).symm,
    withoutUnderscores_memberName value, ?_⟩
  by_cases h : value = upper value
  · rw [if_pos h, memberName_of_eq h, Nat.add_zero]
  · rw [if_neg h, underscores_memberName h]

/-- One letter may become several, and only ASCII capitals are marked. -/
example : memberName "großeÄsteXL" = "GROSSEÄSTE_X_L" := by decide

end DatamodelTypes.Page
