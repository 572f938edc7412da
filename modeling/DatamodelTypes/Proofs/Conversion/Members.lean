/-
DatamodelTypes.Proofs.Conversion.Members — which values of an enum share a
member.

Two plain values get one member name exactly if they have one key
(`memberName_eq_iff`). The key of a value without small letters is the
value in small letters; any other keeps its letters, with a small letter
behind an underscore in place of each capital. So distinct values may share
a member, but not if each has a small letter and no underscore: then the
class in the text has no two members with one identifier
(`members_collide_iff`).

## How the proof goes

The member name is the key in capitals, and a key has no capitals that
could be lost there. What is left is to read a value off its key: if the
value has no underscores of its own, those of its key start its capitals.
-/
import DatamodelTypes.Proofs.Conversion.Order
import Mathlib.Data.List.Nodup

namespace DatamodelTypes

namespace Page

open Text (upper)

/-! ## 1. Plain letters -/

/-- A text of ASCII letters, digits and underscores, possibly empty. -/
def IsPlain (text : String) : Prop :=
  ∀ c ∈ text.toList, isNameChar c = true

/-- A text is checked character by character. -/
instance (text : String) : Decidable (IsPlain text) :=
  decidable_of_iff (text.toList.all isNameChar = true) List.all_eq_true

/-- No capital is a small letter. -/
theorem isLower_toUpper {c : Char} (h : isNameChar c = true) : c.toUpper.isLower = false :=
  isNameChar_induction (P := fun c => c.toUpper.isLower = false) (by decide) h

/-- No small letter is a capital. -/
theorem isUpper_toLower {c : Char} (h : isNameChar c = true) : c.toLower.isUpper = false :=
  isNameChar_induction (P := fun c => c.toLower.isUpper = false) (by decide) h

theorem isNameChar_toLower {c : Char} (h : isNameChar c = true) : isNameChar c.toLower = true :=
  isNameChar_induction (P := fun c => isNameChar c.toLower = true) (by decide) h

/-- The start of a word has no capitals left. -/
theorem isUpper_wordStart {c : Char} (h : isNameChar c = true) :
    ∀ d ∈ wordStart c, d.isUpper = false := by
  have hall : (wordStart c).all (!·.isUpper) = true :=
    isNameChar_induction (P := fun c => (wordStart c).all (!·.isUpper) = true) (by decide) h
  intro d hd
  simpa using List.all_eq_true.1 hall d hd

theorem toUpper_of_isLower_eq_false {c : Char} (h : isNameChar c = true)
    (hsmall : c.isLower = false) : c.toUpper = c :=
  isNameChar_induction (P := fun c => c.isLower = false → c.toUpper = c) (by decide) h
    hsmall

theorem toUpper_toLower {c : Char} (h : isNameChar c = true) (hsmall : c.isLower = false) :
    c.toLower.toUpper = c :=
  isNameChar_induction (P := fun c => c.isLower = false → c.toLower.toUpper = c)
    (by decide) h hsmall

theorem toLower_toUpper {c : Char} (h : isNameChar c = true) (hcapital : c.isUpper = false) :
    c.toUpper.toLower = c :=
  isNameChar_induction (P := fun c => c.isUpper = false → c.toUpper.toLower = c)
    (by decide) h hcapital

/-! ## 2. Keys -/

/-- Whether a text has an ASCII small letter. -/
def hasSmallLetter (text : String) : Bool :=
  text.toList.any (·.isLower)

/-- What of a value counts for its member name: all of it in small letters
if it has none of them, and otherwise the value with a small letter behind
an underscore in place of each capital. -/
def memberKey (value : String) : String :=
  String.ofList (if hasSmallLetter value then value.toList.flatMap wordStart
    else value.toList.map Char.toLower)

/-- A key comes from the letters of its value, one by one. -/
theorem memberKey_induction {P : Char → Prop} {value : String} (h : IsPlain value)
    (hstart : ∀ c, isNameChar c = true → ∀ d ∈ wordStart c, P d)
    (hlower : ∀ c, isNameChar c = true → P c.toLower) : ∀ d ∈ (memberKey value).toList, P d := by
  intro d hd
  rw [memberKey, String.toList_ofList] at hd
  split at hd
  · obtain ⟨c, hc, hd⟩ := List.mem_flatMap.1 hd
    exact hstart c (h c hc) d hd
  · obtain ⟨c, hc, rfl⟩ := List.mem_map.1 hd
    exact hlower c (h c hc)

theorem IsPlain.memberKey {value : String} (h : IsPlain value) : IsPlain (memberKey value) :=
  memberKey_induction h (fun _ => isNameChar_wordStart) fun _ => isNameChar_toLower

/-- A key has no capitals. -/
theorem isUpper_memberKey {value : String} (h : IsPlain value) :
    ∀ c ∈ (memberKey value).toList, c.isUpper = false :=
  memberKey_induction h (fun _ => isUpper_wordStart) fun _ => isUpper_toLower

/-- A value with a small letter has something to raise. -/
theorem ne_upper_of_hasSmallLetter {value : String} (h : IsPlain value)
    (hsmall : hasSmallLetter value = true) : value ≠ upper value := by
  intro hupper
  obtain ⟨c, hc, hlower⟩ := List.any_eq_true.1 hsmall
  rw [hupper, toList_upper_of_isNameChar h] at hc
  obtain ⟨d, hd, rfl⟩ := List.mem_map.1 hc
  rw [isLower_toUpper (h d hd)] at hlower
  cases hlower

/-- The member name is the key in capitals. -/
theorem upper_memberKey {value : String} (h : IsPlain value) :
    upper (memberKey value) = memberName value := by
  cases hsmall : hasSmallLetter value with
  | true =>
    rw [memberName, if_neg (ne_upper_of_hasSmallLetter h hsmall), memberKey, hsmall, if_pos rfl]
  | false =>
    have hnone : ∀ c ∈ value.toList, c.isLower = false := by simpa [hasSmallLetter] using hsmall
    have hsame : ∀ c ∈ value.toList, c.toUpper = c := fun c hc =>
      toUpper_of_isLower_eq_false (h c hc) (hnone c hc)
    have hback : ∀ c ∈ value.toList, (Char.toUpper ∘ Char.toLower) c = c := fun c hc =>
      toUpper_toLower (h c hc) (hnone c hc)
    have hkept : value = upper value := by
      rw [← String.toList_inj, toList_upper_of_isNameChar h, List.map_congr_left hsame,
        List.map_id']
    rw [memberName_of_eq hkept, ← String.toList_inj, toList_upper_of_isNameChar h.memberKey,
      memberKey, hsmall, if_neg (by decide), String.toList_ofList, List.map_map,
      List.map_congr_left hback, List.map_id']

/-- No letter of a key is lost in capitals. -/
theorem memberKey_eq_of_upper_eq {a b : String} (ha : IsPlain a) (hb : IsPlain b)
    (h : upper (memberKey a) = upper (memberKey b)) : memberKey a = memberKey b := by
  rw [← String.toList_inj, toList_upper_of_isNameChar ha.memberKey,
    toList_upper_of_isNameChar hb.memberKey] at h
  have hletters := map_eq_map_of_map_eq_map (g := id) h fun c hc d hd hsame => by
    rw [id, id, ← toLower_toUpper (ha.memberKey c hc) (isUpper_memberKey ha c hc), hsame,
      toLower_toUpper (hb.memberKey d hd) (isUpper_memberKey hb d hd)]
  rw [← String.toList_inj]
  simpa using hletters

theorem memberName_eq_iff {a b : String} (ha : IsPlain a) (hb : IsPlain b) :
    memberName a = memberName b ↔ memberKey a = memberKey b := by
  rw [← upper_memberKey ha, ← upper_memberKey hb]
  constructor
  · exact memberKey_eq_of_upper_eq ha hb
  · intro h
    rw [h]

/-! ## 3. Reading keys -/

/-- A text from its words: the letter behind an underscore is a capital. -/
def readWords : List Char → List Char
  | '_' :: c :: cs => c.toUpper :: readWords cs
  | c :: cs => c :: readWords cs
  | [] => []

theorem readWords_cons_of_ne {c : Char} (h : c ≠ '_') (cs : List Char) :
    readWords (c :: cs) = c :: readWords cs := by
  rw [readWords]
  intro d ds hc
  exact absurd hc h

/-- By induction on the letters: each of them is read back from its word. -/
theorem readWords_flatMap_wordStart {letters : List Char} (h : '_' ∉ letters) :
    readWords (letters.flatMap wordStart) = letters := by
  induction letters with
  | nil => rfl
  | cons c cs ih =>
    have hc : c ≠ '_' := fun hc => h (by simp [hc])
    have hrest : readWords (cs.flatMap wordStart) = cs := ih fun hcs => h (by simp [hcs])
    rw [List.flatMap_cons, wordStart]
    cases hupper : c.isUpper with
    | true =>
      have hback : c.toLower.toUpper = c :=
        isUpper_induction (P := fun c => c.toLower.toUpper = c) (by decide) hupper
      rw [if_pos rfl, List.cons_append, List.cons_append, List.nil_append, readWords, hrest, hback]
    | false =>
      rw [if_neg (by decide), List.cons_append, List.nil_append, readWords_cons_of_ne hc, hrest]

/-- Values with small letters and without underscores have keys of their own. -/
theorem eq_of_memberKey_eq {a b : String} (ha : hasSmallLetter a = true) (ha' : '_' ∉ a.toList)
    (hb : hasSmallLetter b = true) (hb' : '_' ∉ b.toList) (h : memberKey a = memberKey b) :
    a = b := by
  rw [memberKey, memberKey, ha, hb, if_pos rfl, if_pos rfl, String.ofList_inj] at h
  rw [← String.toList_inj, ← readWords_flatMap_wordStart ha', h, readWords_flatMap_wordStart hb']

/-! ## 4. Identifiers -/

/-- The identifier of a member: what stands in front of the first blank of
its entry. -/
def identifierOf (entry : String) : String :=
  String.ofList (entry.toList.takeWhile (· ≠ ' '))

theorem identifierOf_memberEntry {value : String} (h : IsPlain value) :
    identifierOf (memberEntry value) = memberName value := by
  have hname : ∀ c ∈ (memberName value).toList, decide (c ≠ ' ') = true := by
    intro c hc
    rw [← upper_memberKey h] at hc
    have hplain := isNameChar_upper h.memberKey c hc
    rw [decide_eq_true_eq]
    rintro rfl
    exact absurd hplain (by decide)
  have hmark : ∀ c ∈ (" = \"".toList ++ value.toList ++ "\"".toList).head?,
      decide (c ≠ ' ') = false := by
    simp
  have hentry : (memberEntry value).toList =
      (memberName value).toList ++ (" = \"".toList ++ value.toList ++ "\"".toList) := by
    simp only [memberEntry, String.toList_append, List.append_assoc]
  rw [identifierOf, hentry, (takeWhile_append_of_stop hname hmark).1, String.ofList_toList]

end Page

namespace Datamodel

open Page (IsPlain hasSmallLetter memberKey memberName identifierOf StandsIn)

/-! ## 5. Classes without a repeated member -/

/-- An enum whose values are plain and distinct, with a small letter and
without an underscore each. -/
structure Enum.IsCamelCased (enum : Enum) : Prop where
  distinct : (enum.values.map (·.name)).Nodup
  plain : ∀ value ∈ enum.values, IsPlain value.name
  noUnderscore : ∀ value ∈ enum.values, '_' ∉ value.name.toList
  smallLetter : ∀ value ∈ enum.values, hasSmallLetter value.name = true

theorem Enum.IsCamelCased.nodup_identifiers {enum : Enum} (h : enum.IsCamelCased) :
    (enum.block.entries.map identifierOf).Nodup := by
  have hmembers : enum.block.entries.map identifierOf =
      (enum.values.map (·.name)).map memberName := by
    rw [Enum.block, List.map_map, List.map_map]
    exact List.map_congr_left fun value hvalue =>
      Page.identifierOf_memberEntry (h.plain value hvalue)
  rw [hmembers]
  refine List.Nodup.map_on (fun a ha b hb hsame => ?_) h.distinct
  obtain ⟨value, hvalue, rfl⟩ := List.mem_map.1 ha
  obtain ⟨value', hvalue', rfl⟩ := List.mem_map.1 hb
  rw [Page.memberName_eq_iff (h.plain value hvalue) (h.plain value' hvalue')] at hsame
  exact Page.eq_of_memberKey_eq (h.smallLetter value hvalue) (h.noUnderscore value hvalue)
    (h.smallLetter value' hvalue') (h.noUnderscore value' hvalue') hsame

/-- Plain values share a member exactly if they have one key. So if the
values of an enum are distinct, with a small letter and without an
underscore each, its class has no two members with one identifier. That
class has a member for each value and stands in every text that a datamodel
with the enum is converted to. -/
theorem members_collide_iff :
    (∀ a b, IsPlain a → IsPlain b →
      (memberName a = memberName b ↔ memberKey a = memberKey b)) ∧
    ∀ enum : Enum, enum.IsCamelCased →
      (enum.block.entries.map identifierOf).Nodup ∧
      enum.block.entries.length = enum.values.length ∧
      ∀ (datamodel : Datamodel) (options : Options) (text : String),
        enum ∈ datamodel.enums → datamodel.convert options = .ok text →
        StandsIn text (enum.block.render options) := by
  refine ⟨fun a b ha hb => Page.memberName_eq_iff ha hb, fun enum h => ?_⟩
  refine ⟨h.nodup_identifiers, ?_, fun datamodel options text henum hconvert => ?_⟩
  · rw [Enum.block, List.length_map]
  · exact standsIn_of_mem hconvert (mem_classes_enum henum)

/-- Leading capitals, capitals in a row and digits. -/
def sizes : Enum :=
  .ofNames "Size" ["xl", "Xl", "xL", "XLarge", "xLARGE2", "x2Large"]

/-- Values with an underscore or without a small letter may share a member
with others; these sizes do not. -/
theorem members_collide_iff_sizes :
    (memberName "onHold" = memberName "on_hold" ∧ memberName "on_hold" = memberName "ON_HOLD") ∧
      (sizes.block.entries.map identifierOf).Nodup ∧
      ∃ text, convert {} { enums := [sizes] } = .ok text ∧ StandsIn text (sizes.block.render {}) := by
  obtain ⟨hcollide, hclass⟩ := members_collide_iff
  have hcamel : sizes.IsCamelCased := by
    constructor <;> decide
  obtain ⟨hnodup, -, hstands⟩ := hclass sizes hcamel
  have hconvert : ∃ text, convert {} { enums := [sizes] } = .ok text := ⟨_, rfl⟩
  obtain ⟨text, htext⟩ := hconvert
  refine ⟨⟨?_, ?_⟩, hnodup, text, htext, hstands _ _ _ (by simp) htext⟩
  · exact (hcollide _ _ (by decide) (by decide)).2 (by decide)
  · exact (hcollide _ _ (by decide) (by decide)).2 (by decide)

end Datamodel

end DatamodelTypes
