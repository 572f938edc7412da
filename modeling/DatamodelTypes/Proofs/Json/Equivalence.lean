/-
DatamodelTypes.Proofs.Json.Equivalence — what does not count in a JSON
value.

An object means the same in whatever order its members are written, as
long as those of one name keep their order; and of several members of one
name only the last one counts. `Equivalent` is the least equivalence with
these two rules at every depth. A text denotes a value if it spells one
that is equivalent to it.

`Equivalent.seen` says what is left to see of two equivalent values from
outside: they are the same, or arrays with equivalent items in the same
places, or objects with equivalent values behind the same names.
-/
import DatamodelTypes.Proofs.Json.Spelling
import Mathlib.Data.List.Forall2

namespace DatamodelTypes.Json

/-! ## 1. Equivalent values -/

/-- Values that differ only in the order of members of different names and
in members that a later one of the same name overwrites. -/
inductive Equivalent : Json → Json → Prop
  | refl (value : Json) : Equivalent value value
  | symm {value other : Json} (h : Equivalent value other) : Equivalent other value
  | trans {value between other : Json} (first : Equivalent value between)
      (second : Equivalent between other) : Equivalent value other
  | item {before after : List Json} {value other : Json} (h : Equivalent value other) :
      Equivalent (.array (before ++ value :: after)) (.array (before ++ other :: after))
  | member {before after : List (String × Json)} {name : String} {value other : Json}
      (h : Equivalent value other) :
      Equivalent (.object (before ++ (name, value) :: after))
        (.object (before ++ (name, other) :: after))
  | swap {before after : List (String × Json)} {first second : String × Json}
      (h : first.1 ≠ second.1) :
      Equivalent (.object (before ++ first :: second :: after))
        (.object (before ++ second :: first :: after))
  | overwritten {before after : List (String × Json)} {name : String} {value : Json}
      (h : hasMember name after = true) :
      Equivalent (.object (before ++ (name, value) :: after)) (.object (before ++ after))

/-- A text denotes a value: it spells a value that is equivalent to it. -/
def Denotes (text : String) (value : Json) : Prop :=
  ∃ written, Spells text written ∧ Equivalent written value

/-! ## 2. Members behind a name -/

theorem lookup_cons (name : String) (member : String × Json) (members : List (String × Json)) :
    lookup name (member :: members) =
      (lookup name members).or (if member.1 = name then some member.2 else none) := by
  cases h : lookup name members <;> simp [lookup, h]

/-- Members of different names do not hide each other. -/
theorem lookup_swap {first second : String × Json} (h : first.1 ≠ second.1) (name : String)
    (before after : List (String × Json)) :
    lookup name (before ++ first :: second :: after) =
      lookup name (before ++ second :: first :: after) := by
  simp only [lookup_append, lookup_cons]
  by_cases hfirst : first.1 = name
  · have hsecond : second.1 ≠ name := fun hsecond => h (hfirst.trans hsecond.symm)
    simp [hfirst, hsecond]
  · simp [hfirst]

/-- An overwritten member is never found. -/
theorem lookup_overwritten {key : String} {after : List (String × Json)}
    (h : hasMember key after = true) (value : Json) (name : String)
    (before : List (String × Json)) :
    lookup name (before ++ (key, value) :: after) = lookup name (before ++ after) := by
  simp only [lookup_append, lookup_cons]
  by_cases hname : key = name
  · subst hname
    rw [← lookup_isSome, Option.isSome_iff_exists] at h
    obtain ⟨later, hlater⟩ := h
    simp [hlater]
  · simp [hname]

/-! ## 3. What is seen of equivalent values -/

/-- Equivalent values in equivalent places, or none in both. -/
abbrev EquivalentOption : Option Json → Option Json → Prop :=
  Option.Rel Equivalent

theorem EquivalentOption.refl (value : Option Json) : EquivalentOption value value := by
  cases value with
  | none => exact .none
  | some value => exact .some (.refl value)

theorem EquivalentOption.symm {value other : Option Json} (h : EquivalentOption value other) :
    EquivalentOption other value := by
  cases h with
  | none => exact .none
  | some h => exact .some h.symm

theorem EquivalentOption.trans {value between other : Option Json}
    (first : EquivalentOption value between) (second : EquivalentOption between other) :
    EquivalentOption value other := by
  cases first with
  | none => exact second
  | some first =>
    cases second with
    | some second => exact .some (first.trans second)

theorem equivalent_items_refl (items : List Json) : List.Forall₂ Equivalent items items :=
  List.forall₂_same.2 fun item _ => .refl item

theorem equivalent_items_trans {items between others : List Json}
    (first : List.Forall₂ Equivalent items between)
    (second : List.Forall₂ Equivalent between others) : List.Forall₂ Equivalent items others := by
  induction first generalizing others with
  | nil => exact second
  | cons h _ ih =>
    cases second with
    | cons h' hrest => exact .cons (h.trans h') (ih hrest)

/-- What two values have in common that differ in nothing that counts. -/
inductive Seen : Json → Json → Prop
  | same (value : Json) : Seen value value
  | items {items others : List Json} (h : List.Forall₂ Equivalent items others) :
      Seen (.array items) (.array others)
  | members {members others : List (String × Json)}
      (h : ∀ name, EquivalentOption (lookup name members) (lookup name others)) :
      Seen (.object members) (.object others)

theorem Seen.symm {value other : Json} (h : Seen value other) : Seen other value := by
  cases h with
  | same => exact .same value
  | items h => exact .items (h.flip.imp fun _ _ h => h.symm)
  | members h => exact .members fun name => (h name).symm

theorem Seen.trans {value between other : Json} (first : Seen value between)
    (second : Seen between other) : Seen value other := by
  cases first with
  | same => exact second
  | items first =>
    cases second with
    | same => exact .items first
    | items second => exact .items (equivalent_items_trans first second)
  | members first =>
    cases second with
    | same => exact .members first
    | members second => exact .members fun name => (first name).trans (second name)

/-- By induction on how the values were shown to be equivalent: each of the
rules changes nothing that is seen. -/
theorem Equivalent.seen {value other : Json} (h : Equivalent value other) : Seen value other := by
  induction h with
  | refl value => exact .same value
  | symm _ ih => exact ih.symm
  | trans _ _ ih ih' => exact ih.trans ih'
  | @item before after value other h _ =>
    exact .items (List.rel_append (equivalent_items_refl before)
      (.cons h (equivalent_items_refl after)))
  | @member before after key value other h _ =>
    refine .members fun name => ?_
    simp only [lookup_append, lookup_cons]
    cases lookup name after with
    | some later => exact .refl _
    | none =>
      by_cases hname : key = name
      · simpa [hname] using Option.Rel.some h
      · simpa [hname] using EquivalentOption.refl _
  | swap h =>
    refine .members fun name => ?_
    rw [lookup_swap h]
    exact .refl _
  | overwritten h =>
    refine .members fun name => ?_
    rw [lookup_overwritten h]
    exact .refl _

end DatamodelTypes.Json
