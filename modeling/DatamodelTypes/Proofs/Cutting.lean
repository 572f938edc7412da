/-
DatamodelTypes.Proofs.Cutting — lists that can be cut in one way only.

A list whose items have a property up to a point, and not right behind it,
can be cut at that point from the list alone. Numbers end at the first
character that is no digit and names at the first that is none of theirs;
the sections of a page end at the next heading and its classes at the next
class line.
-/
import Mathlib.Data.List.Basic

namespace DatamodelTypes

variable {α β γ : Type}

theorem takeWhile_append_of_stop {p : α → Bool} {xs ys : List α} (hxs : ∀ x ∈ xs, p x = true)
    (hys : ∀ y ∈ ys.head?, p y = false) :
    (xs ++ ys).takeWhile p = xs ∧ (xs ++ ys).dropWhile p = ys := by
  have hstop : ys.takeWhile p = [] ∧ ys.dropWhile p = ys := by
    cases ys with
    | nil => simp
    | cons y ys => simp [hys y rfl]
  rw [List.takeWhile_append_of_pos hxs, List.dropWhile_append_of_pos hxs, hstop.1, hstop.2]
  simp

/-- What is left behind such items starts with one that is none. -/
theorem eq_false_of_dropWhile_eq_cons {p : α → Bool} {xs ys : List α} {y : α}
    (h : xs.dropWhile p = y :: ys) : p y = false := by
  have hstop := List.head?_dropWhile_not p xs
  rwa [h] at hstop

/-- There is one place to cut. -/
theorem append_inj_of_stop {p : α → Bool} {xs xs' ys ys' : List α} (h : xs ++ ys = xs' ++ ys')
    (hxs : ∀ x ∈ xs, p x = true) (hxs' : ∀ x ∈ xs', p x = true)
    (hys : ∀ y ∈ ys.head?, p y = false) (hys' : ∀ y ∈ ys'.head?, p y = false) :
    xs = xs' ∧ ys = ys' := by
  obtain ⟨htake, hdrop⟩ := takeWhile_append_of_stop hxs hys
  obtain ⟨htake', hdrop'⟩ := takeWhile_append_of_stop hxs' hys'
  rw [h] at htake hdrop
  exact ⟨htake.symm.trans htake', hdrop.symm.trans hdrop'⟩

/-- Groups behind a head each, when heads can be told from members. -/
theorem groups_inj {p : α → Bool} {groups groups' : List (α × List α)}
    (h : groups.flatMap (fun g => g.1 :: g.2) = groups'.flatMap (fun g => g.1 :: g.2))
    (hheads : ∀ g ∈ groups, p g.1 = false ∧ ∀ x ∈ g.2, p x = true)
    (hheads' : ∀ g ∈ groups', p g.1 = false ∧ ∀ x ∈ g.2, p x = true) : groups = groups' := by
  have hstop {gs : List (α × List α)} (hgs : ∀ g ∈ gs, p g.1 = false ∧ ∀ x ∈ g.2, p x = true) :
      ∀ y ∈ (gs.flatMap (fun g => g.1 :: g.2)).head?, p y = false := by
    cases gs with
    | nil => simp
    | cons g gs => simpa using (hgs g (by simp)).1
  induction groups generalizing groups' with
  | nil =>
    cases groups' with
    | nil => rfl
    | cons g' groups' => simp at h
  | cons g groups ih =>
    cases groups' with
    | nil => simp at h
    | cons g' groups' =>
      obtain ⟨hg, hgroups⟩ := List.forall_mem_cons.1 hheads
      obtain ⟨hg', hgroups'⟩ := List.forall_mem_cons.1 hheads'
      simp only [List.flatMap_cons, List.cons_append] at h
      obtain ⟨hhead, htail⟩ := List.cons.inj h
      obtain ⟨hmembers, hrest⟩ :=
        append_inj_of_stop htail hg.2 hg'.2 (hstop hgroups) (hstop hgroups')
      rw [ih hrest hgroups hgroups', Prod.ext hhead hmembers]

/-- What one function tells apart item by item, another that depends on it
cannot. -/
theorem map_eq_map_of_map_eq_map {f : α → β} {g : α → γ} {xs ys : List α}
    (h : xs.map f = ys.map f) (heq : ∀ x ∈ xs, ∀ y ∈ ys, f x = f y → g x = g y) :
    xs.map g = ys.map g := by
  induction xs generalizing ys with
  | nil =>
    cases ys with
    | nil => rfl
    | cons y ys => cases h
  | cons x xs ih =>
    cases ys with
    | nil => cases h
    | cons y ys =>
      obtain ⟨hhead, htail⟩ := List.cons.inj h
      rw [List.map_cons, List.map_cons, heq x (by simp) y (by simp) hhead,
        ih htail fun x hx y hy => heq x (List.mem_cons_of_mem _ hx) y (List.mem_cons_of_mem _ hy)]

end DatamodelTypes
