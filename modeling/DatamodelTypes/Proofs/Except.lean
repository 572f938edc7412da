/-
DatamodelTypes.Proofs.Except — when a computation that may fail succeeds.

The readers, decoders and conversions of this library are `do` blocks in
`Except`. Where the outcome of a step is known, `simp` goes on to the next
one. Where it is not, each lemma of section 2 takes one step apart: it
succeeded, so its parts did, with these values. They are equivalences, so
the same rewriting proves that a block succeeds and tells what follows
when it did. Section 4 is about blocks that do not succeed: the first step
that fails settles what they fail with.
-/
import Mathlib.Data.List.Forall2

namespace DatamodelTypes

variable {ε δ α β : Type}

/-! ## 1. Steps with a known outcome -/

@[simp] theorem ok_bind (a : α) (f : α → Except ε β) : (.ok a >>= f) = f a :=
  rfl

@[simp] theorem error_bind (e : ε) (f : α → Except ε β) : (.error e >>= f) = .error e :=
  rfl

@[simp] theorem pure_eq (a : α) : (pure a : Except ε α) = .ok a :=
  rfl

@[simp] theorem map_ok (f : α → β) (a : α) : f <$> (.ok a : Except ε α) = .ok (f a) :=
  rfl

@[simp] theorem map_error (f : α → β) (e : ε) : f <$> (.error e : Except ε α) = .error e :=
  rfl

/-! ## 2. Steps that succeed -/

/-- A sequence succeeds when its first step does and the rest does with
the value of the first. -/
theorem bind_eq_ok {x : Except ε α} {f : α → Except ε β} {b : β} :
    (x >>= f) = .ok b ↔ ∃ a, x = .ok a ∧ f a = .ok b := by
  cases x with
  | error e => simp
  | ok a => simp

theorem pure_eq_ok {a b : α} : (pure a : Except ε α) = .ok b ↔ a = b := by
  rw [pure_eq, Except.ok.injEq]

theorem map_eq_ok {f : α → β} {x : Except ε α} {b : β} :
    f <$> x = .ok b ↔ ∃ a, x = .ok a ∧ f a = b := by
  cases x with
  | error e => simp
  | ok a => simp

/-- Renaming the errors changes no success. -/
theorem mapError_eq_ok {f : ε → δ} {x : Except ε α} {a : α} :
    x.mapError f = .ok a ↔ x = .ok a := by
  cases x <;> simp [Except.mapError]

/-- Renaming the errors of a sequence renames those of its steps. -/
theorem mapError_bind {g : ε → δ} {x : Except ε α} {f : α → Except ε β} :
    (x >>= f).mapError g = x.mapError g >>= fun a => (f a).mapError g := by
  cases x <;> rfl

/-! ## 3. Lists -/

/-- A list is worked through when each item is, and the results stand in
the order of the items. -/
theorem mapM_eq_ok {f : α → Except ε β} {xs : List α} {ys : List β} :
    xs.mapM f = .ok ys ↔ List.Forall₂ (fun x y => f x = .ok y) xs ys := by
  induction xs generalizing ys with
  | nil =>
    rw [List.mapM_nil, pure_eq_ok, List.forall₂_nil_left_iff]
    exact eq_comm
  | cons x xs ih =>
    simp only [List.mapM_cons, bind_eq_ok, pure_eq_ok, ih, List.forall₂_cons_left_iff]
    constructor
    · rintro ⟨y, hy, ys', hys, rfl⟩
      exact ⟨y, ys', hy, hys, rfl⟩
    · rintro ⟨y, ys', hy, hys, rfl⟩
      exact ⟨y, hy, ys', hys, rfl⟩

/-- Items may be changed in what does not count for their results. -/
theorem mapM_map_of_eq {f : α → Except ε β} {g : α → α} (h : ∀ x, f (g x) = f x) (xs : List α) :
    (xs.map g).mapM f = xs.mapM f := by
  rw [List.mapM_map]
  exact congrArg xs.mapM (funext h)

/-- Every result is the result of an item. -/
theorem exists_of_mem_mapM {f : α → Except ε β} {xs : List α} {ys : List β} {y : β}
    (h : xs.mapM f = .ok ys) (hy : y ∈ ys) : ∃ x ∈ xs, f x = .ok y := by
  have hall := mapM_eq_ok.1 h
  clear h
  induction hall with
  | nil => cases hy
  | cons hxy _ ih =>
    obtain rfl | hy := List.mem_cons.1 hy
    · exact ⟨_, by simp, hxy⟩
    · obtain ⟨x, hx, hxy⟩ := ih hy
      exact ⟨x, List.mem_cons_of_mem _ hx, hxy⟩

/-- What is computed from the results of a list is what is computed from its
items, if that is so for each of them. -/
theorem map_eq_map_of_mapM {γ : Type} {f : α → Except ε β} {F : β → γ} {G : α → γ} {xs : List α}
    {ys : List β} (h : xs.mapM f = .ok ys) (heq : ∀ {x y}, x ∈ xs → f x = .ok y → F y = G x) :
    ys.map F = xs.map G := by
  have hall := mapM_eq_ok.1 h
  clear h
  induction hall with
  | nil => rfl
  | @cons x y xs ys hxy _ ih =>
    rw [List.map_cons, List.map_cons, heq (by simp) hxy,
      ih fun hx => heq (List.mem_cons_of_mem _ hx)]

/-! ## 4. Failures -/

/-- What a computation fails with, if it fails. -/
def failure? : Except ε α → Option ε
  | .ok _ => none
  | .error e => some e

@[simp] theorem failure?_ok (a : α) : failure? (.ok a : Except ε α) = none :=
  rfl

@[simp] theorem failure?_error (e : ε) : failure? (.error e : Except ε α) = some e :=
  rfl

theorem failure?_eq_some {x : Except ε α} {e : ε} : failure? x = some e ↔ x = .error e := by
  cases x <;> simp

/-- A sequence fails with what its first step fails with, or else with what
the later ones do, if that does not depend on the value they go on from. -/
theorem failure?_bind {x : Except ε α} {f : α → Except ε β} {later : Option ε}
    (h : ∀ a, failure? (f a) = later) : failure? (x >>= f) = (failure? x).or later := by
  cases x with
  | ok a => simp [h]
  | error e => simp

/-- The same where the later failures are known only if the first step
succeeds. -/
theorem failure?_bind_of_ok {x : Except ε α} {f : α → Except ε β} {later : Option ε}
    (h : ∀ a, x = .ok a → failure? (f a) = later) :
    failure? (x >>= f) = (failure? x).or later := by
  cases x with
  | ok a => simp [h]
  | error e => simp

/-- A last step that only computes fails with nothing. -/
theorem failure?_bind_pure {x : Except ε α} {g : α → β} :
    failure? (x >>= fun a => pure (g a)) = failure? x := by
  cases x <;> rfl

/-- A list fails with what its first item to fail fails with. -/
theorem failure?_mapM {f : α → Except ε β} (xs : List α) :
    failure? (xs.mapM f) = xs.findSome? fun x => failure? (f x) := by
  induction xs with
  | nil => rfl
  | cons x xs ih =>
    rw [List.mapM_cons, failure?_bind fun y => failure?_bind_pure, ih, List.findSome?_cons]
    cases failure? (f x) <;> rfl

end DatamodelTypes
