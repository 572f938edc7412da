/-
DatamodelTypes.Proofs.Cli.Filter — which events a filter lets pass.

The directives of a filter are gone through with the most particular one
so far. `Filter.Decides` says which one that is in the end, without going
through them: it applies, those in front of it that apply give way to it,
and it gives way to none behind it. Whether an event is shown then is a
matter of that directive's threshold (`Filter.shows_iff`).

That the last one left is the most particular of all rests on giving way
being a preorder in which any two directives can be compared.
-/
import DatamodelTypes.Cli.Filter
import Mathlib.Data.List.Induction

namespace DatamodelTypes.Cli

/-! ## 1. Thresholds and giving way -/

/-- A threshold that lets a level pass lets less detailed ones pass. -/
theorem Threshold.admits_of_le {threshold : Threshold} {level level' : Level}
    (h : threshold.admits level = true) (hle : level'.rank ≤ level.rank) :
    threshold.admits level' = true := by
  cases threshold with
  | none => cases h
  | some most => exact decide_eq_true (Nat.le_trans hle (of_decide_eq_true h))

namespace Directive

variable {directive other third : Directive}

theorem givesWayTo_iff : directive.givesWayTo other = true ↔
    directive.reach < other.reach ∨ directive.reach = other.reach ∧
      ∀ name ∈ directive.field, ∃ name' ∈ other.field, name ≤ name' := by
  unfold givesWayTo
  cases directive.field with
  | none => simp
  | some name => cases other.field <;> simp

theorem givesWayTo_trans (h : directive.givesWayTo other = true)
    (h' : other.givesWayTo third = true) : directive.givesWayTo third = true := by
  rw [givesWayTo_iff] at h h' ⊢
  obtain hreach | ⟨hreach, hfield⟩ := h
  · exact .inl (by omega)
  · obtain hreach' | ⟨hreach', hfield'⟩ := h'
    · exact .inl (by omega)
    · refine .inr ⟨by omega, fun name hname => ?_⟩
      obtain ⟨name', hname', hle⟩ := hfield name hname
      obtain ⟨name'', hname'', hle'⟩ := hfield' name' hname'
      exact ⟨name'', hname'', String.le_trans hle hle'⟩

theorem givesWayTo_total (h : directive.givesWayTo other = false) :
    other.givesWayTo directive = true := by
  rw [← Bool.not_eq_true, givesWayTo_iff, not_or] at h
  obtain ⟨hreach, hfield⟩ := h
  rw [givesWayTo_iff]
  obtain hlt | heq : other.reach < directive.reach ∨ directive.reach = other.reach := by omega
  · exact .inl hlt
  · refine .inr ⟨heq.symm, fun name' hname' => ?_⟩
    by_contra hnone
    refine hfield ⟨heq, fun name hname => ⟨name', hname', ?_⟩⟩
    exact (String.le_total name name').resolve_right fun hle => hnone ⟨name, hname, hle⟩

theorem givesWayTo_refl (directive : Directive) : directive.givesWayTo directive = true := by
  cases h : directive.givesWayTo directive with
  | true => rfl
  | false => exact h ▸ givesWayTo_total h

end Directive

/-! ## 2. The directive that decides -/

namespace Filter

variable {filter : Filter} {event : Event} {directive : Directive}

/-- The directive that decides about an event: it applies, all that apply in
front of it give way to it, and it gives way to none behind it. -/
inductive Decides (event : Event) : Filter → Directive → Prop
  | intro {before after : Filter} {directive : Directive}
      (applies : directive.appliesTo event = true)
      (earlier : ∀ other ∈ before, other.appliesTo event = true →
        other.givesWayTo directive = true)
      (later : ∀ other ∈ after, other.appliesTo event = true →
        directive.givesWayTo other = false) :
      Decides event (before ++ directive :: after) directive

/-- An event passes if the directive that decides about it admits its level. -/
def Passes (filter : Filter) (event : Event) : Prop :=
  ∃ directive, Decides event filter directive ∧ directive.threshold.admits event.level = true

theorem Decides.mem (h : Decides event filter directive) : directive ∈ filter := by
  cases h
  simp

theorem Decides.appliesTo (h : Decides event filter directive) :
    directive.appliesTo event = true := by
  cases h
  assumption

/-- Of the directives that apply, the one that decides is a most particular
one. -/
theorem Decides.givesWay (h : Decides event filter directive) {other : Directive}
    (hother : other ∈ filter) (applies : other.appliesTo event = true) :
    other.givesWayTo directive = true := by
  obtain ⟨happlies, earlier, later⟩ := h
  obtain hother | hother := List.mem_append.1 hother
  · exact earlier other hother applies
  · obtain rfl | hother := List.mem_cons.1 hother
    · exact Directive.givesWayTo_refl other
    · exact Directive.givesWayTo_total (later other hother applies)

/-- One more directive that applies decides if all others give way to it. -/
theorem Decides.concat (applies : directive.appliesTo event = true)
    (earlier : ∀ other ∈ filter, other.appliesTo event = true →
      other.givesWayTo directive = true) :
    Decides event (filter ++ [directive]) directive :=
  .intro applies earlier (by simp)

/-- With one more directive the same one decides, unless it gives way. -/
theorem Decides.keep (h : Decides event filter directive) {next : Directive}
    (later : next.appliesTo event = true → directive.givesWayTo next = false) :
    Decides event (filter ++ [next]) directive := by
  obtain ⟨happlies, hearlier, hlater⟩ := h
  rw [List.append_assoc, List.cons_append]
  refine .intro happlies hearlier fun other hother applies => ?_
  obtain hother | hother := List.mem_append.1 hother
  · exact hlater other hother applies
  · obtain rfl := List.mem_singleton.1 hother
    exact later applies

/-! ## 3. Going through a filter -/

/-- The more particular of the directive so far and the next one. -/
theorem decisive?_concat (filter : Filter) (event : Event) (next : Directive) :
    decisive? (filter ++ [next]) event =
      if next.appliesTo event = true then
        match decisive? filter event with
        | none => some next
        | some best => if best.givesWayTo next then some next else some best
      else decisive? filter event := by
  unfold decisive?
  rw [List.filter_append, List.foldl_append]
  by_cases happlies : next.appliesTo event = true
  · have hlast : [next].filter (·.appliesTo event) = [next] := by simp [happlies]
    rw [hlast, if_pos happlies]
    rfl
  · have hlast : [next].filter (·.appliesTo event) = [] := by simp [happlies]
    rw [hlast, if_neg happlies]
    rfl

/-- By induction from the end of the filter: the next directive takes the
place of the one that decides so far, or leaves it where it is. -/
theorem decisive?_spec (filter : Filter) (event : Event) :
    (decisive? filter event = none ∧
        ∀ directive ∈ filter, directive.appliesTo event = false) ∨
      ∃ directive, decisive? filter event = some directive ∧ Decides event filter directive := by
  induction filter using List.reverseRecOn with
  | nil => exact .inl ⟨rfl, by simp⟩
  | append_singleton filter next ih =>
    rw [decisive?_concat]
    by_cases happlies : next.appliesTo event = true
    · rw [if_pos happlies]
      obtain ⟨hnone, hsilent⟩ | ⟨best, hbest, hdecides⟩ := ih
      · -- the first directive that applies
        rw [hnone]
        refine .inr ⟨next, rfl, .concat happlies fun other hother applies => ?_⟩
        rw [hsilent other hother] at applies
        cases applies
      · rw [hbest]
        by_cases hway : best.givesWayTo next = true
        · refine .inr ⟨next, if_pos hway, .concat happlies fun other hother applies => ?_⟩
          exact Directive.givesWayTo_trans (hdecides.givesWay hother applies) hway
        · exact .inr ⟨best, if_neg hway, hdecides.keep fun _ => Bool.not_eq_true _ ▸ hway⟩
    · rw [if_neg happlies]
      obtain ⟨hnone, hsilent⟩ | ⟨best, hbest, hdecides⟩ := ih
      · refine .inl ⟨hnone, fun other hother => ?_⟩
        obtain hother | hother := List.mem_append.1 hother
        · exact hsilent other hother
        · obtain rfl := List.mem_singleton.1 hother
          exact Bool.not_eq_true _ ▸ happlies
      · exact .inr ⟨best, hbest, hdecides.keep fun applies => absurd applies happlies⟩

/-- The other way round. In front of the directive that decides another one
may have been the most particular so far; behind it none takes its place. -/
theorem Decides.decisive? (h : Decides event filter directive) :
    Filter.decisive? filter event = some directive := by
  obtain ⟨applies, earlier, later⟩ := h
  rename_i before after
  induction after using List.reverseRecOn with
  | nil =>
    rw [decisive?_concat, if_pos applies]
    obtain ⟨hnone, -⟩ | ⟨best, hbest, hdecides⟩ := decisive?_spec before event
    · rw [hnone]
    · rw [hbest]
      exact if_pos (earlier best hdecides.mem hdecides.appliesTo)
  | append_singleton after next ih =>
    have hbefore := ih fun other hother => later other (List.mem_append_left _ hother)
    rw [← List.cons_append, ← List.append_assoc, decisive?_concat, hbefore]
    split
    · rename_i happlies
      have hkeeps := later next (by simp) happlies
      simp [hkeeps]
    · rfl

theorem decisive?_eq_some :
    decisive? filter event = some directive ↔ Decides event filter directive := by
  constructor
  · intro h
    obtain ⟨hnone, -⟩ | ⟨best, hbest, hdecides⟩ := decisive?_spec filter event
    · rw [hnone] at h
      cases h
    · rw [hbest] at h
      cases h
      exact hdecides
  · exact Decides.decisive?

/-- A filter shows the events that pass it. -/
theorem shows_iff {filter : Filter} {event : Event} :
    filter.shows event = true ↔ filter.Passes event := by
  simp only [shows, Passes, Option.any_eq_true, decisive?_eq_some]

/-- The level, the target and the fields of an event settle whether it
passes, and what else it tells does not. -/
theorem passes_congr {event event' : Event} (hlevel : event.level = event'.level)
    (htarget : event.target = event'.target) (hfields : event.fields = event'.fields)
    (filter : Filter) : filter.Passes event ↔ filter.Passes event' := by
  have happlies (directive : Directive) :
      directive.appliesTo event = directive.appliesTo event' := by
    rw [Directive.appliesTo, Directive.appliesTo, htarget, hfields]
  rw [← shows_iff, ← shows_iff, shows, shows, decisive?, decisive?, funext happlies, hlevel]

end Filter

end DatamodelTypes.Cli
