import SaasyMediaEngine.Transition.Machine

/-!
# What a machine may still reach

`M.MayReach goal s` says that some run from `s` ends at the goal: whoever schedules the threads
and answers for the environment can bring it about.  It is the part of a liveness property that
does not depend on fairness, and its negation is a deadlock.

* `MayReach.step`, `MayReach.trans` — one step first, and one goal on the way to another.
* `mayReach_of_rank` — the ranking rule: wherever the goal is not met yet, there is a step
  towards it.
* `MayReach.keeping` — an invariant on the way is there at the goal.
* `not_mayReach_of_trap` — a trap never leads out of itself.

What is proved with it is of the form "from every state without a deadlock the goal may be
reached, and from every other one it may not".  Fairness of a scheduler would turn the first half
into a guarantee; the second half needs none.
-/

namespace Transition.Machine

universe u v

variable {σ : Type u} {α : Type v} (M : Machine σ α)

/-- Some run leads to the goal.  This is not that every run does: the scheduler may have to be
kind. -/
def MayReach (goal : σ → Prop) (s : σ) : Prop := ∃ later t, M.run s later = some t ∧ goal t

variable {M} {goal motive : σ → Prop} {s t : σ} {a : α}

theorem MayReach.here (met : goal s) : M.MayReach goal s := ⟨[], s, rfl, met⟩

theorem MayReach.step (step : M.step s a = some t) (rest : M.MayReach goal t) :
    M.MayReach goal s := by
  obtain ⟨later, r, run, met⟩ := rest
  exact ⟨a :: later, r, M.run_cons_eq_some.mpr ⟨t, step, run⟩, met⟩

theorem MayReach.trans (first : M.MayReach motive s)
    (second : ∀ t, motive t → M.MayReach goal t) : M.MayReach goal s := by
  obtain ⟨later, t, run, met⟩ := first
  obtain ⟨last, r, run', met'⟩ := second t met
  exact ⟨later ++ last, r, M.run_append_eq_some.mpr ⟨t, run, run'⟩, met'⟩

theorem MayReach.mono (first : M.MayReach motive s) (implies : ∀ t, motive t → goal t) :
    M.MayReach goal s :=
  first.trans fun t met => .here (implies t met)

/-- An invariant on the way holds at the goal. -/
theorem MayReach.keeping (first : M.MayReach goal s)
    (preserved : ∀ s a t, motive s → M.step s a = some t → motive t) (start : motive s) :
    M.MayReach (fun t => goal t ∧ motive t) s := by
  obtain ⟨later, t, run, met⟩ := first
  exact ⟨later, t, run, met, M.invariant_of_run preserved start run⟩

/-- **The ranking rule.** Where the goal is not met some step lowers the rank, and keeps what the
next one needs. -/
theorem mayReach_of_rank (rank : σ → ℕ)
    (advances : ∀ s, motive s →
      goal s ∨ ∃ a t, M.step s a = some t ∧ motive t ∧ rank t < rank s)
    (start : motive s) : M.MayReach goal s := by
  obtain ⟨bound, hbound⟩ : ∃ bound, rank s < bound := ⟨_, Nat.lt_succ_self _⟩
  induction bound generalizing s with
  | zero => exact absurd hbound (Nat.not_lt_zero _)
  | succ bound ih =>
      obtain met | ⟨a, t, step, next, lower⟩ := advances s start
      · exact .here met
      · exact .step step (ih next (Nat.lt_of_lt_of_le lower (Nat.le_of_lt_succ hbound)))

/-- **A trap**, which no step leaves and in which the goal is nowhere met, does not lead out of
itself. -/
theorem not_mayReach_of_trap (preserved : ∀ s a t, motive s → M.step s a = some t → motive t)
    (excludes : ∀ s, motive s → ¬ goal s) (start : motive s) : ¬ M.MayReach goal s := by
  rintro ⟨later, t, run, met⟩
  exact excludes t (M.invariant_of_run preserved start run) met

end Transition.Machine
