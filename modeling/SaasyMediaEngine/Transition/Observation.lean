import SaasyMediaEngine.Transition.Machine

/-!
# What the steps of a run emit

A machine is watched through `emits`, a list of observations for each step.  Two things are
asked of the observations of a whole run: whether a second machine accepts them, one action
for each (`observed_of_simulation`), and where they are afterwards (`held_of_steps`).

The second machine is a specification of what may be observed: a language, given by the automaton
that accepts it.  The relation of a simulation may look at the whole state of the machine, as the
observations up to then are often only half of what has happened.  Conservation is the law behind
every "nothing is lost, doubled or reordered": it takes one equation about a step, and gives one
about a run.
-/

namespace Transition

namespace Machine

universe u v w x

variable {σ : Type u} {α : Type v} {β : Type w} {τ : Type x}
variable (M : Machine σ α) (emits : Taken σ α → List β)

/-- The observations of a run, in order. -/
def observed (s : σ) (actions : List α) : List β :=
  (M.transitions s actions).flatMap emits

theorem observed_cons {s t : σ} {a : α} (rest : List α) (step : M.step s a = some t) :
    M.observed emits s (a :: rest) = emits ⟨s, a, t⟩ ++ M.observed emits t rest := by
  rw [observed, M.transitions_cons rest step, List.flatMap_cons]
  rfl

/-- **Simulation.**  If `R` relates the states of `M` to those of `P`, and `P` follows each
step of `M` with the observations of that step, then `P` accepts the observations of a run. -/
theorem observed_of_simulation (P : Machine τ β) {R : σ → τ → Prop} {cond : σ → α → Prop}
    (simulates : ∀ s a t p, R s p → cond s a → M.step s a = some t →
      ∃ q, P.run p (emits ⟨s, a, t⟩) = some q ∧ R t q)
    {s t : σ} {p : τ} {actions : List α} (start : R s p)
    (reached : M.run s actions = some t) (meets : M.Meets cond s actions) :
    ∃ q, P.run p (M.observed emits s actions) = some q ∧ R t q := by
  induction actions generalizing s p with
  | nil =>
      cases reached
      exact ⟨p, rfl, start⟩
  | cons a rest ih =>
      obtain ⟨r, step, later⟩ := M.run_cons_eq_some.mp reached
      obtain ⟨here, others⟩ := (M.meets_cons step).mp meets
      obtain ⟨q, follows, related⟩ := simulates s a r p start here step
      obtain ⟨q', accepts, final⟩ := ih related later others
      refine ⟨q', ?_, final⟩
      rw [M.observed_cons emits rest step]
      exact P.run_append_eq_some.mpr ⟨q, follows, accepts⟩

/-- **Conservation.**  What each step adds to the end of `held` is what it emits: then `held`
has grown by the observations of the run. -/
theorem held_of_steps (held : σ → List β)
    (grows : ∀ s a t, M.step s a = some t → held t = held s ++ emits ⟨s, a, t⟩)
    {s t : σ} {actions : List α} (reached : M.run s actions = some t) :
    held t = held s ++ M.observed emits s actions := by
  induction actions generalizing s with
  | nil =>
      cases reached
      exact (List.append_nil _).symm
  | cons a rest ih =>
      obtain ⟨r, step, later⟩ := M.run_cons_eq_some.mp reached
      rw [M.observed_cons emits rest step, ih later, grows s a r step, List.append_assoc]

end Machine

end Transition
