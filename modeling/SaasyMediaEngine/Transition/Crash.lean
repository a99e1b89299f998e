import SaasyMediaEngine.Transition.Machine
import SaasyMediaEngine.Transition.Program

/-!
# Operations that may crash

An operation is partial in two ways: it may be not enabled, and it may crash.  A machine whose
states are `Except ε σ` keeps them apart: after a crash, nothing is enabled any more.  A run
`Survives` if it ends in a state, and `survives_iff` reduces that to a condition under which a
single operation does not crash.

`Program.attempt` is the course of a program whose operations may crash.  A program that
performs only operations that do not is executed as usual (`attempt_of_follows`).

The condition of the rule is one on a state and an operation, and it must be exact for one step at
a time: if an operation crashes exactly when the condition fails, then a run survives exactly when
every operation in it meets the condition in the state it finds.
-/

namespace Transition

universe u v w x y

/-- Operations on a state, up to the first crash.  A state is `ok` or the error it has crashed
with, and nothing happens after that. -/
def crashing {σ : Type u} {α : Type v} {ε : Type w} (init : Except ε σ)
    (operate : α → σ → Except ε σ) : Machine (Except ε σ) α where
  init := init
  step s a :=
    match s with
    | .ok s => some (operate a s)
    | .error _ => none

section

variable {σ : Type u} {α : Type v} {ε : Type w} {init : Except ε σ}
  {operate : α → σ → Except ε σ}

/-- No operation crashes, the initial one included. -/
def Survives (init : Except ε σ) (operate : α → σ → Except ε σ) (actions : List α) : Prop :=
  ∃ s, (crashing init operate).run init actions = some (.ok s)

/-- A condition on the states that are no crash; of a state that is one it asks nothing. -/
def OnState (cond : σ → α → Prop) (s : Except ε σ) (a : α) : Prop :=
  ∀ state, s = .ok state → cond state a

theorem run_error {actions : List α} {e : ε} {s : σ} :
    (crashing init operate).run (.error e) actions ≠ some (.ok s) := by
  cases actions with
  | nil => exact fun run => by cases run
  | cons a rest => exact fun run => by cases run

/-- **The exactness rule for crashes.** If one operation survives exactly under a condition, a
sequence does if it meets the condition throughout. -/
theorem survives_iff (cond : σ → α → Prop)
    (exact_step : ∀ s a, (∃ t, operate a s = .ok t) ↔ cond s a) (s : σ) (actions : List α) :
    Survives (.ok s) operate actions ↔
      (crashing (.ok s) operate).Meets (OnState cond) (.ok s) actions := by
  suffices general : ∀ init, (∃ t, (crashing init operate).run (.ok s) actions = some (.ok t)) ↔
      (crashing init operate).Meets (OnState cond) (.ok s) actions from general _
  intro init
  induction actions generalizing s with
  | nil => exact iff_of_true ⟨s, rfl⟩ (List.forall_mem_nil _)
  | cons a rest ih =>
      have step : (crashing init operate).step (.ok s) a = some (operate a s) := rfl
      have here : OnState cond (.ok s : Except ε σ) a ↔ cond s a :=
        ⟨fun on => on s rfl, fun holds _ same => Except.ok.inj same ▸ holds⟩
      rw [Machine.meets_cons _ step, here, ← exact_step s a, Machine.run_cons, step]
      cases result : operate a s with
      | ok t =>
          exact (ih t).trans (and_iff_right ⟨t, rfl⟩).symm
      | error e =>
          refine iff_of_false (fun run => ?_) fun survives => ?_
          · exact run.elim fun t run => run_error run
          · obtain ⟨⟨t, same⟩, -⟩ := survives
            cases same

/-- Operations that never crash. -/
theorem survives_of_total (total : ∀ s a, ∃ t, operate a s = .ok t) (s : σ) (actions : List α) :
    Survives (.ok s) operate actions :=
  (survives_iff (fun _ _ => True) (fun s a => iff_of_true (total s a) trivial) s
    actions).mpr fun _ _ _ _ => trivial

end

namespace Program

variable {Op : Type u} {σ : Type v} {ω : Type w} {α β : Type x} {ε : Type v} {κ : Type y}

/-- The course of a program that is alone with the state, if no operation crashes. -/
def attempt (operate : Op → σ → Except ε σ) : Program Op σ ω α → σ → Except ε (Ended σ ω α)
  | done result, s => .ok ⟨s, [], result⟩
  | look next, s => (next s).attempt operate s
  | perform op next, s =>
      match operate op s with
      | .ok s => next.attempt operate s
      | .error e => .error e
  | emit output next, s =>
      (next.attempt operate s).map fun ended => { ended with outputs := output :: ended.outputs }

/-- Operations that the protocol of a program allows, and that do not crash: the program ends as it
would without crashes. -/
theorem attempt_of_follows {operate : Op → σ → Except ε σ} {apply : Op → σ → σ}
    {δ : κ → Op ⊕ ω → Option κ} {k : κ} {p : Program Op σ ω α} {post : α → κ → Prop}
    (follows : p.Follows δ k post)
    (total : ∀ k op k', δ k (.inl op) = some k' → ∀ s, operate op s = .ok (apply op s)) (s : σ) :
    p.attempt operate s = .ok (p.exec apply s) := by
  induction p generalizing k s with
  | done result => rfl
  | look next ih => exact ih s (follows s) s
  | perform op next ih =>
      obtain ⟨k', accepted, rest⟩ := follows
      unfold attempt
      rw [total k op k' accepted s]
      exact ih rest _
  | emit output next ih =>
      obtain ⟨k', -, rest⟩ := follows
      unfold attempt
      rw [ih rest s]
      rfl

end Program

end Transition
