import SaasyMediaEngine.Transition.Progress

/-!
# Objects that are tested before they are used

An owner releases objects that other threads use.  A thread tests whether an object is there, goes
on, and uses it some steps later; in between it has the object in use.  `Tenure` is what has to be
known of such a machine: uses come behind tests, a test finds the object alive, nothing comes back
once it was released, and a thread that has an object in use may go on to its use.

* `alive_of_uses` — as long as nothing is released that is in use, whatever is used is alive.
* `mayMisuse_iff` — a released object may still be used exactly when some thread has it in use.

The three facts about a machine are those of the pattern "test, then use" without a lock.  None of
them says that it is safe, and in general it is not; the two theorems say exactly when.  A program
that is only known by what it will do, such as the rest of a command, has an object in use if
every way on from here uses it, and the machine has to say so (`InUse`).
-/

namespace Transition

universe u v w

variable {σ : Type u} {α : Type v}

/-- Objects, their users, and the owner who releases them.  A user tests the object in one step and
uses it in a later one, and the owner may come between. -/
structure Tenure (M : Machine σ α) (ι : Type w) where
  alive : σ → ι → Prop
  /-- Some thread has tested the object, and has not used it yet. -/
  inUse : σ → ι → Prop
  uses : σ → α → ι → Prop
  Invariant : σ → Prop
  start : Invariant M.init
  preserved : ∀ s a t, Invariant s → M.step s a = some t → Invariant t
  alive_init : ∀ i, inUse M.init i → alive M.init i
  alive_of_step : ∀ {s a t i}, Invariant s → M.step s a = some t → alive t i → alive s i
  inUse_of_uses : ∀ {s a t i}, Invariant s → M.step s a = some t → uses s a i → inUse s i
  alive_of_test : ∀ {s a t i}, Invariant s → M.step s a = some t → ¬ inUse s i → inUse t i →
    alive t i
  mayUse : ∀ {s i}, Invariant s → ¬ alive s i → inUse s i →
    M.MayReach (fun s => ∃ a t, M.step s a = some t ∧ uses s a i) s

namespace Tenure

variable {M : Machine σ α} {ι : Type w} (T : Tenure M ι)

/-- The next step may use an object that was released. -/
def Misuses (i : ι) (s : σ) : Prop :=
  ¬ T.alive s i ∧ ∃ a t, M.step s a = some t ∧ T.uses s a i

/-- The step releases nothing that is in use behind it.  It may release what its own actor has just
stopped using. -/
def ReleasesUnused (s : σ) (a : α) : Prop :=
  ∀ t i, M.step s a = some t → T.alive s i → T.inUse t i → T.alive t i

/-- What is in use is alive. -/
def Sound (s : σ) : Prop := ∀ i, T.inUse s i → T.alive s i

variable {T} {s t : σ} {a : α} {i : ι}

theorem invariant_of_reachable (reached : M.Reachable s) : T.Invariant s :=
  M.invariant T.start T.preserved reached

/-- **Step.** What is in use stays alive if the step releases nothing that is in use, as a test
only succeeds on what is alive. -/
theorem Sound.step (sound : T.Sound s) (invariant : T.Invariant s)
    (releases : T.ReleasesUnused s a) (step : M.step s a = some t) : T.Sound t := by
  intro i inUse
  by_cases before : T.inUse s i
  · exact releases t i step (sound i before) inUse
  · exact T.alive_of_test invariant step before inUse

/-- **Run.** Nothing is used that was released, as long as nothing is released in use. -/
theorem alive_of_uses {actions : List α} (meets : M.Meets T.ReleasesUnused M.init actions) :
    ∀ taken ∈ M.transitions M.init actions,
      ∀ i, T.uses taken.before taken.action i → T.alive taken.before i := by
  have preserved : ∀ s a t, T.Invariant s ∧ T.Sound s → T.ReleasesUnused s a →
      M.step s a = some t → T.Invariant t ∧ T.Sound t := by
    rintro s a t ⟨invariant, sound⟩ releases step
    exact ⟨T.preserved s a t invariant step, sound.step invariant releases step⟩
  intro taken mem i uses
  obtain ⟨⟨invariant, sound⟩, -, step⟩ :=
    M.transitions_of_meets preserved ⟨T.start, T.alive_init⟩ meets taken mem
  exact sound i (T.inUse_of_uses invariant step uses)

/-- **A released object** may be used exactly when it is in use: its user goes on, and nobody tests
it again with success. -/
theorem mayMisuse_iff (reached : M.Reachable s) (released : ¬ T.alive s i) :
    M.MayReach (T.Misuses i) s ↔ T.inUse s i := by
  have invariant : T.Invariant s := invariant_of_reachable reached
  constructor
  · intro misused
    by_contra unused
    refine Machine.not_mayReach_of_trap
      (motive := fun s => T.Invariant s ∧ ¬ T.alive s i ∧ ¬ T.inUse s i) ?_ ?_
      ⟨invariant, released, unused⟩ misused
    · rintro s a t ⟨invariant, released, unused⟩ step
      have still : ¬ T.alive t i := fun alive =>
        released (T.alive_of_step invariant step alive)
      exact ⟨T.preserved s a t invariant step, still,
        fun inUse => still (T.alive_of_test invariant step unused inUse)⟩
    · rintro s ⟨invariant, -, unused⟩ ⟨-, a, t, step, uses⟩
      exact unused (T.inUse_of_uses invariant step uses)
  · intro inUse
    have gone : ∀ s a t, T.Invariant s ∧ ¬ T.alive s i → M.step s a = some t →
        T.Invariant t ∧ ¬ T.alive t i := by
      rintro s a t ⟨invariant, released⟩ step
      exact ⟨T.preserved s a t invariant step,
        fun alive => released (T.alive_of_step invariant step alive)⟩
    refine ((T.mayUse invariant released inUse).keeping gone ⟨invariant, released⟩).mono ?_
    rintro t ⟨uses, -, released⟩
    exact ⟨released, uses⟩

end Tenure

end Transition
