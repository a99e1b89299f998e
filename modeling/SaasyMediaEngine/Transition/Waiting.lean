import SaasyMediaEngine.Transition.Machine

/-!
# Waiting on a condition variable

One thread loops around `wait(lock, ready)`, others change what `ready` looks at and notify it
afterwards.  A `WaitLoop` leaves the condition variable out: there `wait` returns as soon as
`ready` holds.  `sleeping` takes `wait` apart.  The thread takes the mutex and tests `ready`; if
the test fails it falls asleep, which gives the mutex back, until it is notified or wakes up by
itself.  A change and its notification are two steps, and only a guarded change waits for the
mutex.

* `reachable_base` — the thread that sleeps refines the one that does not.
* `Sound` — a sleeping thread has missed nothing, or a notification is on its way;
  `Sound.moved` keeps it as long as no unguarded change falls between the test and the sleep.
* `exists_stuck` — one that does is lost.
* `exists_advanced` — a thread that has missed nothing goes on.

A `QueueWait` waits for a queue to be filled or for a flag to be reset, the queue under the
mutex and the flag without.
-/

namespace Transition

universe u v

/-- Where a thread in `wait` is.  Between `testing` and `asleep` it has the mutex, and what it has
seen cannot be changed by those who take it. -/
inductive WaitPhase where
  /-- At the mutex. -/
  | entering
  /-- It has the mutex, and is about to test. -/
  | testing
  /-- The test has failed, and it has the mutex still. -/
  | failed
  | asleep
  deriving DecidableEq

/-- A thread that waits, and what others do in the meantime.  `advance` and `change` know nothing
of mutexes and notifications; `sleeping` adds these. -/
structure WaitLoop (σ : Type u) (χ : Type v) where
  init : σ
  /-- The thread is in `wait`. -/
  waiting : σ → Bool
  /-- What it waits for. -/
  ready : σ → Bool
  /-- Its next step, which in `wait` is the return. -/
  advance : σ → Option σ
  change : σ → χ → Option σ
  /-- The change is made under the mutex. -/
  guarded : χ → Bool
  /-- A notification follows. -/
  notifies : σ → χ → Bool
  waiting_init : waiting init = false
  waiting_change : ∀ {s t c}, change s c = some t → waiting t = waiting s

structure Sleeping (σ : Type u) where
  base : σ
  /-- Where the thread is, if it is in `wait`. -/
  phase : WaitPhase
  /-- The notifications that are still to come. -/
  notifications : ℕ

inductive SleepingAction (χ : Type v) where
  /-- The thread goes on. -/
  | thread
  /-- It wakes up by itself. -/
  | wakes
  | change (c : χ)
  | notify

namespace WaitLoop

variable {σ : Type u} {χ : Type v} (W : WaitLoop σ χ)

/-- The thread and the changes, interleaved, as if `wait` returned as soon as it can; `none` is a
step of the thread. -/
def plain : Machine σ (Option χ) where
  init := W.init
  step s
    | none => W.advance s
    | some c => W.change s c

/-- The thread has the mutex because of `wait`. -/
def holdsMutex (s : Sleeping σ) : Bool :=
  W.waiting s.base && (s.phase == .testing || s.phase == .failed)

/-- The thread sleeps in `wait`. -/
def Asleep (s : Sleeping σ) : Prop := W.waiting s.base = true ∧ s.phase = .asleep

instance (s : Sleeping σ) : Decidable (W.Asleep s) := inferInstanceAs (Decidable (_ ∧ _))

def stepThread (s : Sleeping σ) : Option (Sleeping σ) :=
  if W.waiting s.base then
    match s.phase with
    | .entering => some { s with phase := .testing }
    | .testing =>
        if W.ready s.base then
          (W.advance s.base).map fun base => { s with base, phase := .entering }
        else some { s with phase := .failed }
    | .failed => some { s with phase := .asleep }
    | .asleep => none
  else (W.advance s.base).map fun base => { s with base, phase := .entering }

/-- One step, if it is enabled. -/
def stepSleeping (s : Sleeping σ) : SleepingAction χ → Option (Sleeping σ)
  | .thread => W.stepThread s
  | .wakes => if W.Asleep s then some { s with phase := .entering } else none
  | .change c =>
      if W.guarded c && W.holdsMutex s then none
      else
        (W.change s.base c).map fun base =>
          { s with base, notifications := s.notifications + (W.notifies s.base c).toNat }
  | .notify =>
      if 0 < s.notifications then
        some { s with
          notifications := s.notifications - 1
          phase := if W.Asleep s then .entering else s.phase }
      else none

/-- The same with a condition variable, its mutex, and notifications that may be late. -/
def sleeping : Machine (Sleeping σ) (SleepingAction χ) where
  init := ⟨W.init, .entering, 0⟩
  step := W.stepSleeping

/-! ### What a step can do

The steps as an inductive relation, with the tests that were passed; everything below is proved by
cases on it. -/

/-- The steps of everybody: the five of the thread, a change, and a notification, which wakes the
thread if it is asleep and is lost if it is not. -/
inductive Moved (s : Sleeping σ) : SleepingAction χ → Sleeping σ → Prop
  | enters (waiting : W.waiting s.base = true) (phase : s.phase = .entering) :
      Moved s .thread { s with phase := .testing }
  | fails (waiting : W.waiting s.base = true) (phase : s.phase = .testing)
      (unready : W.ready s.base = false) : Moved s .thread { s with phase := .failed }
  | fallsAsleep (waiting : W.waiting s.base = true) (phase : s.phase = .failed) :
      Moved s .thread { s with phase := .asleep }
  /-- `wait` returns, or the thread is elsewhere. -/
  | advances {base : σ} (advanced : W.advance s.base = some base) :
      Moved s .thread { s with base, phase := .entering }
  | wakes (asleep : W.Asleep s) : Moved s .wakes { s with phase := .entering }
  | changes {c : χ} {base : σ} (free : W.guarded c = true → W.holdsMutex s = false)
      (changed : W.change s.base c = some base) :
      Moved s (.change c)
        { s with base, notifications := s.notifications + (W.notifies s.base c).toNat }
  | notifies (pending : 0 < s.notifications) :
      Moved s .notify { s with
        notifications := s.notifications - 1
        phase := if W.Asleep s then .entering else s.phase }

variable {W} {s t : Sleeping σ} {action : SleepingAction χ}

theorem step_moved (step : W.stepSleeping s action = some t) : W.Moved s action t := by
  cases action with
  | thread =>
      change W.stepThread s = some t at step
      unfold stepThread at step
      by_cases waiting : W.waiting s.base = true
      · rw [if_pos waiting] at step
        split at step
        case h_1 phase =>
          cases step
          exact .enters waiting phase
        case h_2 phase =>
          by_cases ready : W.ready s.base = true
          · rw [if_pos ready] at step
            obtain ⟨base, advanced, rfl⟩ := Option.map_eq_some_iff.mp step
            exact .advances advanced
          · rw [if_neg ready] at step
            cases step
            exact .fails waiting phase (eq_false_of_ne_true ready)
        case h_3 phase =>
          cases step
          exact .fallsAsleep waiting phase
        case h_4 => cases step
      · rw [if_neg waiting] at step
        obtain ⟨base, advanced, rfl⟩ := Option.map_eq_some_iff.mp step
        exact .advances advanced
  | wakes =>
      obtain ⟨asleep, ⟨⟩⟩ := Option.ite_none_right_eq_some.mp step
      exact .wakes asleep
  | change c =>
      obtain ⟨free, mapped⟩ := Option.ite_none_left_eq_some.mp step
      obtain ⟨base, changed, rfl⟩ := Option.map_eq_some_iff.mp mapped
      exact .changes (fun guarded => by simpa [guarded] using free) changed
  | notify =>
      obtain ⟨pending, ⟨⟩⟩ := Option.ite_none_right_eq_some.mp step
      exact .notifies pending

/-- A change leaves the thread where it is. -/
theorem changed_of_step {c : χ} (step : W.sleeping.step s (.change c) = some t) :
    W.change s.base c = some t.base ∧ t.phase = s.phase := by
  have moved : W.Moved s (.change c) t := step_moved step
  cases moved with
  | changes _ changed => exact ⟨changed, rfl⟩

/-! ### The refinement

Forgetting the phase and the notifications takes each step to a step of the plain machine, or to
none. -/

/-- A step of the thread that sleeps is one of the thread that does not, or none. -/
theorem Moved.base (moved : W.Moved s action t) :
    t.base = s.base ∨ ∃ plain, W.plain.step s.base plain = some t.base := by
  cases moved with
  | advances advanced => exact .inr ⟨none, advanced⟩
  | changes _ changed => exact .inr ⟨some _, changed⟩
  | _ => exact .inl rfl

/-- **The thread that sleeps refines the one that does not.** Whatever is an invariant without the
condition variable is one with it. -/
theorem reachable_base (reached : W.sleeping.Reachable s) : W.plain.Reachable s.base := by
  refine W.sleeping.invariant (motive := fun s => W.plain.Reachable s.base) ⟨[], rfl⟩ ?_ reached
  intro s action t before step
  obtain same | ⟨plain, stepped⟩ := (step_moved step).base
  · rw [same]
    exact before
  · exact before.step stepped

/-! ### What a sleeping thread knows

The invariant is about the two moments at which the thread relies on its last test: when the test
has failed, and when it sleeps.  In the first `p` does not hold; in the second it may, if somebody
is about to say so. -/

/-- What the thread waits for has not come up, or a notification is on its way.  `p` is all that
it waits for, or a part of it. -/
structure Sound (W : WaitLoop σ χ) (p : σ → Prop) (s : Sleeping σ) : Prop where
  failed : W.waiting s.base = true → s.phase = .failed → ¬ p s.base
  asleep : W.Asleep s → p s.base → 0 < s.notifications

/-- The step does not bring `p` up between the test and the sleep. -/
def Undisturbed (W : WaitLoop σ χ) (p : σ → Prop) (s : Sleeping σ) : SleepingAction χ → Prop
  | .change c =>
      W.waiting s.base = true → s.phase = .failed → W.guarded c = false →
        ∀ t, W.change s.base c = some t → ¬ p t
  | _ => True

/-- `p` is waited for, and does not come up without a notification.  A thread may await several
such things at a time. -/
structure Awaits (W : WaitLoop σ χ) (p : σ → Prop) : Prop where
  ready : ∀ {s}, p s → W.ready s = true
  notified : ∀ {s t c}, W.change s c = some t → W.notifies s c = false → p t → p s

variable {p : σ → Prop}

/-- **What a step preserves.** The one case with an argument is a change while the thread has the
mutex: a guarded one has to wait, and of the others `Undisturbed` speaks. -/
theorem Sound.moved (awaits : W.Awaits p) (sound : W.Sound p s) (calm : W.Undisturbed p s action)
    (moved : W.Moved s action t) : W.Sound p t := by
  cases moved with
  | enters | advances | wakes => exact ⟨nofun, fun asleep => by cases asleep.2⟩
  | fails waiting phase unready =>
      refine ⟨fun _ _ holds => ?_, fun asleep => by cases asleep.2⟩
      rw [awaits.ready holds] at unready
      cases unready
  | fallsAsleep waiting phase =>
      exact ⟨nofun, fun _ holds => absurd holds (sound.failed waiting phase)⟩
  | @changes c base free changed =>
      have same := W.waiting_change changed
      refine ⟨fun waiting phase => ?_, fun asleep holds => ?_⟩
      · have waited := same.symm.trans waiting
        cases guarded : W.guarded c with
        | true =>
            -- the thread has the mutex
            have unlocked := free guarded
            simp [holdsMutex, waited, show s.phase = .failed from phase] at unlocked
        | false => exact calm waited phase guarded base changed
      · cases notifies : W.notifies s.base c with
        | true => exact Nat.succ_pos _
        | false =>
            have before : W.Asleep s := ⟨same.symm.trans asleep.1, asleep.2⟩
            exact sound.asleep before (awaits.notified changed notifies holds)
  | notifies pending =>
      refine ⟨fun waiting phase => ?_, fun asleep => ?_⟩
      · refine sound.failed waiting ?_
        by_contra elsewhere
        split_ifs at phase
        exact elsewhere phase
      · obtain ⟨waiting, phase⟩ := asleep
        split_ifs at phase with awakened
        exact absurd ⟨waiting, phase⟩ awakened

theorem sound_init (W : WaitLoop σ χ) (p : σ → Prop) : W.Sound p W.sleeping.init where
  failed waiting := by cases W.waiting_init.symm.trans waiting
  asleep asleep := by cases asleep.2

/-- What only comes up under the mutex is never missed. -/
theorem undisturbed_of_guarded
    (guarded : ∀ {s t c}, W.change s c = some t → W.guarded c = false → p t → p s)
    (sound : W.Sound p s) : W.Undisturbed p s action := by
  cases action with
  | change c =>
      intro waiting phase unguarded t changed holds
      exact sound.failed waiting phase (guarded changed unguarded holds)
  | _ => trivial

theorem sound_of_guarded (awaits : W.Awaits p)
    (guarded : ∀ {s t c}, W.change s c = some t → W.guarded c = false → p t → p s)
    (reached : W.sleeping.Reachable s) : W.Sound p s :=
  W.sleeping.invariant (sound_init W p)
    (fun _ _ _ sound step => sound.moved awaits (undisturbed_of_guarded guarded sound)
      (step_moved step)) reached

theorem Sound.not_of_asleep (sound : W.Sound p s) (asleep : W.Asleep s)
    (none : s.notifications = 0) : ¬ p s.base := by
  intro holds
  have pending := sound.asleep asleep holds
  omega

/-! ### Lost wakeups

A notification only reaches a thread that is asleep.  One that comes while the thread is between
its test and its sleep is spent, and what it was about is slept over until somebody else notifies.
-/

/-- The notifications that are on their way arrive, and find nobody asleep. -/
theorem run_notify (awake : ¬ W.Asleep s) :
    W.sleeping.run s (List.replicate s.notifications .notify) =
      some { s with notifications := 0 } := by
  obtain ⟨base, phase, n⟩ := s
  induction n with
  | zero => rfl
  | succ n ih =>
      have step : W.sleeping.step ⟨base, phase, n + 1⟩ .notify = some ⟨base, phase, n⟩ := by
        change W.stepSleeping ⟨base, phase, n + 1⟩ .notify = _
        rw [stepSleeping, if_pos (Nat.succ_pos n), if_neg awake]
        rfl
      show W.sleeping.run _ (.notify :: List.replicate n .notify) = _
      rw [Machine.run_cons, step]
      exact ih awake

/-- **A change between the test and the sleep is lost**: the thread can get to sleep with
nothing left to wake it. -/
theorem exists_stuck (waiting : W.waiting s.base = true) (failed : s.phase = .failed) :
    ∃ later t, W.sleeping.run s later = some t ∧ W.Asleep t ∧ t.notifications = 0 ∧
      t.base = s.base := by
  have awake : ¬ W.Asleep s := fun asleep => by cases failed.symm.trans asleep.2
  refine ⟨List.replicate s.notifications .notify ++ [.thread],
    { s with notifications := 0, phase := .asleep },
    W.sleeping.run_concat (run_notify awake) ?_, ⟨waiting, rfl⟩, rfl, rfl⟩
  show W.stepThread _ = _
  simp [stepThread, waiting, failed]

/-- A thread that has missed nothing, or is about to be notified, gets to test. -/
theorem exists_testing (waiting : W.waiting s.base = true) (sound : W.Sound p s)
    (holds : p s.base) :
    ∃ later t, W.sleeping.run s later = some t ∧ t.base = s.base ∧ t.phase = .testing := by
  have entered {t : Sleeping σ} (waiting : W.waiting t.base = true) (phase : t.phase = .entering) :
      W.sleeping.step t .thread = some { t with phase := .testing } := by
    show W.stepThread t = _
    simp [stepThread, waiting, phase]
  cases phase : s.phase with
  | entering =>
      exact ⟨[.thread], { s with phase := .testing },
        W.sleeping.run_cons_eq_some.mpr ⟨_, entered waiting phase, rfl⟩, rfl, rfl⟩
  | testing => exact ⟨[], s, rfl, rfl, phase⟩
  | failed => exact absurd holds (sound.failed waiting phase)
  | asleep =>
      have asleep : W.Asleep s := ⟨waiting, phase⟩
      have notified : W.sleeping.step s .notify =
          some { s with notifications := s.notifications - 1, phase := .entering } := by
        change W.stepSleeping s .notify = _
        rw [stepSleeping, if_pos (sound.asleep asleep holds), if_pos asleep]
      exact ⟨[.notify, .thread],
        { s with notifications := s.notifications - 1, phase := .testing },
        W.sleeping.run_cons_eq_some.mpr ⟨_, notified,
          W.sleeping.run_cons_eq_some.mpr ⟨_, entered waiting rfl, rfl⟩⟩, rfl, rfl⟩

/-- **A thread that has missed nothing goes on** as it does without the condition variable, after a
notification if it is asleep. -/
theorem exists_advanced (awaits : W.Awaits p) (sound : W.Sound p s) (holds : p s.base) {base : σ}
    (advanced : W.advance s.base = some base) :
    ∃ later t, W.sleeping.run s later = some t ∧ t.base = base ∧ t.phase = .entering := by
  by_cases waiting : W.waiting s.base = true
  · obtain ⟨later, t, run, same, phase⟩ := exists_testing waiting sound holds
    have returns : W.sleeping.step t .thread = some { t with base, phase := .entering } := by
      change W.stepThread t = _
      simp [stepThread, same, waiting, phase, awaits.ready holds, advanced]
    exact ⟨_, _, W.sleeping.run_concat run returns, rfl, rfl⟩
  · have step : W.sleeping.step s .thread = some { s with base, phase := .entering } := by
      change W.stepThread s = _
      simp [stepThread, waiting, advanced]
    exact ⟨[.thread], _, W.sleeping.run_cons_eq_some.mpr ⟨_, step, rfl⟩, rfl, rfl⟩

end WaitLoop

/-! ### Waiting for a queue

The usual case.  What fills the queue takes the mutex, so the queue is never missed; what resets
the flag does not, so the flag may be. -/

/-- The thread waits for something in a queue, or for the flag to be reset.  The queue is filled
under the mutex, and the flag may be reset without it. -/
structure QueueWait (σ : Type u) (χ : Type v) extends WaitLoop σ χ where
  queued : σ → Bool
  running : σ → Bool
  exited : σ → Bool
  /-- The change that resets the flag. -/
  stop : χ
  ready_eq : ∀ s, ready s = (queued s || !running s)
  queued_change : ∀ {s t c}, change s c = some t → queued t = true →
    queued s = true ∨ guarded c = true ∧ notifies s c = true
  running_change : ∀ {s t c}, change s c = some t → running t = running s ∨ c = stop
  running_stop : ∀ {s t}, change s stop = some t → running t = false
  notifies_stop : ∀ {s}, running s = true → notifies s stop = true
  running_advance : ∀ {s t}, advance s = some t → running t = running s
  /-- Once the flag is reset the thread finds its end. -/
  finishes : ∀ {s}, running s = false →
    ∃ n t, toWaitLoop.plain.run s (List.replicate n none) = some t ∧ exited t = true

namespace QueueWait

open WaitLoop

variable {σ : Type u} {χ : Type v} (W : QueueWait σ χ)

/-- Something is queued, or the flag is reset. -/
def Called (s : σ) : Prop := W.queued s = true ∨ W.running s = false

/-- The flag is not reset between the test and the sleep. -/
def StopsOutside (s : Sleeping σ) : SleepingAction χ → Prop
  | .change c => c = W.stop → ¬ (W.waiting s.base = true ∧ s.phase = .failed)
  | _ => True

variable {W} {s t : Sleeping σ}

theorem awaits_queued : W.Awaits fun s => W.queued s = true where
  ready queued := by rw [W.ready_eq, queued, Bool.true_or]
  notified changed silent queued := by
    obtain before | ⟨-, notifies⟩ := W.queued_change changed queued
    · exact before
    · cases silent.symm.trans notifies

theorem awaits_called : W.Awaits W.Called where
  ready {s} called := by
    obtain queued | stopped := called
    · exact awaits_queued.ready queued
    · rw [W.ready_eq, stopped, Bool.not_false, Bool.or_true]
  notified {s t c} changed silent called := by
    refine called.imp (awaits_queued.notified changed silent) fun stopped => ?_
    obtain same | rfl := W.running_change changed
    · exact same.symm.trans stopped
    · by_contra running
      cases silent.symm.trans (W.notifies_stop (eq_true_of_ne_false running))

/-- **The thread never sleeps over the queue**, as what fills it takes the mutex and notifies
afterwards. -/
theorem not_queued_of_asleep (reached : W.sleeping.Reachable s) (asleep : W.Asleep s)
    (none : s.notifications = 0) : W.queued s.base = false := by
  have sound := sound_of_guarded awaits_queued
    (fun changed unguarded queued => (W.queued_change changed queued).resolve_right
      fun ⟨guarded, _⟩ => by cases unguarded.symm.trans guarded) reached
  exact eq_false_of_ne_true (sound.not_of_asleep asleep none)

/-- A step that does not reset the flag in the wrong moment brings nothing up there. -/
theorem StopsOutside.undisturbed {action : SleepingAction χ} (outside : W.StopsOutside s action)
    (sound : W.Sound W.Called s) : W.Undisturbed W.Called s action := by
  cases action with
  | change c =>
      intro waiting failed unguarded t changed called
      refine sound.failed waiting failed (called.imp (fun queued => ?_) fun stopped => ?_)
      · refine (W.queued_change changed queued).resolve_right fun ⟨guarded, _⟩ => ?_
        cases unguarded.symm.trans guarded
      · obtain same | stops := W.running_change changed
        · exact same.symm.trans stopped
        · exact absurd ⟨waiting, failed⟩ (outside stops)
  | _ => trivial

theorem sound_of_outside {actions : List (SleepingAction χ)}
    (reached : W.sleeping.run W.sleeping.init actions = some s)
    (outside : W.sleeping.Meets W.StopsOutside W.sleeping.init actions) : W.Sound W.Called s :=
  W.sleeping.invariant_of_meets
    (fun _ _ _ sound outside step => sound.moved awaits_called (outside.undisturbed sound)
      (step_moved step)) (sound_init _ _) reached outside

/-- **Nor over the flag**, if it is not reset in the wrong moment: between the test of the thread
and its sleep. -/
theorem running_of_asleep {actions : List (SleepingAction χ)}
    (reached : W.sleeping.run W.sleeping.init actions = some s)
    (outside : W.sleeping.Meets W.StopsOutside W.sleeping.init actions) (asleep : W.Asleep s)
    (none : s.notifications = 0) : W.running s.base = true :=
  eq_true_of_ne_false fun stopped =>
    (sound_of_outside reached outside).not_of_asleep asleep none (.inr stopped)

/-- Reset in the wrong moment, it is slept over: the notification finds nobody asleep, and no other
one has to come. -/
theorem exists_overslept {action : SleepingAction χ} (early : ¬ W.StopsOutside s action)
    (step : W.sleeping.step s action = some t) :
    ∃ later u, W.sleeping.run t later = some u ∧ W.Asleep u ∧ u.notifications = 0 ∧
      W.running u.base = false := by
  cases action with
  | change c =>
      obtain ⟨rfl, waiting, failed⟩ :
          c = W.stop ∧ W.waiting s.base = true ∧ s.phase = .failed := by
        by_contra outside
        exact early fun stops inside => outside ⟨stops, inside⟩
      obtain ⟨changed, phase⟩ := changed_of_step step
      obtain ⟨later, u, run, asleep, none, same⟩ :=
        exists_stuck ((W.waiting_change changed).trans waiting) (phase.trans failed)
      exact ⟨later, u, run, asleep, none, (congrArg W.running same).trans
        (W.running_stop changed)⟩
  | _ => exact absurd trivial early

/-- **The thread ends** once the flag is reset, if it has missed nothing.  What it still has to do
is what it does without the condition variable. -/
theorem exists_exited (sound : W.Sound W.Called s) (stopped : W.running s.base = false) :
    ∃ later t, W.sleeping.run s later = some t ∧ W.exited t.base = true := by
  obtain ⟨n, final, run, exited⟩ := W.finishes stopped
  induction n generalizing s with
  | zero =>
      cases run
      exact ⟨[], s, rfl, exited⟩
  | succ n ih =>
      obtain ⟨base, advanced, rest⟩ := W.plain.run_cons_eq_some.mp run
      obtain ⟨first, r, reaches, rfl, phase⟩ :=
        exists_advanced awaits_called sound (.inr stopped) advanced
      have awake : W.Sound W.Called r := by
        refine ⟨fun _ failed => ?_, fun asleep => ?_⟩
        · cases phase.symm.trans failed
        · cases phase.symm.trans asleep.2
      obtain ⟨later, t, reached, ended⟩ :=
        ih awake ((W.running_advance advanced).trans stopped) rest
      exact ⟨first ++ later, t, W.sleeping.run_append_eq_some.mpr ⟨r, reaches, reached⟩, ended⟩

/-- **What the condition variable does for the thread**, in a state that a run has led to.  The
condition on the flag is needed, as `overslept` shows. -/
structure Wakes (W : QueueWait σ χ) (actions : List (SleepingAction χ)) (s : Sleeping σ) :
    Prop where
  /-- It does not sleep over the queue. -/
  queue : W.Asleep s → s.notifications = 0 → W.queued s.base = false
  /-- It sleeps over the flag only if that was reset between a test and a sleep. -/
  flag : W.sleeping.Meets W.StopsOutside W.sleeping.init actions →
    W.Asleep s → s.notifications = 0 → W.running s.base = true
  ends : W.sleeping.Meets W.StopsOutside W.sleeping.init actions → W.running s.base = false →
    ∃ later t, W.sleeping.run s later = some t ∧ W.exited t.base = true
  /-- A flag that is reset there can be slept over. -/
  overslept : ∀ action t, W.sleeping.step s action = some t → ¬ W.StopsOutside s action →
    ∃ later u, W.sleeping.run t later = some u ∧ W.Asleep u ∧ u.notifications = 0 ∧
      W.running u.base = false

theorem wakes_of_run {actions : List (SleepingAction χ)}
    (reached : W.sleeping.run W.sleeping.init actions = some s) : W.Wakes actions s where
  queue := not_queued_of_asleep ⟨actions, reached⟩
  flag := running_of_asleep reached
  ends outside := exists_exited (sound_of_outside reached outside)
  overslept _ _ step early := exists_overslept early step

end QueueWait

end Transition
