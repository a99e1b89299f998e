import Mathlib.Data.Fintype.Basic
import SaasyMediaEngine.Service.HalfBuilt
import SaasyMediaEngine.Transition.Progress

/-!
# The thread of an audio device

Both engines have a `CustomAudioDeviceModule` with a thread of its own, and start and stop it in
the same way: two flags that say what was initialized, one that the loop of the thread tests, and
the `std::thread`, which must not be assigned to while it is joinable.  The flags are atomic, the
calls are not: WebRTC makes them from its threads, a session from its constructor and `Cleanup`.

`deviceThread` interleaves any calls with the loop.  `lifecycle_of_run` says when that is fine: as
long as no call gets to the thread while another one is there, and not one step longer.

A call is taken apart where it looks at something that another call may change: the flags, whether
the thread is joinable, the assignment to it.  Two things can go wrong, and `crashed` stands for
both: `std::terminate` when a joinable thread is assigned to, and the exception that `join` throws
when another caller has joined the thread in the meantime.

`Exclusive` forbids one thing only, that a call gets past its test of the running flag, with
something to do there, while another is between that test and its last step at the thread.  `Owned`
is what follows of every state, and from it that no step crashes; conversely, a call too many may
crash, `mayCrash_of_not_exclusive`.
-/

namespace Saasy.Service

open Transition

inductive DeviceCall where
  | init
  /-- `InitRecording`, `InitPlayout`. -/
  | initFormat
  /-- `StartRecording`, `StartPlayout`. -/
  | start
  /-- `StopRecording`, `StopPlayout`. -/
  | stop
  | terminate
  deriving DecidableEq

/-- `initialized_`, the flag of the format, and the flag that the loop tests: what a caller can ask
a device for. -/
structure DeviceFlags where
  initialized : Bool
  formatSet : Bool
  running : Bool

/-- What a call does to the flags.  `start` needs the other two, and `terminate` leaves the format
set. -/
def DeviceFlags.after (flags : DeviceFlags) : DeviceCall → DeviceFlags
  | .init => { flags with initialized := true }
  | .initFormat => if flags.initialized then { flags with formatSet := true } else flags
  | .start =>
      if flags.initialized && flags.formatSet then { flags with running := true } else flags
  | .stop => { flags with running := false }
  | .terminate => { flags with initialized := false, running := false }

/-- Where a caller is.  A call reads and writes one flag at a time, and each of these phases is
before one of those. -/
inductive CallPhase where
  | idle
  /-- At `initialized_.compare_exchange_strong`. -/
  | initializing
  /-- In `InitRecording`, at its tests of `initialized_` and `rec_is_initialized_`. -/
  | formatting
  | formatTesting
  /-- At `rec_is_initialized_.store(true)`. -/
  | formatStoring
  /-- In `StartRecording`, at its tests of `initialized_`, `rec_is_initialized_`, `recording_`. -/
  | starting
  | startingFormat
  | testing
  /-- At `recording_.store(true)`. -/
  | storing
  /-- At `capture_thread_ = std::thread(…)`. -/
  | launching
  /-- At `recording_.exchange(false)`, in `Terminate` or not. -/
  | stopping (terminates : Bool)
  /-- At `capture_thread_.joinable()`, `recording_` having been set. -/
  | joining (terminates : Bool)
  /-- In `capture_thread_.join()`. -/
  | waiting (terminates : Bool)
  /-- In `Terminate`, at `initialized_.store(false)`. -/
  | closing
  deriving DecidableEq

/-- Where a call begins. -/
def DeviceCall.entry : DeviceCall → CallPhase
  | .init => .initializing
  | .initFormat => .formatting
  | .start => .starting
  | .stop => .stopping false
  | .terminate => .stopping true

/-- Where `StopRecording` returns to. -/
def CallPhase.afterStop (terminates : Bool) : CallPhase := if terminates then .closing else .idle

/-- `capture_thread_`, `playout_thread_`.  It is joinable from the assignment to the join, whether
the loop is still running or not. -/
inductive LoopThread where
  /-- Not joinable. -/
  | none
  | looping
  /-- The loop was left, and nobody has joined the thread. -/
  | returned
  deriving DecidableEq

def LoopThread.joinable : LoopThread → Bool
  | .none => false
  | _ => true

structure DeviceThread (Caller : Type*) where
  initialized : Bool
  /-- `rec_is_initialized_`, `playout_is_initialized_`. -/
  formatSet : Bool
  /-- `recording_`, `playing_`. -/
  running : Bool
  thread : LoopThread
  calls : Caller → CallPhase
  /-- `std::terminate` was called, or `join` has thrown. -/
  crashed : Bool

inductive DeviceAction (Caller : Type*) where
  | call (caller : Caller) (call : DeviceCall)
  /-- A caller goes on. -/
  | proceed (caller : Caller)
  /-- The loop tests its flag. -/
  | loop

namespace DeviceThread

variable {Caller : Type*} [DecidableEq Caller]

/-- A constructed device. -/
def created : DeviceThread Caller where
  initialized := false
  formatSet := false
  running := false
  thread := .none
  calls _ := .idle
  crashed := false

/-- The caller gets to a phase. -/
def goTo (s : DeviceThread Caller) (caller : Caller) (phase : CallPhase) : DeviceThread Caller :=
  { s with calls := Function.update s.calls caller phase }

/-- A caller goes on.  It crashes where it assigns to a thread that is joinable, or joins one that
somebody else has joined, and it waits in the join while the thread loops. -/
def proceed (s : DeviceThread Caller) (caller : Caller) : Option (DeviceThread Caller) :=
  match s.calls caller with
  | .idle => none
  | .initializing => some ({ s with initialized := true }.goTo caller .idle)
  | .formatting => some (s.goTo caller (if s.initialized then .formatTesting else .idle))
  | .formatTesting => some (s.goTo caller (if s.formatSet then .idle else .formatStoring))
  | .formatStoring => some ({ s with formatSet := true }.goTo caller .idle)
  | .starting => some (s.goTo caller (if s.initialized then .startingFormat else .idle))
  | .startingFormat => some (s.goTo caller (if s.formatSet then .testing else .idle))
  | .testing => some (s.goTo caller (if s.running then .idle else .storing))
  | .storing => some ({ s with running := true }.goTo caller .launching)
  | .launching =>
      if s.thread.joinable then some { s with crashed := true }
      else some ({ s with thread := .looping }.goTo caller .idle)
  | .stopping terminates =>
      if s.running then some ({ s with running := false }.goTo caller (.joining terminates))
      else some (s.goTo caller (.afterStop terminates))
  | .joining terminates =>
      some (s.goTo caller
        (if s.thread.joinable then .waiting terminates else .afterStop terminates))
  | .waiting terminates =>
      match s.thread with
      | .looping => none
      | .returned => some ({ s with thread := .none }.goTo caller (.afterStop terminates))
      | .none => some { s with crashed := true }
  | .closing => some ({ s with initialized := false }.goTo caller .idle)

/-- One step, if it is enabled.  A caller makes one call at a time, and after a crash nothing
happens any more. -/
def step (s : DeviceThread Caller) (action : DeviceAction Caller) :
    Option (DeviceThread Caller) :=
  if s.crashed then none
  else
    match action with
    | .call caller call => if s.calls caller = .idle then some (s.goTo caller call.entry) else none
    | .proceed caller => s.proceed caller
    | .loop =>
        match s.thread with
        | .looping => some { s with thread := if s.running then .looping else .returned }
        | _ => none

end DeviceThread

/-- **A device**, its callers, and the loop of its thread, which takes a step where it tests its
flag. -/
def deviceThread (Caller : Type*) [DecidableEq Caller] :
    Machine (DeviceThread Caller) (DeviceAction Caller) where
  init := .created
  step := DeviceThread.step

/-! ### One call at the thread

A caller is at the thread from the moment its test of the flag has let it through until it is done
with the thread.  `finds` says in which state it has found the thread, and the invariant is that
the thread still is in that state, since nobody else is there to change it. -/

/-- The callers that are at the thread, by what they have found of `recording_` and of the
thread. -/
def CallPhase.finds : CallPhase → Option (Bool × Bool)
  | .storing => some (false, false)
  | .launching => some (true, false)
  | .joining _ | .waiting _ => some (false, true)
  | _ => none

namespace DeviceThread

variable {Caller : Type*}

/-- No caller is at the thread. -/
def Quiet (s : DeviceThread Caller) : Prop := ∀ caller, (s.calls caller).finds = none

/-- The next step of a caller takes it to the thread. -/
def enters (s : DeviceThread Caller) (caller : Caller) : Bool :=
  match s.calls caller with
  | .testing => !s.running
  | .stopping _ => s.running
  | _ => false

/-- No caller gets to the thread while another one is there. -/
def Exclusive (s : DeviceThread Caller) : DeviceAction Caller → Prop
  | .proceed caller => s.enters caller = true → s.Quiet
  | _ => True

/-- A caller is behind the test of `rec_is_initialized_`. -/
def PastFormat (s : DeviceThread Caller) (caller : Caller) : Prop :=
  s.calls caller = .testing ∨ s.calls caller = .storing ∨ s.calls caller = .launching

/-- What holds as long as the steps are exclusive: one caller at most is at the thread, it is still
as this caller has found it, and when nobody is there the flag tells whether there is a thread. -/
structure Owned (s : DeviceThread Caller) : Prop where
  crashed : s.crashed = false
  alone : ∀ caller other, (s.calls caller).finds.isSome → (s.calls other).finds.isSome →
    caller = other
  found : ∀ caller, ∀ flags ∈ (s.calls caller).finds, flags = (s.running, s.thread.joinable)
  quiet : s.Quiet → s.running = s.thread.joinable
  returned : s.thread = .returned → s.running = false
  formatSet : ∀ caller, s.PastFormat caller → s.formatSet = true

variable {s t : DeviceThread Caller} {caller : Caller}

variable [DecidableEq Caller]

@[simp] theorem calls_goTo (s : DeviceThread Caller) (caller : Caller) (phase : CallPhase) :
    (s.goTo caller phase).calls caller = phase := Function.update_self ..

@[simp] theorem initialized_goTo (s : DeviceThread Caller) (caller : Caller) (phase : CallPhase) :
    (s.goTo caller phase).initialized = s.initialized := rfl

@[simp] theorem formatSet_goTo (s : DeviceThread Caller) (caller : Caller) (phase : CallPhase) :
    (s.goTo caller phase).formatSet = s.formatSet := rfl

@[simp] theorem running_goTo (s : DeviceThread Caller) (caller : Caller) (phase : CallPhase) :
    (s.goTo caller phase).running = s.running := rfl

@[simp] theorem thread_goTo (s : DeviceThread Caller) (caller : Caller) (phase : CallPhase) :
    (s.goTo caller phase).thread = s.thread := rfl

theorem calls_goTo_of_ne (s : DeviceThread Caller) {caller other : Caller} (phase : CallPhase)
    (different : other ≠ caller) : (s.goTo caller phase).calls other = s.calls other :=
  Function.update_of_ne different ..

/-- The format is set where it was tested. -/
theorem Owned.formatSet_goTo (owned : s.Owned) {phase : CallPhase}
    (calls : t.calls = (s.goTo caller phase).calls) (kept : s.formatSet = true → t.formatSet = true)
    (past : phase = .testing ∨ phase = .storing ∨ phase = .launching → t.formatSet = true) :
    ∀ other, t.PastFormat other → t.formatSet = true := by
  intro other tested
  rw [PastFormat, calls] at tested
  by_cases same : other = caller
  · rw [same, calls_goTo] at tested
    exact past tested
  · rw [calls_goTo_of_ne s phase same] at tested
    exact kept (owned.formatSet other tested)

/-- A caller that is not at the thread, and does not get there. -/
theorem Owned.aside (owned : s.Owned) (outside : (s.calls caller).finds = none)
    {phase : CallPhase} (stays : phase.finds = none)
    (calls : t.calls = (s.goTo caller phase).calls) (crashed : t.crashed = s.crashed)
    (running : t.running = s.running) (thread : t.thread = s.thread)
    (kept : s.formatSet = true → t.formatSet = true)
    (past : phase = .testing ∨ phase = .storing ∨ phase = .launching → t.formatSet = true) :
    t.Owned := by
  have finds : ∀ other, (t.calls other).finds = (s.calls other).finds := by
    intro other
    rw [calls]
    by_cases same : other = caller
    · rw [same, calls_goTo, stays, outside]
    · rw [calls_goTo_of_ne s phase same]
  refine ⟨crashed.trans owned.crashed, ?_, ?_, ?_, ?_, owned.formatSet_goTo calls kept past⟩
  · intro a b
    rw [finds, finds]
    exact owned.alone a b
  · intro other
    rw [finds, running, thread]
    exact owned.found other
  · intro quiet
    rw [running, thread]
    exact owned.quiet fun other => (finds other).symm.trans (quiet other)
  · rw [running, thread]
    exact owned.returned

/-- A caller that is by itself at the thread, or gets there, or leaves. -/
theorem Owned.takes (owned : s.Owned) {phase : CallPhase}
    (others : ∀ other, other ≠ caller → (s.calls other).finds = none)
    (calls : t.calls = (s.goTo caller phase).calls) (crashed : t.crashed = s.crashed)
    (own : phase.finds = some (t.running, t.thread.joinable) ∨
      phase.finds = none ∧ t.running = t.thread.joinable)
    (returned : t.thread = .returned → t.running = false) (formatSet : t.formatSet = s.formatSet)
    (past : phase = .testing ∨ phase = .storing ∨ phase = .launching → s.PastFormat caller) :
    t.Owned := by
  have here : t.calls caller = phase := by rw [calls, calls_goTo]
  have only : ∀ other, (t.calls other).finds.isSome → other = caller := by
    intro other there
    by_contra different
    rw [calls, calls_goTo_of_ne s phase different, others other different] at there
    cases there
  refine ⟨crashed.trans owned.crashed, ?_, ?_, ?_, returned, ?_⟩
  · intro a b there there'
    exact (only a there).trans (only b there').symm
  · intro other flags mem
    obtain rfl := only other (Option.isSome_of_mem mem)
    rw [here] at mem
    obtain found | ⟨absent, -⟩ := own
    · rw [found] at mem
      exact (Option.some.inj mem).symm
    · rw [absent] at mem
      cases mem
  · intro quiet
    obtain found | ⟨-, same⟩ := own
    · rw [← here, quiet caller] at found
      cases found
    · exact same
  · exact owned.formatSet_goTo calls (fun set => formatSet.trans set)
      fun tested => formatSet.trans (owned.formatSet caller (past tested))

omit [DecidableEq Caller] in
/-- A caller that is at the thread is there by itself. -/
theorem Owned.others (owned : s.Owned) (there : (s.calls caller).finds.isSome) :
    ∀ other, other ≠ caller → (s.calls other).finds = none := by
  intro other different
  by_contra absent
  exact different (owned.alone other caller (Option.ne_none_iff_isSome.mp absent) there)

theorem finds_afterStop (terminates : Bool) : (CallPhase.afterStop terminates).finds = none := by
  cases terminates <;> rfl

theorem not_past_afterStop (terminates : Bool) :
    ¬ (CallPhase.afterStop terminates = .testing ∨ CallPhase.afterStop terminates = .storing ∨
      CallPhase.afterStop terminates = .launching) := by
  cases terminates <;> simp [CallPhase.afterStop]

/-- **Step** of a caller: into the thread, at it, out of it, or past it. -/
theorem Owned.proceed (owned : s.Owned) (exclusive : s.Exclusive (.proceed caller))
    (step : s.proceed caller = some t) : t.Owned := by
  have enters : s.enters caller = true → s.Quiet := exclusive
  cases phase : s.calls caller with
  | idle =>
      simp only [DeviceThread.proceed, phase] at step
      cases step
  | initializing | formatStoring | closing =>
      simp only [DeviceThread.proceed, phase] at step
      obtain rfl := Option.some.inj step
      exact owned.aside (by rw [phase]; rfl) rfl rfl rfl rfl rfl (fun set => by simp [set, goTo])
        (by simp)
  | formatting | formatTesting | starting =>
      simp only [DeviceThread.proceed, phase] at step
      obtain rfl := Option.some.inj step
      refine owned.aside (by rw [phase]; rfl) ?_ rfl rfl rfl rfl id ?_
      · split_ifs <;> rfl
      · split_ifs <;> simp
  | startingFormat =>
      simp only [DeviceThread.proceed, phase] at step
      obtain rfl := Option.some.inj step
      refine owned.aside (by rw [phase]; rfl) ?_ rfl rfl rfl rfl id ?_
      · split_ifs <;> rfl
      · split_ifs with set
        · exact fun _ => set
        · simp
  | testing =>
      simp only [DeviceThread.proceed, phase] at step
      obtain rfl := Option.some.inj step
      by_cases running : s.running = true
      · rw [if_pos running]
        exact owned.aside (by rw [phase]; rfl) rfl rfl rfl rfl rfl id (by simp)
      · have quiet : s.Quiet := enters (by simp [DeviceThread.enters, phase, running])
        have free : s.running = s.thread.joinable := owned.quiet quiet
        rw [if_neg running]
        refine owned.takes (fun other _ => quiet other) rfl rfl (.inl ?_) owned.returned rfl
          fun _ => .inl phase
        show some (false, false) = some (s.running, s.thread.joinable)
        rw [← free, eq_false_of_ne_true running]
  | storing =>
      have found := owned.found caller (false, false) (by rw [phase]; rfl)
      obtain ⟨-, free⟩ := Prod.mk.inj found
      simp only [DeviceThread.proceed, phase] at step
      obtain rfl := Option.some.inj step
      refine owned.takes (owned.others (by rw [phase]; rfl)) rfl rfl (.inl ?_) ?_ rfl
        fun _ => .inr (.inl phase)
      · show some (true, false) = some (true, s.thread.joinable)
        rw [← free]
      · intro returned
        have returned : s.thread = .returned := returned
        rw [returned] at free
        cases free
  | launching =>
      have found := owned.found caller (true, false) (by rw [phase]; rfl)
      obtain ⟨running, free⟩ := Prod.mk.inj found
      simp only [DeviceThread.proceed, phase, ← free] at step
      obtain rfl := Option.some.inj step
      refine owned.takes (owned.others (by rw [phase]; rfl)) rfl rfl (.inr ⟨rfl, running.symm⟩) ?_
        rfl (by simp)
      intro returned
      cases returned
  | stopping terminates =>
      simp only [DeviceThread.proceed, phase] at step
      by_cases running : s.running = true
      · have quiet : s.Quiet := enters (by simp [DeviceThread.enters, phase, running])
        have taken : s.running = s.thread.joinable := owned.quiet quiet
        rw [if_pos running] at step
        obtain rfl := Option.some.inj step
        refine owned.takes (fun other _ => quiet other) rfl rfl (.inl ?_) (fun _ => rfl) rfl
          (by simp)
        show some (false, true) = some (false, s.thread.joinable)
        rw [← taken, running]
      · rw [if_neg running] at step
        obtain rfl := Option.some.inj step
        exact owned.aside (by rw [phase]; rfl) (finds_afterStop terminates) rfl rfl rfl rfl id
          fun past => absurd past (not_past_afterStop terminates)
  | joining terminates =>
      have found := owned.found caller (false, true) (by rw [phase]; rfl)
      obtain ⟨stopped, taken⟩ := Prod.mk.inj found
      simp only [DeviceThread.proceed, phase, ← taken] at step
      obtain rfl := Option.some.inj step
      refine owned.takes (owned.others (by rw [phase]; rfl)) rfl rfl (.inl ?_) owned.returned rfl
        (by simp)
      exact congrArg some found
  | waiting terminates =>
      have found := owned.found caller (false, true) (by rw [phase]; rfl)
      obtain ⟨stopped, taken⟩ := Prod.mk.inj found
      cases thread : s.thread with
      | none =>
          rw [thread] at taken
          cases taken
      | looping =>
          simp only [DeviceThread.proceed, phase, thread] at step
          cases step
      | returned =>
          simp only [DeviceThread.proceed, phase, thread] at step
          obtain rfl := Option.some.inj step
          exact owned.takes (owned.others (by rw [phase]; rfl)) rfl rfl
            (.inr ⟨finds_afterStop terminates, stopped.symm⟩) (fun returned => by cases returned)
            rfl fun past => absurd past (not_past_afterStop terminates)

/-- **Step** of a caller or of the loop, none of which crashes. -/
theorem Owned.step {action : DeviceAction Caller} (owned : s.Owned)
    (exclusive : s.Exclusive action) (step : s.step action = some t) : t.Owned := by
  obtain ⟨-, step⟩ := Option.ite_none_left_eq_some.mp step
  cases action with
  | call caller call =>
      obtain ⟨idle, ⟨⟩⟩ := Option.ite_none_right_eq_some.mp step
      exact owned.aside (by rw [idle]; rfl) (by cases call <;> rfl) rfl rfl rfl rfl id
        (by cases call <;> simp [DeviceCall.entry])
  | proceed caller => exact owned.proceed exclusive step
  | loop =>
      cases thread : s.thread with
      | none | returned =>
          simp only [thread] at step
          cases step
      | looping =>
          simp only [thread] at step
          obtain rfl := Option.some.inj step
          have joinable : (if s.running then LoopThread.looping else .returned).joinable =
              s.thread.joinable := by
            rw [thread]
            split_ifs <;> rfl
          refine ⟨owned.crashed, owned.alone, ?_, ?_, ?_, owned.formatSet⟩
          · dsimp only
            rw [joinable]
            exact owned.found
          · dsimp only
            rw [joinable]
            exact owned.quiet
          · intro returned
            by_contra running
            simp [running] at returned

omit [DecidableEq Caller] in
theorem owned_created : (created : DeviceThread Caller).Owned where
  crashed := rfl
  alone _ _ there := by cases there
  found _ _ mem := by cases mem
  quiet _ := rfl
  returned returned := by cases returned
  formatSet caller past := by simp [PastFormat, created] at past

/-! ### A second call at the thread

For the converse.  Two callers that are at the thread at one time have both been let through by the
flag; then some order of their steps makes one of them assign to a thread that can still be joined,
or join one that cannot.  The steps of a caller are written out as equations before that. -/

/-- The device may crash. -/
def MayCrash (s : DeviceThread Caller) : Prop :=
  (deviceThread Caller).MayReach (fun t => t.crashed = true) s

theorem mayCrash_of_step (action : DeviceAction Caller) (step : s.step action = some t)
    (later : t.MayCrash) : s.MayCrash :=
  Machine.MayReach.step (M := deviceThread Caller) (a := action) step later

theorem mayCrash_of_proceed (caller : Caller) (crashed : s.crashed = false)
    (moved : s.proceed caller = some t) (later : t.MayCrash) : s.MayCrash :=
  mayCrash_of_step (.proceed caller) (by simp [DeviceThread.step, crashed, moved]) later

theorem mayCrash_of_call (call : DeviceCall) (crashed : s.crashed = false)
    (idle : s.calls caller = .idle) (later : (s.goTo caller call.entry).MayCrash) : s.MayCrash :=
  mayCrash_of_step (.call caller call) (by simp [DeviceThread.step, crashed, idle]) later

theorem proceed_initializing (phase : s.calls caller = .initializing) :
    s.proceed caller = some ({ s with initialized := true }.goTo caller .idle) := by
  simp only [DeviceThread.proceed, phase]

theorem proceed_formatStoring (phase : s.calls caller = .formatStoring) :
    s.proceed caller = some ({ s with formatSet := true }.goTo caller .idle) := by
  simp only [DeviceThread.proceed, phase]

theorem proceed_starting (phase : s.calls caller = .starting) (initialized : s.initialized = true) :
    s.proceed caller = some (s.goTo caller .startingFormat) := by
  simp [DeviceThread.proceed, phase, initialized]

theorem proceed_startingFormat (phase : s.calls caller = .startingFormat)
    (formatSet : s.formatSet = true) : s.proceed caller = some (s.goTo caller .testing) := by
  simp [DeviceThread.proceed, phase, formatSet]

theorem proceed_testing (phase : s.calls caller = .testing) (running : s.running = false) :
    s.proceed caller = some (s.goTo caller .storing) := by
  simp [DeviceThread.proceed, phase, running]

theorem proceed_storing (phase : s.calls caller = .storing) :
    s.proceed caller = some ({ s with running := true }.goTo caller .launching) := by
  simp only [DeviceThread.proceed, phase]

theorem proceed_launching (phase : s.calls caller = .launching)
    (free : s.thread.joinable = false) :
    s.proceed caller = some ({ s with thread := .looping }.goTo caller .idle) := by
  simp [DeviceThread.proceed, phase, free]

theorem proceed_closing (phase : s.calls caller = .closing) :
    s.proceed caller = some ({ s with initialized := false }.goTo caller .idle) := by
  simp only [DeviceThread.proceed, phase]

/-- A caller that is about to assign to a joinable thread. -/
theorem mayCrash_of_launching (caller : Caller) (crashed : s.crashed = false)
    (phase : s.calls caller = .launching) (taken : s.thread.joinable = true) : s.MayCrash := by
  have moved : s.proceed caller = some { s with crashed := true } := by
    simp [DeviceThread.proceed, phase, taken]
  exact mayCrash_of_proceed caller crashed moved (.here rfl)

theorem mayCrash_of_storing (caller : Caller) (crashed : s.crashed = false)
    (phase : s.calls caller = .storing) (taken : s.thread.joinable = true) : s.MayCrash :=
  mayCrash_of_proceed caller crashed (proceed_storing phase)
    (mayCrash_of_launching caller crashed (calls_goTo ..) taken)

/-- A thread that nobody joins is assigned to by the next caller that starts the device. -/
theorem mayCrash_of_idle (crashed : s.crashed = false) (idle : s.calls caller = .idle)
    (running : s.running = false) (taken : s.thread.joinable = true)
    (formatSet : s.formatSet = true) : s.MayCrash := by
  -- `Init`, in case the device was terminated
  refine mayCrash_of_call .init crashed idle ?_
  refine mayCrash_of_proceed caller crashed (proceed_initializing (calls_goTo ..)) ?_
  refine mayCrash_of_call .start crashed (calls_goTo ..) ?_
  refine mayCrash_of_proceed caller crashed (proceed_starting (calls_goTo ..) rfl) ?_
  refine mayCrash_of_proceed caller crashed (proceed_startingFormat (calls_goTo ..) formatSet) ?_
  refine mayCrash_of_proceed caller crashed (proceed_testing (calls_goTo ..) running) ?_
  exact mayCrash_of_storing caller crashed (calls_goTo ..) taken

/-- A caller that leaves while another one is about to assign the thread: nobody joins it. -/
theorem mayCrash_of_afterStop (other : Caller) (terminates : Bool) (crashed : s.crashed = false)
    (phase : s.calls caller = .afterStop terminates) (launching : s.calls other = .launching)
    (running : s.running = false) (free : s.thread.joinable = false)
    (formatSet : s.formatSet = true) : s.MayCrash := by
  have different : caller ≠ other := by
    rintro rfl
    rw [phase] at launching
    cases terminates <;> cases launching
  refine mayCrash_of_proceed other crashed (proceed_launching launching free) ?_
  have still := calls_goTo_of_ne ({ s with thread := .looping }) .idle different
  cases terminates with
  | false => exact mayCrash_of_idle crashed (still.trans phase) running rfl formatSet
  | true =>
      refine mayCrash_of_proceed caller crashed (proceed_closing (still.trans phase)) ?_
      exact mayCrash_of_idle crashed (calls_goTo ..) running rfl formatSet

theorem proceed_joining {terminates : Bool} (phase : s.calls caller = .joining terminates)
    (free : s.thread.joinable = false) :
    s.proceed caller = some (s.goTo caller (.afterStop terminates)) := by
  simp [DeviceThread.proceed, phase, free]

theorem proceed_joining_of_joinable {terminates : Bool}
    (phase : s.calls caller = .joining terminates) (taken : s.thread.joinable = true) :
    s.proceed caller = some (s.goTo caller (.waiting terminates)) := by
  simp [DeviceThread.proceed, phase, taken]

theorem proceed_waiting {terminates : Bool} (phase : s.calls caller = .waiting terminates)
    (returned : s.thread = .returned) :
    s.proceed caller = some ({ s with thread := .none }.goTo caller (.afterStop terminates)) := by
  simp only [DeviceThread.proceed, phase, returned]

theorem storing_of_finds {phase : CallPhase} (finds : phase.finds = some (false, false)) :
    phase = .storing := by
  cases phase <;> simp_all [CallPhase.finds]

theorem launching_of_finds {phase : CallPhase} {joinable : Bool}
    (finds : phase.finds = some (true, joinable)) : phase = .launching ∧ joinable = false := by
  cases phase <;> simp_all [CallPhase.finds]

/-- Two calls that start the device. -/
theorem mayCrash_of_two_starts {other : Caller} (crashed : s.crashed = false)
    (first : s.calls caller = .storing) (second : s.calls other = .storing)
    (different : caller ≠ other) (free : s.thread.joinable = false) : s.MayCrash := by
  refine mayCrash_of_proceed other crashed (proceed_storing second) ?_
  refine mayCrash_of_proceed other crashed (proceed_launching (calls_goTo ..) free) ?_
  refine mayCrash_of_storing caller crashed ?_ rfl
  rw [calls_goTo_of_ne _ _ different]
  exact (calls_goTo_of_ne _ _ different).trans first

/-- **A call too many at the thread.** Whatever the other one is doing there, some continuation
takes one of the two into the assignment or the join that it should not make. -/
theorem mayCrash_of_not_exclusive {action : DeviceAction Caller} (owned : s.Owned)
    (overlaps : ¬ s.Exclusive action) (step : s.step action = some t) : t.MayCrash := by
  cases action with
  | call caller call => exact absurd trivial overlaps
  | loop => exact absurd trivial overlaps
  | proceed caller =>
      obtain ⟨enters, notQuiet⟩ := Classical.not_imp.mp overlaps
      obtain ⟨other, there⟩ := not_forall.mp notQuiet
      obtain ⟨flags, finds⟩ := Option.ne_none_iff_exists'.mp there
      obtain rfl := owned.found other flags finds
      have moved : s.proceed caller = some t := (Option.ite_none_left_eq_some.mp step).2
      have different : other ≠ caller := by
        rintro rfl
        cases phase : s.calls other <;> simp_all [DeviceThread.enters, CallPhase.finds]
      cases phase : s.calls caller with
      | testing =>
          have running : s.running = false := by simpa [DeviceThread.enters, phase] using enters
          rw [proceed_testing phase running] at moved
          obtain rfl := Option.some.inj moved
          cases taken : s.thread.joinable with
          | true => exact mayCrash_of_storing caller owned.crashed (calls_goTo ..) taken
          | false =>
              rw [running, taken] at finds
              have second := storing_of_finds finds
              exact mayCrash_of_two_starts owned.crashed (calls_goTo ..)
                ((calls_goTo_of_ne s _ different).trans second) different.symm taken
      | stopping terminates =>
          have running : s.running = true := by simpa [DeviceThread.enters, phase] using enters
          rw [running] at finds
          obtain ⟨launching, free⟩ := launching_of_finds finds
          simp only [DeviceThread.proceed, phase, running, if_true] at moved
          obtain rfl := Option.some.inj moved
          refine mayCrash_of_proceed caller owned.crashed (proceed_joining (calls_goTo ..) free) ?_
          refine mayCrash_of_afterStop other terminates owned.crashed (calls_goTo ..)
            ?_ rfl free (owned.formatSet other (.inr (.inr launching)))
          rw [calls_goTo_of_ne _ _ different]
          exact (calls_goTo_of_ne _ _ different).trans launching
      | _ => simp [DeviceThread.enters, phase] at enters

/-! ### A call by itself

A caller runs while nobody else does but the loop, which it may have to wait for.  The lemmas go
backwards from the end of a call to its beginning, each adding the step before. -/

def flags (s : DeviceThread Caller) : DeviceFlags := ⟨s.initialized, s.formatSet, s.running⟩

/-- A caller by itself, and the loop, take the device from one state to another. -/
def Solo (caller : Caller) (s t : DeviceThread Caller) : Prop :=
  ∃ later, (deviceThread Caller).run s later = some t ∧
    ∀ action ∈ later, action = .proceed caller ∨ action = .loop

theorem Solo.refl (caller : Caller) (s : DeviceThread Caller) : Solo caller s s :=
  ⟨[], rfl, List.forall_mem_nil _⟩

theorem Solo.step {r : DeviceThread Caller} {action : DeviceAction Caller}
    (own : action = .proceed caller ∨ action = .loop) (step : s.step action = some r)
    (later : Solo caller r t) : Solo caller s t := by
  obtain ⟨actions, run, owns⟩ := later
  exact ⟨action :: actions, Machine.run_cons_eq_some _ |>.mpr ⟨r, step, run⟩,
    List.forall_mem_cons.mpr ⟨own, owns⟩⟩

theorem Solo.proceed {r : DeviceThread Caller} (crashed : s.crashed = false)
    (moved : s.proceed caller = some r) (later : Solo caller r t) : Solo caller s t :=
  later.step (.inl rfl) (by simp [DeviceThread.step, crashed, moved])

/-- The call that the caller is in ends, the flags set as said. -/
def Ends (caller : Caller) (s : DeviceThread Caller) (flags : DeviceFlags) : Prop :=
  ∃ t, Solo caller s t ∧ t.calls caller = .idle ∧ t.flags = flags

theorem ends_of_idle (idle : s.calls caller = .idle) : Ends caller s s.flags :=
  ⟨s, .refl caller s, idle, rfl⟩

theorem ends_of_proceed {r : DeviceThread Caller} {flags : DeviceFlags}
    (crashed : s.crashed = false) (moved : s.proceed caller = some r)
    (ends : Ends caller r flags) : Ends caller s flags := by
  obtain ⟨t, solo, idle, same⟩ := ends
  exact ⟨t, solo.proceed crashed moved, idle, same⟩

theorem ends_initializing (crashed : s.crashed = false) (phase : s.calls caller = .initializing) :
    Ends caller s (s.flags.after .init) :=
  ends_of_proceed crashed (proceed_initializing phase) (ends_of_idle (calls_goTo ..))

theorem ends_formatTesting (crashed : s.crashed = false)
    (phase : s.calls caller = .formatTesting) :
    Ends caller s { s.flags with formatSet := true } := by
  cases formatSet : s.formatSet with
  | true =>
      have moved : s.proceed caller = some (s.goTo caller .idle) := by
        simp [DeviceThread.proceed, phase, formatSet]
      have same : { s.flags with formatSet := true } = s.flags := by rw [flags, formatSet]
      rw [same]
      exact ends_of_proceed crashed moved (ends_of_idle (calls_goTo ..))
  | false =>
      have moved : s.proceed caller = some (s.goTo caller .formatStoring) := by
        simp [DeviceThread.proceed, phase, formatSet]
      refine ends_of_proceed crashed moved ?_
      refine ends_of_proceed crashed (proceed_formatStoring (calls_goTo ..)) ?_
      exact ends_of_idle (calls_goTo ..)

theorem ends_formatting (crashed : s.crashed = false) (phase : s.calls caller = .formatting) :
    Ends caller s (s.flags.after .initFormat) := by
  cases initialized : s.initialized with
  | false =>
      have refused : s.proceed caller = some (s.goTo caller .idle) := by
        simp [DeviceThread.proceed, phase, initialized]
      have same : s.flags.after .initFormat = s.flags := by
        simp [flags, DeviceFlags.after, initialized]
      rw [same]
      exact ends_of_proceed crashed refused (ends_of_idle (calls_goTo ..))
  | true =>
      have moved : s.proceed caller = some (s.goTo caller .formatTesting) := by
        simp [DeviceThread.proceed, phase, initialized]
      have set : s.flags.after .initFormat = { s.flags with formatSet := true } := by
        simp [flags, DeviceFlags.after, initialized]
      rw [set]
      exact ends_of_proceed crashed moved (ends_formatTesting crashed (calls_goTo ..))

theorem ends_testing (crashed : s.crashed = false) (phase : s.calls caller = .testing)
    (quiet : s.running = s.thread.joinable) :
    Ends caller s { s.flags with running := true } := by
  cases running : s.running with
  | true =>
      have moved : s.proceed caller = some (s.goTo caller .idle) := by
        simp [DeviceThread.proceed, phase, running]
      have same : { s.flags with running := true } = s.flags := by rw [flags, running]
      rw [same]
      exact ends_of_proceed crashed moved (ends_of_idle (calls_goTo ..))
  | false =>
      have free : s.thread.joinable = false := quiet.symm.trans running
      refine ends_of_proceed crashed (proceed_testing phase running) ?_
      refine ends_of_proceed crashed (proceed_storing (calls_goTo ..)) ?_
      refine ends_of_proceed crashed (proceed_launching (calls_goTo ..) free) ?_
      exact ends_of_idle (calls_goTo ..)

theorem ends_starting (crashed : s.crashed = false) (phase : s.calls caller = .starting)
    (quiet : s.running = s.thread.joinable) : Ends caller s (s.flags.after .start) := by
  cases initialized : s.initialized with
  | false =>
      have refused : s.proceed caller = some (s.goTo caller .idle) := by
        simp [DeviceThread.proceed, phase, initialized]
      have same : s.flags.after .start = s.flags := by
        simp [flags, DeviceFlags.after, initialized]
      rw [same]
      exact ends_of_proceed crashed refused (ends_of_idle (calls_goTo ..))
  | true =>
      refine ends_of_proceed crashed (proceed_starting phase initialized) ?_
      cases formatSet : s.formatSet with
      | false =>
          have refused : (s.goTo caller .startingFormat).proceed caller =
              some ((s.goTo caller .startingFormat).goTo caller .idle) := by
            simp [DeviceThread.proceed, formatSet]
          have same : s.flags.after .start = s.flags := by
            simp [flags, DeviceFlags.after, formatSet]
          rw [same]
          exact ends_of_proceed crashed refused (ends_of_idle (calls_goTo ..))
      | true =>
          have set : s.flags.after .start = { s.flags with running := true } := by
            simp [flags, DeviceFlags.after, initialized, formatSet]
          rw [set]
          refine ends_of_proceed crashed (proceed_startingFormat (calls_goTo ..) formatSet) ?_
          exact ends_testing crashed (calls_goTo ..) quiet

theorem ends_afterStop (terminates : Bool) (crashed : s.crashed = false)
    (phase : s.calls caller = .afterStop terminates) :
    Ends caller s { s.flags with initialized := !terminates && s.initialized } := by
  cases terminates with
  | false => exact ends_of_idle phase
  | true => exact ends_of_proceed crashed (proceed_closing phase) (ends_of_idle (calls_goTo ..))

/-- The loop is left. -/
theorem ends_of_loop {flags : DeviceFlags} (crashed : s.crashed = false)
    (thread : s.thread = .looping) (running : s.running = false)
    (ends : Ends caller { s with thread := .returned } flags) : Ends caller s flags := by
  obtain ⟨t, solo, idle, same⟩ := ends
  have left : s.step .loop = some { s with thread := .returned } := by
    simp [DeviceThread.step, crashed, thread, running]
  exact ⟨t, solo.step (.inr rfl) left, idle, same⟩

/-- A thread that is looping leaves the loop, and is joined. -/
theorem ends_stopping (terminates : Bool) (crashed : s.crashed = false)
    (phase : s.calls caller = .stopping terminates)
    (looping : s.thread = .looping ∨ s.running = false) :
    Ends caller s
      { s.flags with initialized := !terminates && s.initialized, running := false } := by
  cases running : s.running with
  | false =>
      have moved : s.proceed caller = some (s.goTo caller (.afterStop terminates)) := by
        simp [DeviceThread.proceed, phase, running]
      have ends := ends_of_proceed crashed moved
        (ends_afterStop terminates crashed (calls_goTo s caller _))
      simpa [flags, running] using ends
  | true =>
      have thread : s.thread = .looping := by simpa [running] using looping
      have exchanged : s.proceed caller =
          some ({ s with running := false }.goTo caller (.joining terminates)) := by
        simp [DeviceThread.proceed, phase, running]
      refine ends_of_proceed crashed exchanged ?_
      refine ends_of_proceed crashed (proceed_joining_of_joinable (calls_goTo ..) ?_) ?_
      · show s.thread.joinable = true
        rw [thread]
        rfl
      · refine ends_of_loop crashed thread rfl ?_
        refine ends_of_proceed crashed (proceed_waiting (calls_goTo ..) rfl) ?_
        exact ends_afterStop terminates crashed (calls_goTo ..)

/-- **A call by itself** returns, and does to the flags what it is meant to, waiting for the loop
if it has to. -/
theorem ends_of_call (call : DeviceCall) (crashed : s.crashed = false)
    (quiet : s.running = s.thread.joinable) (returned : s.thread = .returned → s.running = false) :
    Ends caller (s.goTo caller call.entry) (s.flags.after call) := by
  have looping : s.thread = .looping ∨ s.running = false := by
    cases thread : s.thread with
    | looping => exact .inl rfl
    | returned => exact .inr (returned thread)
    | none =>
        rw [thread] at quiet
        exact .inr quiet
  cases call with
  | init => exact ends_initializing crashed (calls_goTo ..)
  | initFormat => exact ends_formatting crashed (calls_goTo ..)
  | start => exact ends_starting crashed (calls_goTo ..) quiet
  | stop => exact ends_stopping false crashed (calls_goTo ..) looping
  | terminate => exact ends_stopping true crashed (calls_goTo ..) looping

/-- **The life of the thread**, as long as no call gets to it while another one is there: it runs
as long as the device does, is joined once, and is started anew only after that. -/
structure Lifecycle (s : DeviceThread Caller) : Prop where
  crashed : s.crashed = false
  /-- The loop runs while the device does, and its thread was joined when it does not. -/
  thread : s.Quiet → s.thread = if s.running then .looping else .none
  /-- A call by itself returns. -/
  ends : s.Quiet → ∀ caller, s.calls caller = .idle → ∀ call,
    Ends caller (s.goTo caller call.entry) (s.flags.after call)
  /-- The first call that gets to the thread while another one is there may bring it down. -/
  overlap : ∀ action t, s.step action = some t → ¬ s.Exclusive action → t.MayCrash

theorem Owned.lifecycle (owned : s.Owned) : s.Lifecycle := by
  refine ⟨owned.crashed, fun quiet => ?_, fun quiet caller _ call => ?_,
    fun action t step overlaps => mayCrash_of_not_exclusive owned overlaps step⟩
  · have taken := owned.quiet quiet
    cases thread : s.thread with
    | none =>
        rw [thread] at taken
        simp [taken, LoopThread.joinable]
    | looping =>
        rw [thread] at taken
        simp [taken, LoopThread.joinable]
    | returned =>
        rw [thread, owned.returned thread] at taken
        cases taken
  · exact ends_of_call call owned.crashed (owned.quiet quiet) owned.returned

/-- **Along every run** in which no call gets to the thread while another one is there, whatever
the callers call and however often. -/
theorem lifecycle_of_run (actions : List (DeviceAction Caller))
    (reached : (deviceThread Caller).run .created actions = some s)
    (exclusive : (deviceThread Caller).Meets Exclusive .created actions) : s.Lifecycle :=
  Owned.lifecycle ((deviceThread Caller).invariant_of_meets
    (fun _ _ _ owned exclusive step => Owned.step owned exclusive step) owned_created reached
    exclusive)

instance [Fintype Caller] : Decidable s.Quiet :=
  inferInstanceAs (Decidable (∀ caller, (s.calls caller).finds = none))

instance [Fintype Caller] (action : DeviceAction Caller) : Decidable (s.Exclusive action) :=
  match action with
  | .proceed caller => inferInstanceAs (Decidable (s.enters caller = true → s.Quiet))
  | .call _ _ | .loop => inferInstanceAs (Decidable True)

/-- WebRTC starts the device while a session stops it. -/
theorem lifecycle_of_run_overlap :
    let starts : List (DeviceAction Bool) := .call true .start :: List.replicate 5 (.proceed true)
    let actions : List (DeviceAction Bool) :=
      [.call true .init, .proceed true, .call true .initFormat, .proceed true, .proceed true,
          .proceed true] ++ starts ++ [.call false .terminate, .proceed false, .call true .start,
          .proceed true, .proceed true]
    ∃ s t, (deviceThread Bool).run .created actions = some s ∧ s.Lifecycle ∧
      s.step (.proceed true) = some t ∧ t.MayCrash := by
  intro starts actions
  have reached : (deviceThread Bool).run .created actions = some _ := rfl
  have exclusive : (deviceThread Bool).Meets Exclusive .created actions := by decide
  have life := lifecycle_of_run actions reached exclusive
  exact ⟨_, _, reached, life, rfl, life.overlap (.proceed true) _ rfl (by decide)⟩

end DeviceThread

end Saasy.Service

/-! ### The devices of the engines

Both devices are this one: their calls change the three flags as `DeviceFlags.after` says,
whichever way they get there. -/

namespace Saasy.SpeakingEngine.CustomAudioDeviceModule

open Saasy.Service (DeviceCall DeviceFlags)

def flags (adm : CustomAudioDeviceModule) : DeviceFlags :=
  ⟨adm.initialized, adm.recIsInitialized, adm.recording⟩

/-- A call of the device, up to its thread. -/
def call (adm : CustomAudioDeviceModule) : DeviceCall → CustomAudioDeviceModule
  | .init => adm.init
  | .initFormat => adm.initRecording
  | .start => adm.startRecording.1
  | .stop => adm.stopRecording
  | .terminate => { adm.stopRecording with initialized := false, ringSamples := [] }

theorem flags_call (adm : CustomAudioDeviceModule) (call : DeviceCall) :
    (adm.call call).flags = adm.flags.after call := by
  obtain ⟨audioQueue, ringSamples, underruns, initialized, recIsInitialized, recording, complete,
    callback⟩ := adm
  cases call <;> cases initialized <;> cases recIsInitialized <;> cases recording <;> rfl

end Saasy.SpeakingEngine.CustomAudioDeviceModule

namespace Saasy.ListeningEngine.CustomAudioDeviceModule

open Saasy.Service (DeviceCall DeviceFlags)

def flags (adm : CustomAudioDeviceModule) : DeviceFlags :=
  ⟨adm.initialized, adm.playoutIsInitialized, adm.playing⟩

/-- A call of the device, up to its thread. -/
def call (adm : CustomAudioDeviceModule) : DeviceCall → CustomAudioDeviceModule
  | .init => adm.init
  | .initFormat => adm.initPlayout
  | .start => adm.startPlayout
  | .stop => adm.stopPlayout
  | .terminate => adm.terminate

theorem flags_call (adm : CustomAudioDeviceModule) (call : DeviceCall) :
    (adm.call call).flags = adm.flags.after call := by
  obtain ⟨initialized, playoutIsInitialized, playing⟩ := adm
  cases call <;> cases initialized <;> cases playoutIsInitialized <;> cases playing <;> rfl

end Saasy.ListeningEngine.CustomAudioDeviceModule
