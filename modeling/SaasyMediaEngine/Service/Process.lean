import SaasyMediaEngine.Service.Slots

/-!
# The process around a service

`main.cpp`, which is the same in both engines.  The service is a local variable of `main`,
and WebRTC is shut down before it goes out of scope:

* `SignalHandler` shuts the server down once there is one.  New calls are refused from then
  on, and `Wait` returns when all handlers have;
* `WebRTCFactory::Shutdown` stops the threads that a session's factory was created on;
* the service is destroyed last, with the sessions that are still in `sessions_`.

Removal threads are detached, so nobody waits for them.

`shutdown_orderly_iff` says when a shutdown goes wrong in neither way: no session is torn
down once WebRTC is, and no removal thread calls a service that is gone.

The service is that of `Service.SessionTable`, with the one addition that the server decides which
of its steps may happen: calls come in only while it serves, and handlers run until `Wait` has
returned.  Removal threads know nothing of the server and are always admitted, which is how they
come to run after the service is gone.
-/

namespace Saasy.Service

open Transition

/-- Where `main` is.  Signals may come at any time, and only one that finds it serving has an
effect. -/
inductive MainPhase where
  /-- Before `server` is set. -/
  | starting
  | serving
  /-- `SignalHandler` has called `Shutdown`. -/
  | shuttingDown
  /-- `Wait` has returned. -/
  | served
  /-- `WebRTCFactory::Shutdown` has returned. -/
  | cleanedUp
  /-- The service is destroyed. -/
  | ended
  deriving DecidableEq

structure Process where
  phase : MainPhase
  /-- `WebRTCFactory::initialized_`. -/
  initialized : Bool
  service : ServiceState

inductive ProcessAction where
  /-- `BuildAndStart`, which may return null. -/
  | buildAndStart (started : Bool)
  | signal
  | serve (action : ServiceAction)
  | wait
  /-- `WebRTCFactory::Shutdown`. -/
  | shutdown
  /-- The end of `main`. -/
  | destroy
  deriving DecidableEq

/-- The server runs handlers. -/
def MainPhase.running : MainPhase → Bool
  | .serving | .shuttingDown => true
  | _ => false

/-- Whether the server lets it happen: it takes calls until it is shut down, and goes on with
those it has taken until `Wait` returns. -/
def ServiceAction.admitted : ServiceAction → MainPhase → Bool
  | .call .., phase => phase = .serving
  | .handler .., phase => phase.running
  | .closeSession _, _ | .removal _, _ => true

/-- The call is over. -/
def Handler.returned (x : Handler) : Bool :=
  match x.phase with
  | .returned _ => true
  | _ => false

namespace ServiceState

/-- `~ListeningEngineServiceImpl` and `~SpeakingEngineServiceImpl`. -/
def destroy (s : ServiceState) : ServiceState := { s with sessions := s.sessions.clear }

end ServiceState

namespace Process

def step (s : Process) : ProcessAction → Option Process
  | .buildAndStart started =>
      if s.phase = .starting then
        some (if started then { s with phase := .serving }
          else { s with phase := .ended, service := s.service.destroy })
      else none
  | .signal =>
      -- there is no server before `BuildAndStart` has returned
      some (if s.phase = .serving then { s with phase := .shuttingDown } else s)
  | .serve action =>
      if action.admitted s.phase then
        (s.service.step action).map fun service => { s with service }
      else none
  | .wait =>
      if s.phase = .shuttingDown ∧ s.service.handlers.all Handler.returned then
        some { s with phase := .served }
      else none
  | .shutdown =>
      if s.phase = .served then some { s with phase := .cleanedUp, initialized := false }
      else none
  | .destroy =>
      if s.phase = .cleanedUp then
        some { s with phase := .ended, service := s.service.destroy }
      else none

end Process

/-- An engine, from the end of its initialization on: the main thread, the handler of signals, and
the service with its handlers and its detached removal threads. -/
def process : Machine Process ProcessAction where
  init := ⟨.starting, true, sessionTable.init⟩
  step := Process.step

namespace ServiceState

variable {s t : ServiceState} {action : ServiceAction}

/-- Only a handler creates sessions. -/
theorem isLive_of_step_of_not_handler (step : s.step action = some t)
    (other : ∀ index handler, action ≠ .handler index handler) {session : ℕ}
    (live : t.sessions.isLive session = true) : s.sessions.isLive session = true := by
  cases action with
  | call kind sessionId participantId =>
      cases step
      exact live
  | handler index action => exact absurd rfl (other index action)
  | closeSession number =>
      obtain rfl | ⟨_, f, -, rfl⟩ := closeSession_cases step
      · exact live
      · exact (s.sessions.isLive_modify f).symm.trans live
  | removal index =>
      obtain ⟨r, hr, rfl⟩ := Option.map_eq_some_iff.mp step
      exact (s.sessions.isLive_remove.mp live).1

/-- Only a session that is in the table starts a removal thread. -/
theorem removers_of_step_of_empty (step : s.step action = some t)
    (empty : s.sessions.size = 0) (idle : s.removers = []) : t.removers = [] := by
  refine List.eq_nil_iff_forall_not_mem.mpr fun r mem => ?_
  obtain old | ⟨found, -⟩ := removers_of_step step mem
  · rw [idle] at old
    cases old
  · exact s.sessions.size_eq_zero.mp empty _ (s.sessions.isLive_of_find? found)

variable {phase : MainPhase}

/-- Once `Wait` has returned no handler does anything. -/
theorem not_handler_of_admitted (admitted : action.admitted phase = true)
    (stopped : phase.running = false) (index : ℕ) (handler : HandlerAction) :
    action ≠ .handler index handler := by
  rintro rfl
  exact absurd admitted (Bool.eq_false_iff.mp stopped)

theorem handlers_of_step_of_admitted (step : s.step action = some t)
    (admitted : action.admitted phase = true) (stopped : phase.running = false) :
    t.handlers = s.handlers := by
  cases action with
  | call kind sessionId participantId =>
      obtain rfl : phase = .serving := of_decide_eq_true admitted
      cases stopped
  | handler index handler => exact absurd rfl (not_handler_of_admitted admitted stopped _ _)
  | closeSession number =>
      obtain rfl | ⟨_, f, -, rfl⟩ := closeSession_cases step <;> rfl
  | removal index =>
      obtain ⟨r, -, rfl⟩ := Option.map_eq_some_iff.mp step
      rfl

/-- An empty table stays empty then. -/
theorem size_of_step_of_admitted (step : s.step action = some t)
    (admitted : action.admitted phase = true) (stopped : phase.running = false)
    (empty : s.sessions.size = 0) : t.sessions.size = 0 := by
  refine t.sessions.size_eq_zero.mpr fun session live => ?_
  exact s.sessions.size_eq_zero.mp empty session
    (isLive_of_step_of_not_handler step (not_handler_of_admitted admitted stopped) live)

end ServiceState

namespace Process

variable {s t : Process} {action : ProcessAction}

/-! ### What a step does

The phases of `main` follow each other in one order.  Everything else goes on beside them, as far
as the server admits it. -/

/-- **What can happen to the process.** A step of the service is possible at any time that the
phase allows; the removal threads do not know of the phase. -/
inductive Moved (s : Process) : ProcessAction → Process → Prop
  | starts (starting : s.phase = .starting) :
      s.Moved (.buildAndStart true) { s with phase := .serving }
  | fails (starting : s.phase = .starting) :
      s.Moved (.buildAndStart false) { s with phase := .ended, service := s.service.destroy }
  | shutsDown (serving : s.phase = .serving) :
      s.Moved .signal { s with phase := .shuttingDown }
  | ignores (other : s.phase ≠ .serving) : s.Moved .signal s
  | serves {action : ServiceAction} {service : ServiceState}
      (admitted : action.admitted s.phase = true) (step : s.service.step action = some service) :
      s.Moved (.serve action) { s with service }
  | waits (shuttingDown : s.phase = .shuttingDown)
      (returned : s.service.handlers.all Handler.returned = true) :
      s.Moved .wait { s with phase := .served }
  | cleansUp (served : s.phase = .served) :
      s.Moved .shutdown { s with phase := .cleanedUp, initialized := false }
  | destroys (cleanedUp : s.phase = .cleanedUp) :
      s.Moved .destroy { s with phase := .ended, service := s.service.destroy }

theorem step_moved (step : s.step action = some t) : s.Moved action t := by
  cases action with
  | buildAndStart started =>
      obtain ⟨starting, built⟩ := Option.ite_none_right_eq_some.mp step
      cases built
      cases started
      · exact .fails starting
      · exact .starts starting
  | signal =>
      cases step
      split_ifs with serving
      · exact .shutsDown serving
      · exact .ignores serving
  | serve action =>
      obtain ⟨admitted, served⟩ := Option.ite_none_right_eq_some.mp step
      obtain ⟨service, own, rfl⟩ := Option.map_eq_some_iff.mp served
      exact .serves admitted own
  | wait =>
      obtain ⟨⟨shuttingDown, returned⟩, waited⟩ := Option.ite_none_right_eq_some.mp step
      cases waited
      exact .waits shuttingDown returned
  | shutdown =>
      obtain ⟨served, cleaned⟩ := Option.ite_none_right_eq_some.mp step
      cases cleaned
      exact .cleansUp served
  | destroy =>
      obtain ⟨cleanedUp, destroyed⟩ := Option.ite_none_right_eq_some.mp step
      cases destroyed
      exact .destroys cleanedUp

/-! ### Where the process is

What the phase says of the rest: before the start there is nothing, and once `Wait` has returned
there is no handler that could still do something. -/

/-- A session in the table. -/
def Live (s : Process) (session : ℕ) : Prop := s.service.sessions.isLive session = true

/-- How far `main` is, by what there is: the factory is up until it is shut down, and the table is
empty once the service is destroyed. -/
structure Staged (s : Process) : Prop where
  initialized : s.phase ≠ .cleanedUp → s.phase ≠ .ended → s.initialized = true
  fresh : s.phase = .starting → s.service = sessionTable.init
  returned : s.phase ≠ .starting → s.phase.running = false →
    ∀ x ∈ s.service.handlers, x.returned = true
  emptied : s.phase = .ended → s.service.sessions.size = 0

theorem staged_init : process.init.Staged where
  initialized _ _ := rfl
  fresh _ := rfl
  returned other := absurd rfl other
  emptied := nofun

theorem Staged.step (staged : s.Staged) (step : process.step s action = some t) : t.Staged := by
  cases step_moved step with
  | starts starting =>
      exact ⟨fun _ _ => staged.initialized (by simp [starting]) (by simp [starting]), nofun,
        nofun, nofun⟩
  | fails starting =>
      refine ⟨fun _ other => absurd rfl other, nofun, fun _ _ => ?_, fun _ => rfl⟩
      rw [staged.fresh starting]
      exact List.forall_mem_nil _
  | shutsDown serving =>
      exact ⟨fun _ _ => staged.initialized (by simp [serving]) (by simp [serving]), nofun,
        nofun, nofun⟩
  | ignores => exact staged
  | @serves action service admitted own =>
      refine ⟨staged.initialized, fun starting => ?_, fun starting stopped => ?_,
        fun ended => ?_⟩
      · -- nothing happens before the server is there
        rw [staged.fresh starting] at own
        rw [starting] at admitted
        cases action with
        | call | handler => cases admitted
        | closeSession | removal => cases own
      · rw [ServiceState.handlers_of_step_of_admitted own admitted stopped]
        exact staged.returned starting stopped
      · have stopped : s.phase.running = false := congrArg MainPhase.running ended
        exact ServiceState.size_of_step_of_admitted own admitted stopped (staged.emptied ended)
  | waits shuttingDown returned =>
      exact ⟨fun _ _ => staged.initialized (by simp [shuttingDown]) (by simp [shuttingDown]), nofun,
        fun _ _ => List.all_eq_true.mp returned, nofun⟩
  | cleansUp served =>
      exact ⟨fun other => absurd rfl other, nofun,
        fun _ _ => staged.returned (by simp [served]) (congrArg MainPhase.running served), nofun⟩
  | destroys cleanedUp =>
      exact ⟨fun _ other => absurd rfl other, nofun,
        fun _ _ => staged.returned (by simp [cleanedUp]) (congrArg MainPhase.running cleanedUp),
        fun _ => rfl⟩

/-! ### Orderly shutdowns

Both ways to go wrong leave something behind: a session in the table when WebRTC goes, or a removal
thread when the service goes.  What is left behind stays so until it does harm, so at the end of a
run the condition can be read off the steps. -/

/-- **The law of a step**: sessions come and go while WebRTC is up, and no removal thread runs
after the service has been destroyed. -/
structure Orderly (t : Taken Process ProcessAction) : Prop where
  created : ∀ session, ¬ t.before.Live session → t.after.Live session →
    t.before.initialized = true
  tornDown : ∀ session, t.before.Live session → ¬ t.after.Live session →
    t.before.initialized = true
  called : ∀ index, t.action = .serve (.removal index) → t.before.phase ≠ .ended

/-- The table is empty before WebRTC goes, and all removal threads have run before the service
goes. -/
def Settled (s : Process) : ProcessAction → Prop
  | .shutdown => s.service.sessions.size = 0
  | .destroy => s.service.removers = []
  | _ => True

instance : Decidable (Settled s action) := by
  unfold Settled
  split <;> infer_instance

theorem not_live_destroy (service : ServiceState) (session : ℕ) :
    ¬ service.destroy.sessions.isLive session = true :=
  service.destroy.sessions.size_eq_zero.mp rfl session

/-- Sessions are only created for the calls that are admitted. -/
theorem initialized_of_created (staged : s.Staged) (step : process.step s action = some t)
    {session : ℕ} (missing : ¬ s.Live session) (live : t.Live session) :
    s.initialized = true := by
  cases step_moved step with
  | @serves action service admitted own =>
      have running : s.phase.running ≠ false := fun stopped =>
        missing (ServiceState.isLive_of_step_of_not_handler own
          (ServiceState.not_handler_of_admitted admitted stopped) live)
      exact staged.initialized (fun phase => running (congrArg MainPhase.running phase))
        fun phase => running (congrArg MainPhase.running phase)
  | fails | destroys => exact absurd live (not_live_destroy s.service session)
  | _ => exact absurd live missing

/-- Once WebRTC is down the server runs no handlers. -/
theorem Staged.stopped (staged : s.Staged) (down : s.initialized = false) :
    s.phase.running = false := by
  refine Bool.eq_false_iff.mpr fun running => ?_
  have up : s.initialized = true := by
    refine staged.initialized ?_ ?_ <;>
    · intro phase
      rw [phase] at running
      cases running
  rw [down] at up
  cases up

/-- What an orderly run keeps: no session outlives the factory, and no removal thread the service.
-/
structure Clean (s : Process) : Prop extends s.Staged where
  empty : s.initialized = false → s.service.sessions.size = 0
  called : s.phase = .ended → s.service.removers = []

theorem clean_init : process.init.Clean where
  toStaged := staged_init
  empty := nofun
  called := nofun

theorem Clean.step (clean : s.Clean) (settled : s.Settled action)
    (step : process.step s action = some t) : t.Clean := by
  refine ⟨clean.toStaged.step step, ?_, ?_⟩
  · intro down
    cases step_moved step with
    | @serves action service admitted own =>
        exact ServiceState.size_of_step_of_admitted own admitted (clean.stopped down)
          (clean.empty down)
    | fails | destroys => rfl
    | cleansUp => exact settled
    | _ => exact clean.empty down
  · intro ended
    cases step_moved step with
    | @serves action service admitted own =>
        exact ServiceState.removers_of_step_of_empty own (clean.emptied ended)
          (clean.called ended)
    | fails starting => exact congrArg ServiceState.removers (clean.fresh starting)
    | destroys => exact settled
    | ignores => exact clean.called ended
    | _ => cases ended

theorem Clean.orderly (clean : s.Clean) (step : process.step s action = some t) :
    Orderly ⟨s, action, t⟩ where
  created _ missing live := initialized_of_created clean.toStaged step missing live
  tornDown session live _ := by
    by_contra down
    exact s.service.sessions.size_eq_zero.mp (clean.empty (Bool.eq_false_iff.mpr down)) session live
  called index isRemoval ended := by
    obtain rfl : action = .serve (.removal index) := isRemoval
    have moved : s.Moved (.serve (.removal index)) t := step_moved step
    cases moved with
    | serves admitted own =>
        obtain ⟨r, hr, -⟩ := Option.map_eq_some_iff.mp own
        rw [clean.called ended] at hr
        cases hr

/-- What a step that is not settled leaves behind: a session to be torn down too late, or a
thread that is going to call a service that is gone. -/
def Overdue (s : Process) : Prop :=
  (s.initialized = false ∧ ∃ session, s.Live session) ∨
    s.phase = .ended ∧ s.service.removers ≠ []

theorem overdue_of_not_settled (step : process.step s action = some t)
    (unsettled : ¬ s.Settled action) : t.Overdue := by
  cases step_moved step with
  | cleansUp =>
      refine .inl ⟨rfl, ?_⟩
      by_contra none
      rw [not_exists] at none
      exact unsettled (s.service.sessions.size_eq_zero.mpr none)
  | destroys => exact .inr ⟨rfl, unsettled⟩
  | _ => exact absurd trivial unsettled

/-- And it stays behind while every step is orderly. -/
theorem Overdue.step (overdue : s.Overdue) (step : process.step s action = some t)
    (orderly : Orderly ⟨s, action, t⟩) : t.Overdue := by
  obtain ⟨down, session, live⟩ | ⟨ended, waiting⟩ := overdue
  · refine .inl ⟨?_, session, ?_⟩
    · cases step_moved step <;> first | rfl | exact down
    · by_contra gone
      have up := orderly.tornDown session live gone
      rw [down] at up
      cases up
  · refine .inr ?_
    cases step_moved step with
    | ignores => exact ⟨ended, waiting⟩
    | @serves action service admitted own =>
        refine ⟨ended, ?_⟩
        rw [ended] at admitted
        cases action with
        | call | handler => cases admitted
        | closeSession number =>
            obtain rfl | ⟨_, f, -, rfl⟩ := ServiceState.closeSession_cases own
            · exact waiting
            · exact List.append_ne_nil_of_left_ne_nil waiting _
        | removal index => exact absurd ended (orderly.called index rfl)
    | starts phase | fails phase | shutsDown phase | waits phase | cleansUp phase
      | destroys phase => simp [ended] at phase

theorem Staged.not_overdue (staged : s.Staged) (ended : s.phase = .ended)
    (idle : s.service.removers = []) : ¬ s.Overdue := by
  rintro (⟨-, session, live⟩ | ⟨-, waiting⟩)
  · exact s.service.sessions.size_eq_zero.mp (staged.emptied ended) session live
  · exact waiting idle

/-- A run that is over, and orderly, was settled. -/
theorem settled_of_orderly {actions : List ProcessAction}
    (reached : process.run process.init actions = some s) (ended : s.phase = .ended)
    (idle : s.service.removers = [])
    (orderly : ∀ t ∈ process.transitions process.init actions, Orderly t) :
    process.Meets Settled process.init actions := by
  have staged : s.Staged := process.invariant_of_run (fun _ _ _ => Staged.step) staged_init reached
  have history := process.history_invariant
    (motive := fun past s => (∀ t ∈ past, Orderly t) →
      (∀ t ∈ past, t.before.Settled t.action) ∨ s.Overdue)
    ?_ (fun _ => .inl (List.forall_mem_nil _)) reached
  · rw [List.nil_append] at history
    exact (history orderly).resolve_right (staged.not_overdue ended idle)
  · intro past s action t before step orderly
    rw [List.forall_mem_append, List.forall_mem_singleton] at orderly
    obtain settled | overdue := before orderly.1
    · by_cases here : s.Settled action
      · refine .inl (List.forall_mem_append.mpr ⟨settled, List.forall_mem_singleton.mpr here⟩)
      · exact .inr (overdue_of_not_settled step here)
    · exact .inr (overdue.step step orderly.2)

/-! ### Who has to see to it

A condition on single steps that is enough: it is about the acknowledgements and the removal
threads, and no longer about the table. -/

/-- Every handler that cannot write its acknowledgement leaves its session to somebody else, and
all removal threads have run before WebRTC goes. -/
def Answered (s : Process) : ProcessAction → Prop
  | .serve action => s.service.OthersAnswer action
  | .shutdown => s.service.removers = []
  | _ => True

instance : Decidable (Answered s action) := by
  unfold Answered
  split <;> infer_instance

/-- What a run keeps in which somebody answers for every session: no slot is lost, and once WebRTC
is down neither a session nor a removal thread is left. -/
structure Answering (s : Process) : Prop extends s.Staged where
  noLeak : s.service.NoLeak
  left : s.phase = .cleanedUp ∨ s.phase = .ended →
    s.service.sessions.size = 0 ∧ s.service.removers = []

theorem answering_init : process.init.Answering where
  toStaged := staged_init
  noLeak := ServiceState.noLeak_init
  left phase := by rcases phase with phase | phase <;> cases phase

/-- Once all handlers have returned and all removal threads have run the table is empty. -/
theorem Answering.settled (answering : s.Answering) (answered : s.Answered action)
    (step : process.step s action = some t) : s.Settled action := by
  cases step_moved step with
  | cleansUp served =>
      refine answering.noLeak.emptied (fun x mem => ?_) answered
      have returned := answering.returned (by simp [served])
        (congrArg MainPhase.running served) x mem
      unfold Handler.returned at returned
      split at returned
      next status phase => exact ⟨status, phase⟩
      next => cases returned
  | destroys cleanedUp => exact (answering.left (.inl cleanedUp)).2
  | _ => trivial

theorem Answering.step (answering : s.Answering) (answered : s.Answered action)
    (step : process.step s action = some t) : t.Answering := by
  have settled := answering.settled answered step
  refine ⟨answering.toStaged.step step, ?_, ?_⟩
  · cases step_moved step with
    | serves admitted own => exact (answering.noLeak.step_iff own).mpr answered
    | fails | destroys => exact .of_answered nofun
    | _ => exact answering.noLeak
  · intro phase
    cases step_moved step with
    | @serves action service admitted own =>
        obtain ⟨empty, idle⟩ := answering.left phase
        have stopped : s.phase.running = false := by
          rcases phase with phase | phase <;> exact congrArg MainPhase.running phase
        exact ⟨ServiceState.size_of_step_of_admitted own admitted stopped empty,
          ServiceState.removers_of_step_of_empty own empty idle⟩
    | fails starting => exact ⟨rfl, congrArg ServiceState.removers (answering.fresh starting)⟩
    | cleansUp => exact ⟨settled, answered⟩
    | destroys => exact ⟨rfl, settled⟩
    | ignores => exact answering.left phase
    | _ => rcases phase with phase | phase <;> cases phase

/-- **When a shutdown is orderly.**  Of a run that is over, exactly if no session is left when
WebRTC is shut down and no removal thread when the service is destroyed; and it is if every
handler that cannot write its acknowledgement leaves its session to somebody else, and the
removal threads have run before WebRTC is shut down. -/
theorem shutdown_orderly_iff {actions : List ProcessAction}
    (reached : process.run process.init actions = some s) (ended : s.phase = .ended)
    (idle : s.service.removers = []) :
    ((∀ t ∈ process.transitions process.init actions, Orderly t) ↔
      process.Meets Settled process.init actions) ∧
    (process.Meets Answered process.init actions →
      process.Meets Settled process.init actions) := by
  refine ⟨⟨settled_of_orderly reached ended idle, fun settled t mem => ?_⟩,
    fun answered t mem => ?_⟩
  · obtain ⟨clean, -, step⟩ := process.transitions_of_meets
      (fun _ _ _ clean settled step => Clean.step clean settled step) clean_init settled t mem
    exact clean.orderly step
  · obtain ⟨answering, here, step⟩ := process.transitions_of_meets
      (fun _ _ _ answering answered step => Answering.step answering answered step)
      answering_init answered t mem
    exact answering.settled here step

/-- A client that connects, the acknowledgement of which may fail, and leaves; and the end of
the process. -/
def serving (written : Bool) : List ProcessAction :=
  [.buildAndStart true, .serve (.call .control (some "s") (some "p")),
    .serve (.handler 0 .lookup), .serve (.handler 0 .attach), .serve (.handler 0 (.ack written))] ++
  (if written then [.serve (.handler 0 .cancel), .signal, .serve (.handler 0 .poll),
    .serve (.handler 0 .leave)] else [.signal]) ++
  [.wait, .shutdown, .destroy]

/-- **The session of a client that was gone too early is torn down too late.** -/
theorem shutdown_orderly_iff_vanished :
    (∀ t ∈ process.transitions process.init (serving true), Orderly t) ∧
      ¬ ∀ t ∈ process.transitions process.init (serving false), Orderly t := by
  have ends : ∀ written, ∃ s ∈ process.run process.init (serving written),
      s.phase = .ended ∧ s.service.removers = [] := by decide +kernel
  constructor
  · obtain ⟨s, reached, ended, idle⟩ := ends true
    obtain ⟨orderly, settled⟩ := shutdown_orderly_iff reached ended idle
    exact orderly.mpr (settled (by decide +kernel))
  · obtain ⟨s, reached, ended, idle⟩ := ends false
    obtain ⟨orderly, -⟩ := shutdown_orderly_iff reached ended idle
    exact mt orderly.mp (by decide +kernel)

end Process

end Saasy.Service
