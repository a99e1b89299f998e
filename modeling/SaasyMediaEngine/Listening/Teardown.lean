import Mathlib.Data.List.Infix
import SaasyMediaEngine.Listening.Commands
import SaasyMediaEngine.Transition.Machine

/-!
# Tearing a session down while commands are executed

`Session::Cleanup` detaches the sink, closes the consumers and the transport, and stops the
command processor last.  Until then the command thread goes on: `teardown` interleaves the
steps of `Cleanup` with those of the thread, on any commands.

What a command adds behind the back of `Cleanup` stays.  `InTime` says of a step of the
command thread that it does not: consumers are registered only before the sink is detached
(and under an id of their own, as the consumer they would replace is out of reach then), and
a transport is set only before the transport is closed.

A command attaches the sink to a track before it registers the consumer of that track.
`attaching` is the protocol that the commands keep in between.

A command is a program, and the command thread runs it statement by statement, so that `Cleanup` may
come in between any two; what is left of it is part of the state.  `Released` is the invariant, and
it is read off what is left of `Cleanup`: a release that has been passed has left nothing behind,
except that the sink may be attached to the track of a consumer which the command thread is about to
register.  `attaching` keeps this exception to one track, and a command that has ended, by a throw
or not, has none.

What comes after the join needs no condition, as there is no command thread any more.
-/

namespace Saasy.ListeningEngine

open Transition Control Wire Throwing

/-! ### The steps

The statements of `Cleanup` are a list, and what is left of it is part of the state, so "already
released" is "no longer in the list". The command thread stands before a statement of a command, or
between two commands. -/

/-- The statements of `Session::Cleanup`, after `cleaned_up_` is set.  Those that concern neither
sink, consumers nor transport are here for their places in the order. -/
inductive CleanupStep where
  /-- `audio_track_sink->Stop()`. -/
  | stopSink
  /-- The first critical section: `RemoveSink` for each consumer. -/
  | detachSinks
  | stopPipeline
  | stopStreams
  /-- The second one: `Close` for each consumer, and `clear`. -/
  | closeConsumers
  | closeTransport
  | stopAdm
  /-- `running_.exchange(false)` in `CommandProcessor::Stop`. -/
  | stopProcessor
  /-- `command_queue_->Stop()`. -/
  | stopQueue
  /-- `command_thread_.join()`. -/
  | join
  deriving DecidableEq

/-- `Session::Cleanup`. -/
def cleanupSteps : List CleanupStep :=
  [.stopSink, .detachSinks, .stopPipeline, .stopStreams, .closeConsumers, .closeTransport,
    .stopAdm, .stopProcessor, .stopQueue, .join]

/-- Where `CommandProcessor::RunLoop` is.  A command that is executed is the program that is left
of it, with the answers that it is still going to give. -/
inductive CommandThread where
  /-- At `while (running_)`. -/
  | checking
  /-- At `TryPop`. -/
  | popping
  /-- In `Execute`, with what is left of it. -/
  | executing (rest : Program SessionOp Session (Answer CommandResult) Unit)
  | exited

structure Teardown where
  session : Session
  /-- `running_` of the command processor. -/
  running : Bool
  commandQueue : CommandQueue Command
  thread : CommandThread
  /-- What is left of `Cleanup`. -/
  cleanup : List CleanupStep

inductive TeardownAction where
  /-- A command is pushed. -/
  | push (command : Command)
  /-- The command thread takes a command, if there is one. -/
  | tryPop (outcome : Outcome)
  /-- The command thread goes on. -/
  | thread
  /-- `Cleanup` goes on. -/
  | cleanup

/-- The tracks of the consumers. -/
def Session.tracks (s : Session) : List ℕ := s.consumers.filterMap (·.2.track)

/-- The first critical section of `Cleanup`. -/
def Session.detachSinks (s : Session) : Session :=
  { s with sinks := s.sinks.filter fun track => track ∉ s.tracks }

/-- `transport->Close()`, if there is one. -/
def Session.closeTransport (s : Session) : Session :=
  { s with transport := s.transport.map ({ · with closed := true }) }

namespace Teardown

/-- A session whose command thread was started. -/
def created : Teardown := ⟨.created, true, .empty, .checking, cleanupSteps⟩

/-- What a step of `Cleanup` does.  The join waits for the command thread, and what concerns none
of the three members does nothing here. -/
def perform (s : Teardown) : CleanupStep → Option Teardown
  | .detachSinks => some { s with session := s.session.detachSinks }
  | .closeConsumers => some { s with session := { s.session with consumers := [] } }
  | .closeTransport => some { s with session := s.session.closeTransport }
  | .stopProcessor => some { s with running := false }
  | .stopQueue => some { s with commandQueue := s.commandQueue.stop }
  | .join =>
      match s.thread with
      | .exited => some s
      | _ => none
  | .stopSink | .stopPipeline | .stopStreams | .stopAdm => some s

/-- The command thread goes on: it tests `running_` between two commands, and takes a command to
its end, one statement at a time. -/
def stepThread (s : Teardown) : Option Teardown :=
  match s.thread with
  | .checking => some { s with thread := if s.running then .popping else .exited }
  | .popping => none
  | .executing (.done ()) => some { s with thread := .checking }
  | .executing (.look next) => some { s with thread := .executing (next s.session) }
  | .executing (.perform op next) =>
      some { s with session := op.apply s.session, thread := .executing next }
  | .executing (.emit _ next) => some { s with thread := .executing next }
  | .exited => none

/-- The command thread takes a command, if there is one. -/
def stepTryPop [Double.UndefinedCast] (outcome : Outcome) (s : Teardown) : Option Teardown :=
  match s.thread with
  | .popping =>
      match s.commandQueue.tryPop with
      | some (command, commandQueue) =>
          some { s with
            commandQueue := commandQueue
            thread := .executing (listeningEngine.execute command outcome) }
      | none => some { s with thread := .checking }
  | _ => none

/-- One step, if it is enabled. -/
def step [Double.UndefinedCast] (s : Teardown) : TeardownAction → Option Teardown
  | .push command => some { s with commandQueue := s.commandQueue.push command }
  | .tryPop outcome => s.stepTryPop outcome
  | .thread => s.stepThread
  | .cleanup =>
      match s.cleanup with
      | [] => none
      | first :: rest => { s with cleanup := rest }.perform first

/-- The operation of a command that a step performs. -/
def op? (s : Teardown) : TeardownAction → Option SessionOp
  | .thread =>
      match s.thread with
      | .executing rest => rest.next?
      | _ => none
  | _ => none

/-- An operation adds nothing that `Cleanup` has already released, or can not reach. -/
def Reached (s : Teardown) : SessionOp → Prop
  | .registerConsumer consumerId _ =>
      .detachSinks ∈ s.cleanup ∧ s.session.consumers.lookup consumerId = none
  | .resetTransport _ _ => .closeTransport ∈ s.cleanup
  | _ => True

/-- Neither does a step. -/
def InTime (s : Teardown) (action : TeardownAction) : Prop :=
  ∀ op ∈ s.op? action, s.Reached op

instance (s : Teardown) : DecidablePred s.Reached
  | .registerConsumer _ _ => inferInstanceAs (Decidable (_ ∧ _))
  | .resetTransport _ _ => inferInstanceAs (Decidable (_ ∈ s.cleanup))
  | .newDevice _ | .deviceLoaded | .newTransportListener _ | .consume _ _ | .addSink _ =>
      .isTrue trivial

instance (s : Teardown) (action : TeardownAction) : Decidable (s.InTime action) :=
  inferInstanceAs (Decidable (∀ op ∈ s.op? action, s.Reached op))

/-- The steps of the command thread and of `Cleanup`.  `Released` is proved by cases on them: a
statement of a command changes the session, or looks at it, or answers. -/
inductive Moved [Double.UndefinedCast] (s : Teardown) : TeardownAction → Teardown → Prop
  | pushes (command : Command) :
      Moved s (.push command) { s with commandQueue := s.commandQueue.push command }
  | pops {command : Command} {commandQueue : CommandQueue Command} (outcome : Outcome)
      (popping : s.thread = .popping)
      (popped : s.commandQueue.tryPop = some (command, commandQueue)) :
      Moved s (.tryPop outcome)
        { s with
          commandQueue := commandQueue
          thread := .executing (listeningEngine.execute command outcome) }
  | sleeps {outcome : Outcome} (popping : s.thread = .popping) :
      Moved s (.tryPop outcome) { s with thread := .checking }
  | checks (checking : s.thread = .checking) :
      Moved s .thread { s with thread := if s.running then .popping else .exited }
  | finishes (done : s.thread = .executing (.done ())) :
      Moved s .thread { s with thread := .checking }
  | looks {next : Session → Program SessionOp Session (Answer CommandResult) Unit}
      (look : s.thread = .executing (.look next)) :
      Moved s .thread { s with thread := .executing (next s.session) }
  | performs {op : SessionOp} {next : Program SessionOp Session (Answer CommandResult) Unit}
      (perform : s.thread = .executing (.perform op next)) :
      Moved s .thread { s with session := op.apply s.session, thread := .executing next }
  | emits {answer : Answer CommandResult}
      {next : Program SessionOp Session (Answer CommandResult) Unit}
      (emit : s.thread = .executing (.emit answer next)) :
      Moved s .thread { s with thread := .executing next }
  | cleans {first : CleanupStep} {rest : List CleanupStep} (t : Teardown)
      (left : s.cleanup = first :: rest)
      (performed : ({ s with cleanup := rest } : Teardown).perform first = some t) :
      Moved s .cleanup t

variable [Double.UndefinedCast] {s t : Teardown} {action : TeardownAction}

theorem stepThread_moved (step : s.stepThread = some t) : s.Moved .thread t := by
  unfold stepThread at step
  split at step
  case h_1 checking =>
    cases step
    exact .checks checking
  case h_2 => cases step
  case h_3 done =>
    cases step
    exact .finishes done
  case h_4 next look =>
    cases step
    exact .looks look
  case h_5 op next perform =>
    cases step
    exact .performs perform
  case h_6 answer next emit =>
    cases step
    exact .emits emit
  case h_7 => cases step

theorem step_moved (step : s.step action = some t) : s.Moved action t := by
  cases action with
  | push command =>
      cases step
      exact .pushes command
  | tryPop outcome =>
      change s.stepTryPop outcome = some t at step
      unfold stepTryPop at step
      split at step
      case h_1 popping =>
        split at step
        case h_1 command commandQueue popped =>
          cases step
          exact .pops outcome popping popped
        case h_2 =>
          cases step
          exact .sleeps popping
      case h_2 => cases step
  | thread => exact stepThread_moved step
  | cleanup =>
      change (match s.cleanup with
        | [] => none
        | first :: rest => ({ s with cleanup := rest } : Teardown).perform first) = some t at step
      split at step
      case h_1 => cases step
      case h_2 first rest left => exact .cleans t left step

end Teardown

/-! ### The sink is attached to a track before its consumer is registered

Between these two statements of `CreateConsumer` the sink is attached to a track that no consumer
accounts for.  The automaton here says that no other command does that, and that this one makes up
for it before it answers. -/

/-- The track whose consumer is still to be registered. -/
def attaching : Option ℕ → SessionOp ⊕ Answer CommandResult → Option (Option ℕ)
  | none, .inl (.addSink track) => some (some track)
  | none, .inl (.registerConsumer _ _) => none
  | none, _ => some none
  | some track, .inl (.registerConsumer _ consumer) =>
      if consumer.track = some track then some none else none
  | some _, _ => none

/-- Whatever a command does, it leaves no track without its consumer. -/
def Attaches (body : Body) : Prop :=
  Throwing.Follows attaching body none (fun _ track => track = none) fun track => track = none

theorem attaches_loadDevice [Double.UndefinedCast]
    (routerRtpCapabilities : RtpCapabilitiesFinalized) (outcome : DeviceOutcome) :
    Attaches (loadDevice deviceAccess routerRtpCapabilities outcome) := by
  unfold Attaches loadDevice
  simp only [follows_bind, follows_read]
  intro s
  split_ifs
  · exact ⟨none, rfl, rfl⟩
  · simp only [follows_bind, follows_read, follows_perform]
    intro s
    refine ⟨none, rfl, follows_call (fun json => follows_call (fun _ => ?_) rfl) rfl⟩
    exact ⟨none, rfl, none, rfl, rfl⟩

theorem attaches_getDeviceRtpCapabilities [Double.UndefinedCast] (outcome : DeviceOutcome) :
    Attaches (getDeviceRtpCapabilities deviceAccess outcome) := by
  unfold Attaches getDeviceRtpCapabilities
  simp only [follows_bind, follows_read]
  intro s
  refine follows_require (follows_call (fun json => follows_call (fun _ => ?_) rfl) rfl) rfl
  exact ⟨none, rfl, rfl⟩

theorem attaches_createTransport (transportId : String) (outcome : DeviceOutcome) :
    Attaches (createTransport deviceAccess transportId outcome) := by
  unfold Attaches createTransport
  simp only [follows_bind, follows_read, follows_perform]
  intro s
  refine follows_require (fun s => ⟨none, rfl, fun s => follows_call (fun _ s => ?_) rfl⟩) rfl
  exact ⟨none, rfl, none, rfl, rfl⟩

theorem attaches_createConsumer (consumerId : String) (kind : MediaKind) (outcome : Outcome) :
    Attaches (createConsumer consumerId kind outcome) := by
  unfold Attaches createConsumer
  simp only [follows_bind, follows_read, follows_perform]
  intro s
  refine follows_require (follows_require (follows_call (fun consumed => ?_) rfl) rfl) rfl
  refine follows_require? (fun hasTrack _ s => ⟨none, rfl, ?_⟩) rfl
  refine follows_require? (fun track isTrack => ⟨some track, rfl, none, ?_, ?_⟩) rfl
  · exact if_pos isTrack
  · exact ⟨none, rfl, rfl⟩

theorem attaches_resumeConsumer (deviceConsumerId : String) :
    Attaches (resumeConsumer deviceConsumerId) := by
  unfold Attaches resumeConsumer
  simp only [follows_bind, follows_read]
  intro s
  exact follows_require ⟨none, rfl, rfl⟩ rfl

theorem Command.attaches [Double.UndefinedCast] (command : Command) (outcome : Outcome) :
    (listeningEngine.execute command outcome).Follows attaching none fun _ track =>
      track = none := by
  refine follows_catchWith (Program.Follows.mono (?_ : Attaches (command.body outcome))
    fun result track holds => ?_)
  · cases command with
    | loadDevice routerRtpCapabilities => exact attaches_loadDevice routerRtpCapabilities _
    | getDeviceRtpCapabilities => exact attaches_getDeviceRtpCapabilities _
    | createTransport transportId => exact attaches_createTransport transportId _
    | createConsumer consumerId kind => exact attaches_createConsumer consumerId kind outcome
    | resumeConsumer deviceConsumerId => exact attaches_resumeConsumer deviceConsumerId
  · cases result with
    | ok _ => exact holds
    | error message =>
        obtain rfl : track = none := holds
        exact fun message => ⟨none, rfl, rfl⟩

/-! ### The invariant

It is indexed by the track whose consumer is still to be registered, if there is one.  Without a
pending track it says of each of the three members that it stays released once `Cleanup` is past
the statement that releases it. -/

/-- What is left of the command that is executed registers the consumer of a track, if the
sink was attached to one. -/
def CommandThread.Attaching (track : Option ℕ) : CommandThread → Prop
  | .executing rest => rest.Follows attaching track fun _ track => track = none
  | _ => track = none

namespace Teardown

/-- What `Cleanup` has released so far stays released, up to a track whose consumer is still
to be registered. -/
structure Released (s : Teardown) (track : Option ℕ) : Prop where
  suffix : s.cleanup <:+ cleanupSteps
  attaching : s.thread.Attaching track
  sinks : ∀ sink ∈ s.session.sinks,
    track = some sink ∨ .detachSinks ∈ s.cleanup ∧ sink ∈ s.session.tracks
  consumers : .closeConsumers ∉ s.cleanup → s.session.consumers = []
  transport : .closeTransport ∉ s.cleanup →
    ∀ transport ∈ s.session.transport, transport.closed = true
  joined : .join ∉ s.cleanup → s.thread = .exited

theorem released_created : created.Released none where
  suffix := List.suffix_refl _
  attaching := rfl
  sinks _ mem := absurd mem List.not_mem_nil
  consumers _ := rfl
  transport _ _ mem := absurd mem (Option.not_mem_none _)
  joined left := absurd left (by decide)

variable {s t : Teardown} {action : TeardownAction} {track : Option ℕ}

/-- The command thread goes on without a change of the session. -/
theorem Released.of_thread (released : s.Released track) (session : t.session = s.session)
    (cleanup : t.cleanup = s.cleanup) (alive : s.thread ≠ .exited)
    (attaching : t.thread.Attaching track) : t.Released track where
  suffix := cleanup ▸ released.suffix
  attaching := attaching
  sinks := by
    rw [session, cleanup]
    exact released.sinks
  consumers := by
    rw [session, cleanup]
    exact released.consumers
  transport := by
    rw [session, cleanup]
    exact released.transport
  joined left := absurd (released.joined (cleanup ▸ left)) alive

/-! ### What a command adds

Three operations matter: attaching the sink, registering a consumer and replacing the transport.
Each of them is harmless as long as the statement of `Cleanup` that will undo it is still to come,
and a consumer does not take the place of another one. -/

/-- The consumers are closed after the sink is detached. -/
theorem closeConsumers_of_detachSinks {steps : List CleanupStep} (suffix : steps <:+ cleanupSteps)
    (detaching : .detachSinks ∈ steps) : .closeConsumers ∈ steps := by
  have all : ∀ steps ∈ cleanupSteps.tails, CleanupStep.detachSinks ∈ steps →
      CleanupStep.closeConsumers ∈ steps := by decide
  exact all steps ((List.mem_tails _ _).mpr suffix) detaching

theorem mem_tracks_registerConsumer {session : Session} {consumerId : String}
    {consumer : Consumer} (free : session.consumers.lookup consumerId = none) {sink : ℕ}
    (mem : sink ∈ session.tracks ∨ consumer.track = some sink) :
    sink ∈ ((SessionOp.registerConsumer consumerId consumer).apply session).tracks := by
  refine List.mem_filterMap.mpr ?_
  obtain old | new := mem
  · obtain ⟨entry, mem, isTrack⟩ := List.mem_filterMap.mp old
    have other : entry.1 ≠ consumerId := by
      have apart := List.lookup_eq_none_iff.mp free entry mem
      rintro rfl
      simp at apart
    exact ⟨entry, Codec.SortedMap.mem_insert_of_mem mem other _, isTrack⟩
  · exact ⟨(consumerId, consumer), Codec.SortedMap.mem_insert_self _ _ _, new⟩

/-- Every attached track is still accounted for after an operation of a command. -/
theorem Released.sinks_of_op (released : s.Released track) {op : SessionOp}
    (reached : s.Reached op) {track' : Option ℕ}
    (accepted : ListeningEngine.attaching track (.inl op) = some track') :
    ∀ sink ∈ (op.apply s.session).sinks,
      track' = some sink ∨ .detachSinks ∈ s.cleanup ∧ sink ∈ (op.apply s.session).tracks := by
  cases track with
  | none =>
      cases op with
      | addSink sink' =>
          cases accepted
          intro sink mem
          obtain rfl | old := List.mem_insert_iff.mp mem
          · exact .inl rfl
          · exact .inr ((released.sinks sink old).resolve_left nofun)
      | registerConsumer consumerId consumer => cases accepted
      | _ =>
          cases accepted
          exact released.sinks
  | some registering =>
      cases op with
      | registerConsumer consumerId consumer =>
          obtain ⟨detaching, free⟩ := reached
          change (if consumer.track = some registering then some none else none) = some track'
            at accepted
          split_ifs at accepted with same
          intro sink mem
          refine .inr ⟨detaching, mem_tracks_registerConsumer free ?_⟩
          obtain now | ⟨-, before⟩ := released.sinks sink mem
          · exact .inr (same.trans now)
          · exact .inl before
      | _ => cases accepted

theorem Released.consumers_of_op (released : s.Released track) {op : SessionOp}
    (reached : s.Reached op) (closed : .closeConsumers ∉ s.cleanup) :
    (op.apply s.session).consumers = [] := by
  cases op with
  | registerConsumer consumerId consumer =>
      exact absurd (closeConsumers_of_detachSinks released.suffix reached.1) closed
  | _ => exact released.consumers closed

theorem Released.transport_of_op (released : s.Released track) {op : SessionOp}
    (reached : s.Reached op) (closed : .closeTransport ∉ s.cleanup) :
    ∀ transport ∈ (op.apply s.session).transport, transport.closed = true := by
  have before := released.transport closed
  cases op with
  | resetTransport object listener => exact absurd reached closed
  | consume consumerId consumer =>
      intro transport mem
      obtain ⟨old, found, rfl⟩ := Option.map_eq_some_iff.mp mem
      exact before old found
  | _ => exact before

/-- A command performs an operation. -/
theorem Released.performs (released : s.Released track) {op : SessionOp}
    {next : Program SessionOp Session (Answer CommandResult) Unit}
    (perform : s.thread = .executing (.perform op next)) (reached : s.Reached op) :
    ∃ track', ({ s with session := op.apply s.session, thread := .executing next } :
      Teardown).Released track' := by
  have attaching := released.attaching
  rw [perform] at attaching
  obtain ⟨track', accepted, follows⟩ := attaching
  exact ⟨track', released.suffix, follows, released.sinks_of_op reached accepted,
    released.consumers_of_op reached, released.transport_of_op reached,
    fun left => absurd (released.joined left) (by rw [perform]; nofun)⟩

/-! ### What `Cleanup` releases

Each of its three releases is one lemma, and the rest of its statements is another; the join is
what ends the command thread. -/

/-- A statement that is left, other than the first one, is left after it. -/
theorem mem_rest {first step : CleanupStep} {rest : List CleanupStep}
    (left : s.cleanup = first :: rest) (mem : step ∈ s.cleanup) (other : step ≠ first) :
    step ∈ rest := by
  rw [left, List.mem_cons] at mem
  exact mem.resolve_left other

theorem not_mem_cleanup {first step : CleanupStep} {rest : List CleanupStep}
    (left : s.cleanup = first :: rest) (notMem : step ∉ rest) (other : step ≠ first) :
    step ∉ s.cleanup :=
  fun mem => notMem (mem_rest left mem other)

theorem Released.suffix_rest (released : s.Released track) {first : CleanupStep}
    {rest : List CleanupStep} (left : s.cleanup = first :: rest) : rest <:+ cleanupSteps :=
  (List.suffix_cons first rest).trans (left ▸ released.suffix)

/-- A statement of `Cleanup` that releases nothing of the session. -/
theorem Released.skips (released : s.Released track) {first : CleanupStep}
    {rest : List CleanupStep} (left : s.cleanup = first :: rest) (session : t.session = s.session)
    (thread : t.thread = s.thread) (cleanup : t.cleanup = rest) (others : first ∉
      [CleanupStep.detachSinks, .closeConsumers, .closeTransport, .join]) : t.Released track := by
  have other : ∀ step ∈ [CleanupStep.detachSinks, .closeConsumers, .closeTransport, .join],
      step ≠ first := by
    rintro step mem rfl
    exact others mem
  refine ⟨cleanup ▸ released.suffix_rest left, ?_, ?_, ?_, ?_, ?_⟩
  · rw [thread]
    exact released.attaching
  · rw [session, cleanup]
    intro sink mem
    refine (released.sinks sink mem).imp_right fun registered => ⟨?_, registered.2⟩
    exact mem_rest left registered.1 (other _ (by decide))
  · rw [session, cleanup]
    exact fun closed => released.consumers (not_mem_cleanup left closed (other _ (by decide)))
  · rw [session, cleanup]
    exact fun closed => released.transport (not_mem_cleanup left closed (other _ (by decide)))
  · rw [thread, cleanup]
    exact fun joined => released.joined (not_mem_cleanup left joined (other _ (by decide)))

/-- The sink is detached. -/
theorem Released.detachSinks (released : s.Released track) {rest : List CleanupStep}
    (left : s.cleanup = .detachSinks :: rest) :
    ({ s with session := s.session.detachSinks, cleanup := rest } : Teardown).Released track := by
  refine ⟨released.suffix_rest left, released.attaching, ?_, ?_, ?_, ?_⟩
  · intro sink mem
    obtain ⟨attached, kept⟩ := List.mem_filter.mp mem
    exact .inl ((released.sinks sink attached).resolve_right fun registered => by
      simp [registered.2] at kept)
  · exact fun closed => released.consumers (not_mem_cleanup left closed nofun)
  · exact fun closed => released.transport (not_mem_cleanup left closed nofun)
  · exact fun joined => released.joined (not_mem_cleanup left joined nofun)

/-- The consumers are closed. -/
theorem Released.closeConsumers (released : s.Released track) {rest : List CleanupStep}
    (left : s.cleanup = .closeConsumers :: rest) :
    ({ s with session := { s.session with consumers := [] }, cleanup := rest } :
      Teardown).Released track := by
  refine ⟨released.suffix_rest left, released.attaching, ?_, fun _ => rfl, ?_, ?_⟩
  · intro sink mem
    refine .inl ((released.sinks sink mem).resolve_right fun registered => ?_)
    have detached : ∀ steps ∈ cleanupSteps.tails, steps.head? = some CleanupStep.closeConsumers →
        CleanupStep.detachSinks ∉ steps := by decide
    refine detached s.cleanup ((List.mem_tails _ _).mpr released.suffix) ?_ registered.1
    rw [left]
    rfl
  · exact fun closed => released.transport (not_mem_cleanup left closed nofun)
  · exact fun joined => released.joined (not_mem_cleanup left joined nofun)

/-- The transport is closed. -/
theorem Released.closeTransport (released : s.Released track) {rest : List CleanupStep}
    (left : s.cleanup = .closeTransport :: rest) :
    ({ s with session := s.session.closeTransport, cleanup := rest } :
      Teardown).Released track := by
  refine ⟨released.suffix_rest left, released.attaching, ?_, ?_, ?_, ?_⟩
  · intro sink mem
    refine (released.sinks sink mem).imp_right fun registered => ⟨?_, registered.2⟩
    exact mem_rest left registered.1 nofun
  · exact fun closed => released.consumers (not_mem_cleanup left closed nofun)
  · intro _ transport mem
    obtain ⟨old, -, rfl⟩ := Option.map_eq_some_iff.mp mem
    rfl
  · exact fun joined => released.joined (not_mem_cleanup left joined nofun)

/-- The command thread is joined. -/
theorem Released.join (released : s.Released track) {rest : List CleanupStep}
    (left : s.cleanup = .join :: rest) (exited : s.thread = .exited) :
    ({ s with cleanup := rest } : Teardown).Released track := by
  refine ⟨released.suffix_rest left, released.attaching, ?_, ?_, ?_, fun _ => exited⟩
  · intro sink mem
    refine (released.sinks sink mem).imp_right fun registered => ⟨?_, registered.2⟩
    exact mem_rest left registered.1 nofun
  · exact fun closed => released.consumers (not_mem_cleanup left closed nofun)
  · exact fun closed => released.transport (not_mem_cleanup left closed nofun)

/-- **What `Cleanup` does to the session.** A release empties what it is about, and keeps what the
releases before it have left. -/
theorem Released.cleans (released : s.Released track) {first : CleanupStep}
    {rest : List CleanupStep} (left : s.cleanup = first :: rest)
    (performed : ({ s with cleanup := rest } : Teardown).perform first = some t) :
    t.Released track := by
  cases first with
  | detachSinks =>
      cases performed
      exact released.detachSinks left
  | closeConsumers =>
      cases performed
      exact released.closeConsumers left
  | closeTransport =>
      cases performed
      exact released.closeTransport left
  | join =>
      change (match s.thread with
        | .exited => some _
        | _ => none) = some t at performed
      split at performed
      case h_1 exited =>
        cases performed
        exact released.join left exited
      case h_2 => cases performed
  | _ =>
      cases performed
      exact released.skips left rfl rfl rfl (by decide)

/-! ### Runs

The condition only speaks of three statements of the commands.  So a command may be under way when
`Cleanup` begins, and may still create a consumer before the sink is detached. -/

section

variable [Double.UndefinedCast]

/-- A thread that has exited does nothing more. -/
theorem Moved.exited (moved : s.Moved action t) (exited : s.thread = .exited) :
    t.thread = .exited := by
  cases moved with
  | pushes _ => exact exited
  | cleans t left performed =>
      unfold perform at performed
      split at performed
      case h_6 =>
        split at performed
        case h_1 =>
          cases performed
          exact exited
        case h_2 => cases performed
      all_goals
        cases performed
        exact exited
  | pops _ phase _ => simp [exited] at phase
  | sleeps phase => simp [exited] at phase
  | checks phase => simp [exited] at phase
  | finishes phase => simp [exited] at phase
  | looks phase => simp [exited] at phase
  | performs phase => simp [exited] at phase
  | emits phase => simp [exited] at phase

/-- **What a step preserves** that is in time.  Registering a consumer is where the track that was
pending gets its consumer. -/
theorem Released.moved (released : s.Released track) (inTime : s.InTime action)
    (moved : s.Moved action t) : ∃ track, t.Released track := by
  have attaching := released.attaching
  cases moved with
  | pushes command =>
      exact ⟨track, released.suffix, released.attaching, released.sinks, released.consumers,
        released.transport, released.joined⟩
  | @pops command commandQueue outcome popping popped =>
      rw [popping] at attaching
      obtain rfl : track = none := attaching
      exact ⟨none, released.of_thread rfl rfl (by rw [popping]; nofun)
        (command.attaches outcome)⟩
  | sleeps popping =>
      rw [popping] at attaching
      exact ⟨track, released.of_thread rfl rfl (by rw [popping]; nofun) attaching⟩
  | checks checking =>
      rw [checking] at attaching
      refine ⟨track, released.of_thread rfl rfl (by rw [checking]; nofun) ?_⟩
      cases s.running <;> exact attaching
  | finishes done =>
      rw [done] at attaching
      exact ⟨track, released.of_thread rfl rfl (by rw [done]; nofun) attaching⟩
  | looks look =>
      rw [look] at attaching
      exact ⟨track, released.of_thread rfl rfl (by rw [look]; nofun) (attaching s.session)⟩
  | @performs op next perform =>
      exact released.performs perform (inTime op (by simp [op?, perform, Program.next?]))
  | emits emit =>
      rw [emit] at attaching
      obtain ⟨track', accepted, follows⟩ := attaching
      cases track with
      | some _ => cases accepted
      | none =>
          cases accepted
          exact ⟨none, released.of_thread rfl rfl (by rw [emit]; nofun) follows⟩
  | cleans t left performed => exact ⟨track, released.cleans left performed⟩

end

end Teardown

/-- A session that is torn down while its command thread is running; commands may still be pushed,
and `Cleanup` waits for the thread at its end. -/
def teardown [Double.UndefinedCast] : Machine Teardown TeardownAction where
  init := .created
  step := Teardown.step

/-- **Teardown is complete** when no command adds what `Cleanup` has already released: at its end
the sink is attached to no track, there are no consumers, and the transport, if there is one, is
closed.  Without any condition, the command thread has ended by then. -/
theorem tornDown_of_meets [Double.UndefinedCast] (actions : List TeardownAction) (s : Teardown)
    (reached : teardown.run .created actions = some s)
    (inTime : teardown.Meets Teardown.InTime .created actions) (returned : s.cleanup = []) :
    s.session.consumers = [] ∧ s.session.sinks = [] ∧
      (∀ transport ∈ s.session.transport, transport.closed = true) ∧
      ∀ later t, teardown.run s later = some t → t.thread = .exited := by
  obtain ⟨track, released⟩ := teardown.invariant_of_meets
    (motive := fun s => ∃ track, Teardown.Released s track)
    (fun _ _ _ released inTime step =>
      released.elim fun _ released => released.moved inTime (Teardown.step_moved step))
    ⟨none, Teardown.released_created⟩ reached inTime
  have none_left : ∀ step : CleanupStep, step ∉ s.cleanup := by
    rw [returned]
    exact fun _ => List.not_mem_nil
  have exited := released.joined (none_left _)
  refine ⟨released.consumers (none_left _), ?_, released.transport (none_left _), ?_⟩
  · have attaching := released.attaching
    rw [exited] at attaching
    obtain rfl : track = none := attaching
    refine List.eq_nil_iff_forall_not_mem.mpr fun sink mem => ?_
    exact (released.sinks sink mem).elim nofun fun registered => none_left _ registered.1
  · intro later t run
    exact teardown.invariant_of_run
      (fun _ _ _ exited step => (Teardown.step_moved step).exited exited) exited run

/-- Every call into mediasoupclient succeeds. -/
def succeeding : Outcome where
  load _ := .ok ()
  getRtpCapabilities := .ok .null
  createTransport := .ok ()
  consume := .ok (some true)

/-- The command thread takes a command and executes it. -/
def executed (steps : ℕ) : List TeardownAction :=
  .thread :: .tryPop succeeding :: List.replicate steps .thread

/-- A consumer is created, and the session is torn down. -/
theorem tornDown_of_meets_consumed :
    letI := Double.x86Cast
    ∃ actions s, teardown.run .created actions = some s ∧ s.session.objects = 5 ∧
      s.session.consumers = [] ∧ s.session.sinks = [] := by
  let := Double.x86Cast
  let actions : List TeardownAction :=
    [[.push (.loadDevice ⟨[], []⟩), .push (.createTransport "transport"),
        .push (.createConsumer "consumer" .audio)],
      executed 6, executed 8, executed 7, List.replicate 9 .cleanup,
      [.thread, .cleanup]].flatten
  have final : (teardown.run .created actions).map (fun s => (s.session.objects, s.cleanup)) =
      some (5, []) := by decide +kernel
  obtain ⟨s, reached, ended⟩ := Option.map_eq_some_iff.mp final
  obtain ⟨objects, returned⟩ := Prod.mk.inj ended
  obtain ⟨consumers, sinks, -⟩ :=
    tornDown_of_meets actions s reached (by decide +kernel) returned
  exact ⟨actions, s, reached, objects, consumers, sinks⟩

/-- A transport and a consumer are created after `Cleanup` has closed both: when it returns,
the consumer is registered, the sink is attached and the transport is open. -/
theorem not_tornDown :
    letI := Double.x86Cast
    ∃ actions s, teardown.run .created actions = some s ∧ s.cleanup = [] ∧
      s.session.consumers.length = 1 ∧ s.session.sinks.length = 1 ∧
      s.session.transport.map RecvTransport.closed = some false := by
  let := Double.x86Cast
  let actions : List TeardownAction :=
    [[.push (.loadDevice ⟨[], []⟩), .push (.createTransport "transport"),
        .push (.createConsumer "consumer" .audio)],
      executed 6, List.replicate 7 .cleanup, executed 8, executed 7,
      [.cleanup, .cleanup, .thread, .cleanup]].flatten
  have final : (teardown.run .created actions).map (fun s => (s.cleanup,
      s.session.consumers.length, s.session.sinks.length,
      s.session.transport.map RecvTransport.closed)) = some ([], 1, 1, some false) := by
    decide +kernel
  obtain ⟨s, reached, ended⟩ := Option.map_eq_some_iff.mp final
  simp only [Prod.mk.injEq] at ended
  exact ⟨actions, s, reached, ended⟩

end Saasy.ListeningEngine
