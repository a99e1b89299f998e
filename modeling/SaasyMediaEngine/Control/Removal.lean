import SaasyMediaEngine.Control.Matching
import SaasyMediaEngine.Control.Stopping

/-!
# The removal of a session

`RemoveSession` takes the mutex of the session table and gives it back when the session is
destroyed.  On the way it waits for three threads: `Cleanup` joins the command thread, and the
destructor of the control stream joins its two threads.

The command thread may itself be waiting.  `StartProduction` is in `Transport::Produce`, which
calls `OnProduce` and waits for the future that it returns, until the orchestrator has answered
the request that `GetRouterProducerId` sent.  So it depends on the incoming thread whether the
mutex is ever given back (`Deadlocked`), and with the mutex all other sessions wait.

The model has all of the threads that are waited for: the command thread with the program it
executes, the two threads of the control stream, and the remover, which is at one of the stages of
`RemoveSession`.  What `Produce` does inside mediasoupclient is not visible but for one thing, its
call of `OnProduce`: it may come or not, and the future it returns is waited for.

`Deadlocked` is a property of a single state: the command thread waits for a call, and no step of
the incoming thread will answer it, as it has left its loop or the call is out of reach.
-/

namespace Saasy.Control

open Transition

/-! ### What the stream does not undo

Facts about single steps of the stream that the removal relies on: a queue that was stopped stays
stopped, an idle command thread stays idle once its queue is stopped, and a thread that has exited
stays there. -/

theorem CommandQueue.tryPop_eq_none {Wrapper : Type} {q : CommandQueue Wrapper}
    (stopped : q.stopped = true) : q.tryPop = none := by
  unfold tryPop
  split
  · rfl
  · rw [if_pos stopped]

/-- A call keeps its id. -/
theorem Requests.map_requestId_modify (calls : List Call) (number other : ℕ) (phase : CallPhase) :
    ((calls.modify other ({ · with phase }))[number]?).map Call.requestId =
      (calls[number]?).map Call.requestId := by
  rw [List.getElem?_modify, Option.map_eq_map, Option.map_map]
  refine Option.map_congr fun call _ => ?_
  show (if other = number then _ else call).requestId = call.requestId
  split_ifs <;> rfl

theorem Outgoing.Moved.stopped {Message : Type} {o o' : Outgoing Message} (moved : o.Moved o')
    (stopped : o.running = false) : o'.running = false := by
  cases moved with
  | queues queued =>
      rw [← eq_of_queueMessage queued]
      exact stopped
  | stops => rfl
  | advances advanced => cases advanced_of_advance advanced <;> exact stopped

namespace ControlStream

variable {E : Engine} {sessionId participantId : String} {s t : ControlStream E}
  {action : StreamAction E}

theorem Moved.stopped (moved : s.Moved sessionId participantId action t)
    (stopped : s.outgoing.running = false) : t.outgoing.running = false := by
  obtain same | step := moved.outgoing
  · rw [same]
    exact stopped
  · exact step.stopped stopped

theorem Moved.emptied (moved : s.Moved sessionId participantId action t)
    (stopped : s.commandQueue.stopped = true) : t.commandQueue.stopped = true := by
  cases moved with
  | pushes handling routed =>
      show (s.commandQueue.push _).stopped = true
      rw [CommandQueue.push, if_pos stopped]
      exact stopped
  | pops outcome idle popped =>
      rw [CommandQueue.tryPop_eq_none stopped] at popped
      cases popped
  | _ => exact stopped

/-- The command thread takes no command from a queue that was stopped. -/
theorem Moved.idle (moved : s.Moved sessionId participantId action t)
    (stopped : s.commandQueue.stopped = true) (idle : s.executing = none) :
    t.executing = none := by
  cases moved with
  | pops outcome idle popped =>
      rw [CommandQueue.tryPop_eq_none stopped] at popped
      cases popped
  | finishes => rfl
  | looks executing | performs executing | emits executing =>
      rw [idle] at executing
      cases executing
  | _ => exact idle

theorem Moved.exited (moved : s.Moved sessionId participantId action t)
    (exited : s.incoming = .exited) : t.incoming = .exited := by
  cases moved with
  | checks phase | pushes phase | responds phase | closes phase | answers phase | removes phase
  | leaves phase | readsRequest _ phase | readsResponse _ _ phase | readFails phase =>
      cases exited.symm.trans phase
  | _ => exact exited

end ControlStream

/-- Where the command thread is in `Transport::Produce`, which may ask the orchestrator for an id,
once, and does not return before it has an answer. -/
inductive ProducePhase where
  | outside
  /-- It has not called `GetRouterProducerId`, and need not do so. -/
  | inside
  /-- It makes a call, and waits for its future. -/
  | waiting (number : ℕ)
  deriving DecidableEq

/-- Where `RemoveSession` is.  From `detaching` on it holds the mutex of the table, until the
session is erased. -/
inductive RemoverPhase where
  /-- At the mutex of the table. -/
  | entering
  /-- In `Cleanup`, before the streams are stopped. -/
  | detaching
  | stoppingStreams
  | closing
  /-- At `command_queue_->Stop()`. -/
  | stoppingQueue
  /-- At `command_thread_.join()`. -/
  | joiningCommands
  /-- In the destructor of the control stream. -/
  | joiningIncoming
  | joiningOutgoing
  /-- The session was erased, and the mutex given back. -/
  | removed
  deriving DecidableEq

/-- How far it is. -/
def RemoverPhase.rank : RemoverPhase → ℕ
  | entering => 0
  | detaching => 1
  | stoppingStreams => 2
  | closing => 3
  | stoppingQueue => 4
  | joiningCommands => 5
  | joiningIncoming => 6
  | joiningOutgoing => 7
  | removed => 8

theorem RemoverPhase.eq_of_rank {phase other : RemoverPhase} (same : phase.rank = other.rank) :
    phase = other := by
  cases phase <;> cases other <;> first | rfl | exact absurd same (by decide)

/-- An engine whose sessions are removed: which of its operations calls `Produce`, and what
`Cleanup` does around stopping the streams. -/
structure Removable (E : Engine) where
  /-- The operation is followed by `Transport::Produce`. -/
  produces : E.Op → Bool
  /-- What `Cleanup` does to the session before it stops the streams, and after that. -/
  detach : E.Session → E.Session
  close : E.Session → E.Session

/-- A session with a control stream, and the thread that removes it.  The command thread is the one
of the stream, with what it does inside `Produce` beside it. -/
structure Removal (E : Engine) where
  stream : ControlStream E
  produce : ProducePhase
  remover : RemoverPhase

inductive RemovalAction (E : Engine) where
  /-- The threads of the stream and the command thread go on. -/
  | stream (action : StreamAction E)
  /-- `Produce` returns, or throws. -/
  | leaveProduce
  | remove

/-- Messages that come in, and their end. -/
def RemovalAction.reads {E : Engine} : RemovalAction E → Bool
  | .stream (.read _) | .stream .readFails => true
  | _ => false

namespace Removal

variable {E : Engine} (R : Removable E)

/-- Only the command thread calls `GetRouterProducerId`, in `Produce`, and only the remover stops
the stream from outside. -/
def admits (s : Removal E) : StreamAction E → Bool
  | .incoming | .read _ | .readFails | .outgoing | .tryPop _ => true
  | .execute => s.produce == .outside
  | .call _ => s.produce == .inside
  | .register number | .send number => s.produce == .waiting number
  | .stop => false

/-- Whether the command thread is about to call `Produce`. -/
def entersProduce (s : Removal E) : Bool :=
  match s.stream.executing with
  | some execution => execution.rest.next?.any R.produces
  | none => false

def produceAfter (s : Removal E) : StreamAction E → ProducePhase
  | .execute => if s.entersProduce R then .inside else s.produce
  | .call _ => .waiting s.stream.requests.calls.length
  | _ => s.produce

/-- The request of a call was sent, and its future has a value. -/
def Resolved (s : Removal E) (number : ℕ) : Prop :=
  (s.stream.requests.calls[number]?).any (fun call => call.phase == .waiting) = true ∧
    s.stream.requests.Invoked number

instance (s : Removal E) (number : ℕ) : Decidable (s.Resolved number) :=
  inferInstanceAs (Decidable (_ = true ∧ number ∈ _))

/-- `Produce` may end: before the call, or with the value of the future. -/
def mayLeave (s : Removal E) : Bool :=
  match s.produce with
  | .outside => false
  | .inside => true
  | .waiting number => decide (s.Resolved number)

/-- The next step of `RemoveSession`.  It waits in three places: for the command thread, and for
the two threads of the stream. -/
def stepRemove (s : Removal E) : Option (Removal E) :=
  match s.remover with
  | .entering => some { s with remover := .detaching }
  | .detaching =>
      some { s with
        stream := { s.stream with session := R.detach s.stream.session }
        remover := .stoppingStreams }
  | .stoppingStreams =>
      some { s with
        stream := { s.stream with outgoing := s.stream.outgoing.stop }
        remover := .closing }
  | .closing =>
      some { s with
        stream := { s.stream with session := R.close s.stream.session }
        remover := .stoppingQueue }
  | .stoppingQueue =>
      some { s with
        stream := { s.stream with commandQueue := s.stream.commandQueue.stop }
        remover := .joiningCommands }
  | .joiningCommands =>
      match s.stream.executing with
      | none => some { s with remover := .joiningIncoming }
      | some _ => none
  | .joiningIncoming =>
      match s.stream.incoming with
      | .exited => some { s with remover := .joiningOutgoing }
      | _ => none
  | .joiningOutgoing =>
      match s.stream.outgoing.writer with
      | .exited => some { s with remover := .removed }
      | _ => none
  | .removed => none

/-- One step, if it is enabled: of the stream, where the thread in question is free to take it, of
the end of `Produce`, or of the remover. -/
def step (sessionId participantId : String) (s : Removal E) :
    RemovalAction E → Option (Removal E)
  | .stream action =>
      if s.admits action then
        (s.stream.step sessionId participantId action).map fun stream =>
          { s with stream, produce := s.produceAfter R action }
      else none
  | .leaveProduce => if s.mayLeave then some { s with produce := .outside } else none
  | .remove => s.stepRemove R

/-- `RemoveSession` has the mutex of the table. -/
def locks (s : Removal E) : Bool := s.remover != .entering && s.remover != .removed

/-- Whether the incoming thread may still invoke the callback of a call: it is in `Read`, or comes
back to it, or has the response. -/
def MayAnswer (s : Removal E) (number : ℕ) : Prop :=
  match s.stream.incoming with
  | .reading => True
  | .answering requestId _ =>
      s.stream.outgoing.running = true ∨
        (s.stream.requests.calls[number]?).map Call.requestId = some requestId
  | .checking | .handling _ | .removing => s.stream.outgoing.running = true
  | .stopping | .exited => False

/-- **The deadlock**: the command thread waits for a future that gets no value. -/
def Deadlocked (s : Removal E) : Prop :=
  match s.produce with
  | .waiting number => ¬ s.stream.requests.Invoked number ∧ ¬ s.MayAnswer number
  | _ => False

end Removal

/-- **A session**, started, with the thread that removes it, which may come at any time, also while
a command is being executed. -/
def removal (E : Engine) (R : Removable E) (sessionId participantId : String)
    (session : E.Session) : Machine (Removal E) (RemovalAction E) where
  init := ⟨.started session, .outside, .entering⟩
  step s action := s.step R sessionId participantId action

namespace Removal

variable {E : Engine} (R : Removable E)

/-! ### What a step can do

The stream's own steps are those of `Control.ControlStream`, restricted to the moments at which the
thread in question may take them.  What is added are the steps of the remover and the two ends of
`Produce`. -/

/-- The steps of `RemoveSession`, in their order.  Those that join a thread wait for it. -/
inductive Removes (s : Removal E) : Removal E → Prop
  | enters (entering : s.remover = .entering) : Removes s { s with remover := .detaching }
  | detaches (detaching : s.remover = .detaching) :
      Removes s
        { s with
          stream := { s.stream with session := R.detach s.stream.session }
          remover := .stoppingStreams }
  | stops (stopping : s.remover = .stoppingStreams) :
      Removes s
        { s with
          stream := { s.stream with outgoing := s.stream.outgoing.stop }
          remover := .closing }
  | closes (closing : s.remover = .closing) :
      Removes s
        { s with
          stream := { s.stream with session := R.close s.stream.session }
          remover := .stoppingQueue }
  | stopsQueue (stopping : s.remover = .stoppingQueue) :
      Removes s
        { s with
          stream := { s.stream with commandQueue := s.stream.commandQueue.stop }
          remover := .joiningCommands }
  | joinsCommands (joining : s.remover = .joiningCommands) (idle : s.stream.executing = none) :
      Removes s { s with remover := .joiningIncoming }
  | joinsIncoming (joining : s.remover = .joiningIncoming)
      (exited : s.stream.incoming = .exited) : Removes s { s with remover := .joiningOutgoing }
  | joinsOutgoing (joining : s.remover = .joiningOutgoing)
      (exited : s.stream.outgoing.writer = .exited) : Removes s { s with remover := .removed }

/-- The steps of everybody.  A step of the stream may take the command thread into `Produce`, and
only `leaveProduce` takes it out again. -/
inductive Moved (sessionId participantId : String) (s : Removal E) :
    RemovalAction E → Removal E → Prop
  | streams {action : StreamAction E} {stream : ControlStream E}
      (admitted : s.admits action = true)
      (moved : s.stream.Moved sessionId participantId action stream) :
      Moved sessionId participantId s (.stream action)
        { s with stream, produce := s.produceAfter R action }
  | leaves (may : s.mayLeave = true) :
      Moved sessionId participantId s .leaveProduce { s with produce := .outside }
  | removes {t : Removal E} (step : s.Removes R t) : Moved sessionId participantId s .remove t

variable {R} {sessionId participantId : String} {s t : Removal E} {action : RemovalAction E}

theorem removes_of_stepRemove (step : s.stepRemove R = some t) : s.Removes R t := by
  unfold stepRemove at step
  split at step
  case h_1 phase =>
    cases step
    exact .enters phase
  case h_2 phase =>
    cases step
    exact .detaches phase
  case h_3 phase =>
    cases step
    exact .stops phase
  case h_4 phase =>
    cases step
    exact .closes phase
  case h_5 phase =>
    cases step
    exact .stopsQueue phase
  case h_6 phase =>
    split at step
    case h_1 idle =>
      cases step
      exact .joinsCommands phase idle
    case h_2 => cases step
  case h_7 phase =>
    split at step
    case h_1 exited =>
      cases step
      exact .joinsIncoming phase exited
    case h_2 => cases step
  case h_8 phase =>
    split at step
    case h_1 exited =>
      cases step
      exact .joinsOutgoing phase exited
    case h_2 => cases step
  case h_9 => cases step

/-- **What a step can do**, with its guards: what the command thread waits for, and what the
remover waits for. -/
theorem step_moved (step : s.step R sessionId participantId action = some t) :
    s.Moved R sessionId participantId action t := by
  cases action with
  | stream action =>
      obtain ⟨admitted, taken⟩ := Option.ite_none_right_eq_some.mp step
      obtain ⟨stream, own, rfl⟩ := Option.map_eq_some_iff.mp taken
      exact .streams admitted (ControlStream.step_moved own)
  | leaveProduce =>
      obtain ⟨may, ⟨⟩⟩ := Option.ite_none_right_eq_some.mp step
      exact .leaves may
  | remove => exact .removes (removes_of_stepRemove step)

/-! ### What always holds

The calls of the session belong to its command thread, and it waits for one at a time.  Whatever
else is registered has been answered. -/

/-- Every call was answered but the one that is waited for, and the remover is not ahead of the
threads that it joins. -/
structure Consistent (s : Removal E) : Prop where
  sound : s.stream.requests.Sound
  covered : s.stream.requests.Covered
  settled : ∀ number < s.stream.requests.calls.length, s.produce ≠ .waiting number →
    s.stream.requests.Invoked number
  asked : ∀ number, s.produce = .waiting number → number < s.stream.requests.calls.length
  producing : s.produce ≠ .outside → s.stream.executing.isSome = true
  stopped : 3 ≤ s.remover.rank → s.stream.outgoing.running = false
  emptied : 5 ≤ s.remover.rank → s.stream.commandQueue.stopped = true
  joined : 6 ≤ s.remover.rank → s.stream.executing = none
  exited : 7 ≤ s.remover.rank → s.stream.incoming = .exited

theorem consistent_started (session : E.Session) :
    Consistent ⟨.started session, .outside, .entering⟩ where
  sound := Requests.sound_empty
  covered := Requests.covered_empty
  settled _ few := absurd few (Nat.not_lt_zero _)
  asked _ waiting := by cases waiting
  producing outside := absurd rfl outside
  stopped early := absurd early (Nat.not_succ_le_zero 2)
  emptied early := absurd early (Nat.not_succ_le_zero 4)
  joined early := absurd early (Nat.not_succ_le_zero 5)
  exited early := absurd early (Nat.not_succ_le_zero 6)

/-- Nobody else has registered a callback that waits. -/
theorem Consistent.replaced_eq_none (consistent : s.Consistent) {number : ℕ} {call : Call}
    (waiting : s.produce = .waiting number) (found : s.stream.requests.calls[number]? = some call)
    (generated : call.phase = .generated) :
    s.stream.requests.pendingRequests.lookup call.requestId = none := by
  cases taken : s.stream.requests.pendingRequests.lookup call.requestId with
  | none => rfl
  | some other =>
      exfalso
      obtain ⟨call', found', -, registered⟩ := consistent.sound.pending _ _ taken
      obtain ⟨bound, -⟩ := List.getElem?_eq_some_iff.mp found'
      have another : s.produce ≠ .waiting other := by
        intro same
        obtain rfl : number = other := ProducePhase.waiting.inj (waiting.symm.trans same)
        obtain rfl : call = call' := Option.some.inj (found.symm.trans found')
        exact registered generated
      exact consistent.sound.apart other (consistent.settled other bound another) ⟨_, taken⟩

/-- **A step of the stream** keeps the calls: those that are made belong to the command thread, and
it waits for at most one of them. -/
theorem Consistent.settled_streams (consistent : s.Consistent) {action : StreamAction E}
    {stream : ControlStream E} (admitted : s.admits action = true)
    (moved : s.stream.Moved sessionId participantId action stream) :
    (∀ number < stream.requests.calls.length, s.produceAfter R action ≠ .waiting number →
        stream.requests.Invoked number) ∧
      ∀ number, s.produceAfter R action = .waiting number →
        number < stream.requests.calls.length := by
  cases moved with
  | calls request =>
      have inside : s.produce = .inside := eq_of_beq admitted
      simp only [Requests.generate, List.length_append, List.length_singleton, produceAfter]
      refine ⟨fun number few another => ?_, ?_⟩
      · have before : number ≠ s.stream.requests.calls.length := fun same => another (same ▸ rfl)
        exact consistent.settled number (by omega) (by simp [inside])
      · rintro _ ⟨⟩
        exact Nat.lt_succ_self _
  | registers found generated | sends found registered queued =>
      simp only [Requests.register, Requests.sent, List.length_modify]
      exact ⟨consistent.settled, consistent.asked⟩
  | @answers requestId response answering =>
      rw [(Requests.calls_respond requestId response s.stream.requests).1]
      refine ⟨fun number few another => ?_, consistent.asked⟩
      have before := consistent.settled number few another
      show (s.stream.requests.respond requestId response).Invoked number
      cases found : s.stream.requests.pendingRequests.lookup requestId with
      | none =>
          rw [Requests.respond, found]
          exact before
      | some other => exact Requests.Moved.invoked_mono (.responds response found) before
  | finishes | looks | performs | emits =>
      have outside : s.produce = .outside := eq_of_beq admitted
      refine ⟨fun number few _ => consistent.settled number few (by simp [outside]), ?_⟩
      intro number waiting
      unfold produceAfter at waiting
      split_ifs at waiting
      exact consistent.asked number waiting
  | _ => exact ⟨consistent.settled, consistent.asked⟩

theorem Consistent.streams (consistent : s.Consistent) {action : StreamAction E}
    {stream : ControlStream E} (admitted : s.admits action = true)
    (moved : s.stream.Moved sessionId participantId action stream) :
    Consistent { s with stream, produce := s.produceAfter R action } where
  sound := moved.sound consistent.sound
  covered := by
    obtain same | step := moved.requests
    · show Requests.Covered stream.requests
      rw [same]
      exact consistent.covered
    · have free : s.stream.replaced action = none := by
        cases moved with
        | registers found generated =>
            rw [ControlStream.replaced, found]
            exact consistent.replaced_eq_none (eq_of_beq admitted) found generated
        | _ => rfl
      rw [free] at step
      exact consistent.covered.moved step
  settled := (consistent.settled_streams admitted moved).1
  asked := (consistent.settled_streams admitted moved).2
  producing := by
    intro inside
    cases moved with
    | finishes executing done =>
        have outside : s.produce = .outside := eq_of_beq admitted
        simp [produceAfter, entersProduce, executing, done, Program.next?, outside] at inside
    | looks | performs | emits | pops => rfl
    | calls request =>
        exact consistent.producing (by simp [show s.produce = .inside from eq_of_beq admitted])
    | _ => exact consistent.producing inside
  stopped late := moved.stopped (consistent.stopped late)
  emptied late := moved.emptied (consistent.emptied late)
  joined late := moved.idle (consistent.emptied (Nat.le_of_succ_le late)) (consistent.joined late)
  exited late := moved.exited (consistent.exited late)

/-- **A step of the remover** is behind those it has joined, and what it has stopped does not start
again. -/
theorem Consistent.removes (consistent : s.Consistent) (step : s.Removes R t) :
    t.Consistent := by
  obtain ⟨sound, covered, settled, asked, producing, stopped, emptied, joined, exited⟩ := consistent
  cases step with
  | enters phase =>
      exact ⟨sound, covered, settled, asked, producing, fun (late : 3 ≤ 1) => by omega,
        fun (late : 5 ≤ 1) => by omega, fun (late : 6 ≤ 1) => by omega,
        fun (late : 7 ≤ 1) => by omega⟩
  | detaches phase =>
      exact ⟨sound, covered, settled, asked, producing, fun (late : 3 ≤ 2) => by omega,
        fun (late : 5 ≤ 2) => by omega, fun (late : 6 ≤ 2) => by omega,
        fun (late : 7 ≤ 2) => by omega⟩
  | stops phase =>
      exact ⟨sound, covered, settled, asked, producing, fun _ => rfl,
        fun (late : 5 ≤ 3) => by omega, fun (late : 6 ≤ 3) => by omega,
        fun (late : 7 ≤ 3) => by omega⟩
  | closes phase =>
      rw [phase] at stopped
      exact ⟨sound, covered, settled, asked, producing, fun _ => stopped (by decide),
        fun (late : 5 ≤ 4) => by omega, fun (late : 6 ≤ 4) => by omega,
        fun (late : 7 ≤ 4) => by omega⟩
  | stopsQueue phase =>
      rw [phase] at stopped
      exact ⟨sound, covered, settled, asked, producing, fun _ => stopped (by decide),
        fun _ => rfl, fun (late : 6 ≤ 5) => by omega, fun (late : 7 ≤ 5) => by omega⟩
  | joinsCommands phase idle =>
      rw [phase] at stopped emptied
      exact ⟨sound, covered, settled, asked, producing, fun _ => stopped (by decide),
        fun _ => emptied (by decide), fun _ => idle, fun (late : 7 ≤ 6) => by omega⟩
  | joinsIncoming phase out =>
      rw [phase] at stopped emptied joined
      exact ⟨sound, covered, settled, asked, producing, fun _ => stopped (by decide),
        fun _ => emptied (by decide), fun _ => joined (by decide), fun _ => out⟩
  | joinsOutgoing phase out =>
      rw [phase] at stopped emptied joined exited
      exact ⟨sound, covered, settled, asked, producing, fun _ => stopped (by decide),
        fun _ => emptied (by decide), fun _ => joined (by decide), fun _ => exited (by decide)⟩

theorem Consistent.moved (consistent : s.Consistent)
    (moved : s.Moved R sessionId participantId action t) : t.Consistent := by
  cases moved with
  | streams admitted moved => exact consistent.streams admitted moved
  | leaves may =>
      refine { consistent with
        settled := fun number few _ => ?_
        asked := nofun
        producing := fun outside => absurd rfl outside }
      by_cases waiting : s.produce = .waiting number
      · rw [mayLeave, waiting] at may
        exact (of_decide_eq_true may).2
      · exact consistent.settled number few waiting
  | removes step => exact consistent.removes step

/-! ### The deadlock

The command thread waits for a future, the remover for the command thread.  It is resolved only by
the incoming thread, and the definition says that this one has left its loop, or is about to as the
flag is reset, and does not have the answer. -/

theorem deadlocked_iff :
    s.Deadlocked ↔ ∃ number, s.produce = .waiting number ∧
      ¬ s.stream.requests.Invoked number ∧ ¬ s.MayAnswer number := by
  unfold Deadlocked
  constructor
  · intro deadlocked
    split at deadlocked
    case h_1 number waiting => exact ⟨number, waiting, deadlocked⟩
    case h_2 => exact deadlocked.elim
  · rintro ⟨number, waiting, deadlocked⟩
    rw [waiting]
    exact deadlocked

/-- The incoming thread stays where it is. -/
theorem MayAnswer.of_incoming {number : ℕ} (may : t.MayAnswer number)
    (incoming : t.stream.incoming = s.stream.incoming)
    (stopped : s.stream.outgoing.running = false → t.stream.outgoing.running = false)
    (ids : (t.stream.requests.calls[number]?).map Call.requestId =
      (s.stream.requests.calls[number]?).map Call.requestId) : s.MayAnswer number := by
  have running : t.stream.outgoing.running = true → s.stream.outgoing.running = true := by
    intro running
    by_contra reset
    rw [stopped (Bool.eq_false_iff.mpr reset)] at running
    cases running
  unfold MayAnswer at *
  rw [incoming, ids] at may
  cases phase : s.stream.incoming with
  | reading => trivial
  | answering requestId response =>
      rw [phase] at may
      exact may.imp_left running
  | checking | handling _ | removing =>
      rw [phase] at may
      exact running may
  | stopping | exited =>
      rw [phase] at may
      exact may.elim

/-- A callback that has no answer in hand is not invoked. -/
theorem Consistent.not_invoked_respond (consistent : s.Consistent) {number : ℕ}
    {requestId : String} (response : OrchestratorResponse)
    (notInvoked : ¬ s.stream.requests.Invoked number)
    (foreign : (s.stream.requests.calls[number]?).map Call.requestId ≠ some requestId) :
    ¬ (s.stream.requests.respond requestId response).Invoked number := by
  cases found : s.stream.requests.pendingRequests.lookup requestId with
  | none =>
      rw [Requests.respond, found]
      exact notInvoked
  | some other =>
      obtain ⟨call, hcall, same, -⟩ := consistent.sound.pending _ _ found
      rw [Requests.respond, found, Requests.Invoked, List.map_append, List.mem_append]
      rintro (before | now)
      · exact notInvoked before
      · obtain rfl : number = other := List.mem_singleton.mp now
        exact foreign (by rw [hcall, Option.map_some, same])

/-- **No step resolves it**: nobody is left who could invoke the callback, and nobody can become
one. -/
theorem Deadlocked.moved (consistent : s.Consistent) (deadlocked : s.Deadlocked)
    (moved : s.Moved R sessionId participantId action t) : t.Deadlocked := by
  obtain ⟨number, waiting, notInvoked, unanswered⟩ := deadlocked_iff.mp deadlocked
  refine deadlocked_iff.mpr ⟨number, ?_⟩
  -- a step after which the incoming thread is where it was
  have stays {t : Removal E} (produce : t.produce = s.produce)
      (incoming : t.stream.incoming = s.stream.incoming)
      (invoked : t.stream.requests.invoked = s.stream.requests.invoked)
      (ids : (t.stream.requests.calls[number]?).map Call.requestId =
        (s.stream.requests.calls[number]?).map Call.requestId)
      (stopped : s.stream.outgoing.running = false → t.stream.outgoing.running = false) :
      t.produce = .waiting number ∧ ¬ t.stream.requests.Invoked number ∧ ¬ t.MayAnswer number :=
    ⟨produce.trans waiting, by rwa [Requests.Invoked, invoked], fun may =>
      unanswered (may.of_incoming incoming stopped ids)⟩
  cases moved with
  | streams admitted moved =>
      have stopped := moved.stopped
      cases moved with
      | checks phase =>
          simp only [MayAnswer, phase, Bool.not_eq_true] at unanswered
          exact ⟨waiting, notInvoked, by simp [MayAnswer, unanswered]⟩
      | pushes phase | removes phase =>
          simp only [MayAnswer, phase] at unanswered
          exact ⟨waiting, notInvoked, unanswered⟩
      | responds phase | closes phase =>
          simp only [MayAnswer, phase, Bool.not_eq_true] at unanswered
          exact ⟨waiting, notInvoked, by simpa [MayAnswer] using stopped unanswered⟩
      | answers phase =>
          simp only [MayAnswer, phase, not_or] at unanswered
          exact ⟨waiting, consistent.not_invoked_respond _ notInvoked unanswered.2, unanswered.1⟩
      | leaves => exact ⟨waiting, notInvoked, id⟩
      | readsRequest _ phase | readsResponse _ _ phase | readFails phase =>
          simp only [MayAnswer, phase, not_true] at unanswered
      | finishes | looks | performs | emits =>
          cases waiting.symm.trans (eq_of_beq admitted)
      | calls => cases waiting.symm.trans (eq_of_beq admitted)
      | stops => cases admitted
      | pops => exact stays rfl rfl rfl rfl id
      | advances => exact stays rfl rfl rfl rfl stopped
      | registers => exact stays rfl rfl rfl (Requests.map_requestId_modify _ _ _ _) id
      | sends => exact stays rfl rfl rfl (Requests.map_requestId_modify _ _ _ _) stopped
  | leaves may =>
      rw [mayLeave, waiting] at may
      exact absurd (of_decide_eq_true may).2 notInvoked
  | removes step =>
      cases step with
      | stops => exact stays rfl rfl rfl rfl fun _ => rfl
      | _ => exact stays rfl rfl rfl rfl id

end Removal

end Saasy.Control
