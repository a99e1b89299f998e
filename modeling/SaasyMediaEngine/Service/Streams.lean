import SaasyMediaEngine.Control.Stopping
import SaasyMediaEngine.Listening.MediaPath
import SaasyMediaEngine.Service.Connection

/-!
# The three streams that are acknowledged

The threads behind `Control`, `Events` and the listening engine's `Media`, as their handlers
see them.  Each stream has one writer by itself: a single outgoing thread, or, on the media
stream, whoever holds `write_mutex_`.

The threads of a stream run from `Start` on.  Whoever gets the stream from the session
(`GetControlStream`, `GetEventStream`, the listener of the media stream) comes after it was
attached.

For each of the three there is a `StreamThreads`, and with it the machine of `Service.Connection`.
Its one obligation is that the threads by themselves never have two writes in progress, and this is
where locks come in: an outgoing thread writes with `queue_mutex_` released, but it is the only one
that does, and everything on the media stream is written under `write_mutex_`.

The threads behind the media stream are those of the listening engine, where the handler
acknowledges the stream as it does the other two.
-/

namespace Saasy.Service

open Transition

/-- The phases in which the threads of the stream run. -/
def ConnectPhase.isStarted : ConnectPhase → Bool
  | .constructed => false
  | _ => true

/-- The phases in which others can use the stream. -/
def ConnectPhase.isAttached : ConnectPhase → Bool
  | .constructed | .started => false
  | _ => true

/-! ### The control stream

Its threads are those of `Control.ControlStream`.  What is added here is when they may run: its own
threads from the start of the stream on, its users once it is attached. -/

section Control

open Control

variable {E : Engine}

/-- The message with which a step calls `Write`. -/
def controlBegins (s : ControlStream E) : StreamAction E → Option (Message E)
  | .outgoing => s.outgoing.begins
  | _ => none

/-- Whether the threads of a control stream, or the users of the stream, can take a step. -/
def controlAllowed (phase : ConnectPhase) : StreamAction E → Bool
  | .incoming | .read _ | .readFails | .tryPop _ | .execute | .outgoing => phase.isStarted
  | .stop | .call _ | .register _ | .send _ => phase.isAttached

/-- The threads of a control stream, and the callers of `GetRouterProducerId` and `Stop`. -/
def controlThreads (E : Engine) (sessionId participantId : String) (session : E.Session) :
    StreamThreads where
  State := ControlStream E
  Action := StreamAction E
  Message := Message E
  machine := controlStream E sessionId participantId session
  allowed := controlAllowed
  inWrite s := s.outgoing.inHand
  begins := controlBegins
  idle := rfl
  inWrite_of_begins := by
    intro s action t message step begins
    cases ControlStream.step_moved step with
    | advances advanced => exact Outgoing.inHand_of_begins advanced begins
    | _ => cases begins
  inWrite_of_goesOn := by
    intro s action t step goesOn
    have moved := ControlStream.step_moved step
    cases moved with
    | advances advanced =>
        simp [Outgoing.inHand_of_goesOn advanced goesOn]
    | responds _ _ queued | closes _ _ queued | emits _ _ queued | sends _ _ queued =>
        rw [← Outgoing.eq_of_queueMessage queued]
        exact List.Sublist.refl _
    | _ => exact List.Sublist.refl _

end Control

/-! ### The event stream

One writer thread, and a reader that reads to the end of the stream.  It differs from the control
stream in that the writer looks at the flag before each event and not only around its inner loop.
-/

/-- Where `ProcessIncomingMessages` is, which reads until the stream ends and makes nothing of what
it reads. -/
inductive EventReader where
  /-- At `while (running_ && …)`. -/
  | checking
  /-- In `stream_->Read`. -/
  | reading
  | exited
  deriving DecidableEq

/-- Where `ProcessOutgoingEvents` is.  It looks at the flag before each event, unlike the control
stream. -/
inductive EventWriter (Event : Type) where
  /-- At `while (running_)`. -/
  | checking
  /-- In `queue_cv_.wait`, which has released the lock. -/
  | waiting
  /-- At `while (!event_queue_.empty() && running_)`. -/
  | draining
  /-- In `stream_->Write`, the lock released. -/
  | writing (event : Event)
  | exited
  deriving DecidableEq

/-- `event_stream.cpp`, which is the same in both engines up to the events that it carries. -/
structure EventStream (Event : Type) where
  running : Bool
  eventQueue : List Event
  reader : EventReader
  writer : EventWriter Event
  deriving DecidableEq

inductive EventStreamAction (Event : Type) where
  /-- The incoming thread goes on. -/
  | incoming
  /-- `Read` returns. -/
  | read (ok : Bool)
  /-- The outgoing thread goes on. -/
  | outgoing
  /-- Somebody calls `QueueEvent`. -/
  | queueEvent (event : Event)
  | stop
  deriving DecidableEq

namespace EventStream

variable {Event : Type}

/-- After `Start`. -/
def started : EventStream Event := ⟨true, [], .checking, .checking⟩

/-- Whether the outgoing thread holds `queue_mutex_`. -/
def locked (s : EventStream Event) : Bool :=
  match s.writer with
  | .draining => true
  | _ => false

/-- The next step of the outgoing thread.  It waits until something is queued or the stream is
stopped, and writes until the queue is empty or the stream is stopped. -/
def stepOutgoing (s : EventStream Event) : Option (EventStream Event) :=
  match s.writer with
  | .checking => some { s with writer := if s.running then .waiting else .exited }
  | .waiting =>
      if s.eventQueue.isEmpty ∧ s.running then none else some { s with writer := .draining }
  | .draining =>
      match s.eventQueue, s.running with
      | event :: rest, true => some { s with eventQueue := rest, writer := .writing event }
      | _, _ => some { s with writer := .checking }
  | .writing _ => some { s with writer := .draining }
  | .exited => none

/-- One step, if it is enabled. -/
def step (s : EventStream Event) : EventStreamAction Event → Option (EventStream Event)
  | .incoming =>
      if s.reader = .checking then
        some { s with reader := if s.running then .reading else .exited }
      else none
  | .read ok =>
      if s.reader = .reading then some { s with reader := if ok then .checking else .exited }
      else none
  | .outgoing => s.stepOutgoing
  | .queueEvent event =>
      if s.locked then none else some { s with eventQueue := s.eventQueue ++ [event] }
  | .stop => some { s with running := false }

/-- The event that is being written. -/
def inWrite (s : EventStream Event) : List Event :=
  match s.writer with
  | .writing event => [event]
  | _ => []

/-- The event with which a step calls `Write`. -/
def begins (s : EventStream Event) : EventStreamAction Event → Option Event
  | .outgoing =>
      match s.writer, s.running with
      | .draining, true => s.eventQueue.head?
      | _, _ => none
  | _ => none

variable {s t : EventStream Event} {action : EventStreamAction Event}

theorem inWrite_of_begins {event : Event} (step : s.step action = some t)
    (begins : s.begins action = some event) : s.inWrite = [] ∧ t.inWrite = [event] := by
  cases action with
  | outgoing =>
      obtain ⟨running, eventQueue, reader, writer⟩ := s
      cases writer with
      | draining =>
          cases running with
          | true =>
              obtain ⟨rest, rfl⟩ := List.head?_eq_some_iff.mp begins
              cases step
              exact ⟨rfl, rfl⟩
          | false => cases begins
      | _ => cases begins
  | _ => cases begins

theorem inWrite_of_goesOn (step : s.step action = some t) (goesOn : s.begins action = none) :
    t.inWrite.Sublist s.inWrite := by
  cases action with
  | outgoing =>
      obtain ⟨running, eventQueue, reader, writer⟩ := s
      cases writer with
      | checking =>
          cases step
          cases running <;> exact List.Sublist.refl _
      | waiting =>
          obtain ⟨-, ⟨⟩⟩ := Option.ite_none_left_eq_some.mp step
          exact List.Sublist.refl _
      | draining =>
          cases running with
          | true =>
              obtain rfl := List.head?_eq_none_iff.mp goesOn
              cases step
              exact List.Sublist.refl _
          | false =>
              cases eventQueue <;> cases step <;> exact List.Sublist.refl _
      | writing event =>
          cases step
          exact List.nil_sublist _
      | exited => cases step
  | incoming | read ok =>
      obtain ⟨-, ⟨⟩⟩ := Option.ite_none_right_eq_some.mp step
      exact List.Sublist.refl _
  | queueEvent event =>
      obtain ⟨-, ⟨⟩⟩ := Option.ite_none_left_eq_some.mp step
      exact List.Sublist.refl _
  | stop =>
      cases step
      exact List.Sublist.refl _

/-- Whether the threads of an event stream, or its users, can take a step. -/
def allowed (phase : ConnectPhase) : EventStreamAction Event → Bool
  | .incoming | .read _ | .outgoing => phase.isStarted
  | .queueEvent _ | .stop => phase.isAttached

end EventStream

/-- The threads of an event stream, and the callers of `QueueEvent` and `Stop`. -/
def eventThreads (Event : Type) : StreamThreads where
  State := EventStream Event
  Action := EventStreamAction Event
  Message := Event
  machine := ⟨.started, EventStream.step⟩
  allowed := EventStream.allowed
  inWrite := EventStream.inWrite
  begins := EventStream.begins
  idle := rfl
  inWrite_of_begins := EventStream.inWrite_of_begins
  inWrite_of_goesOn := EventStream.inWrite_of_goesOn

/-! ### The media stream of the listening engine

Two threads write to it, and `SendMediaFrame` keeps them apart by a mutex.  So of its machine it is
not trivial that no two writes overlap. -/

section Media

open ListeningEngine Wire

/-- The payload with which a thread is about to call `Write`. -/
def sendBegins : SendPhase → Option (MediaPayload TrackByte)
  | .locking payload => some payload
  | _ => none

/-- The payload with which a step calls `Write`. -/
def mediaBegins (s : MediaPath) : MediaAction → Option (MediaPayload TrackByte)
  | .forward _ =>
      match s.forwarder with
      | .sending phase => sendBegins phase
      | _ => none
  | .vad _ _ =>
      match s.vad with
      | .sending phase => sendBegins phase
      | _ => none
  | _ => none

/-- Whether the forwarding thread, the VAD thread, or anybody else can take a step. -/
def mediaAllowed (phase : ConnectPhase) : MediaAction → Bool
  | .forward _ => phase.isStarted
  | .turnEvent _ | .vad _ _ => phase.isAttached
  | .control _ | .onData _ _ | .discard => true

variable {s : MediaPath} {phase : SendPhase} {media : MediaStream TrackByte}
  {next : Option SendPhase}

/-- A thread in `SendMediaFrame` calls `Write` only while no other is in it. -/
theorem inWrite_of_sends (sends : s.Sends phase media next) :
    (∀ payload, sendBegins phase = some payload →
      s.inWrite = [] ∧ next = some (.writing payload)) ∧
      (sendBegins phase = none → ∀ phase ∈ next, phase.inWrite = []) := by
  cases sends with
  | drops | fails | writes => exact ⟨nofun, fun _ => nofun⟩
  | prepares payload =>
      refine ⟨nofun, ?_⟩
      rintro - _ ⟨⟩
      rfl
  | locks payload free =>
      refine ⟨?_, nofun⟩
      rintro _ ⟨⟩
      exact ⟨free, rfl⟩

theorem mediaPath_inWrite_of_begins [Double.UndefinedCast] {t : MediaPath} {action : MediaAction}
    {payload : MediaPayload TrackByte} (moved : s.Moved action t)
    (begins : mediaBegins s action = some payload) : s.inWrite = [] ∧ t.inWrite = [payload] := by
  cases moved with
  | forwards sending sends =>
      simp only [mediaBegins, sending] at begins
      obtain ⟨free, rfl⟩ := (inWrite_of_sends sends).1 payload begins
      exact ⟨free, congrArg (payload :: ·) (List.append_eq_nil_iff.mp free).2⟩
  | flushes sending sends =>
      simp only [mediaBegins, sending] at begins
      obtain ⟨free, rfl⟩ := (inWrite_of_sends sends).1 payload begins
      exact ⟨free, congrArg (· ++ [payload]) (List.append_eq_nil_iff.mp free).1⟩
  | loops phase | waits phase | pops phase | appends phase | testsGate phase | addresses phase
  | addressesPreRoll phase | opensGate phase => simp [mediaBegins, phase] at begins
  | _ => cases begins

theorem mediaPath_inWrite_of_goesOn [Double.UndefinedCast] {t : MediaPath} {action : MediaAction}
    (moved : s.Moved action t) (goesOn : mediaBegins s action = none) :
    t.inWrite.Sublist s.inWrite := by
  -- a thread that moves is in no `Write` afterwards, and the other one stays where it is
  have forwarded {phase : ForwarderPhase} (none : phase.inWrite = []) :
      (phase.inWrite ++ s.vad.inWrite).Sublist s.inWrite := by
    rw [none]
    exact List.sublist_append_right _ _
  have flushed {phase : VadPhase} (none : phase.inWrite = []) :
      (s.forwarder.inWrite ++ phase.inWrite).Sublist s.inWrite := by
    rw [none, List.append_nil]
    exact List.sublist_append_left _ _
  cases moved with
  | controls | hears | discards | endsTurn | ignores => exact List.Sublist.refl _
  | waits | pops | appends => exact forwarded rfl
  | loops | testsGate | addresses => exact forwarded (by split_ifs <;> rfl)
  | @forwards _ _ _ next sending sends =>
      simp only [mediaBegins, sending] at goesOn
      refine forwarded ?_
      cases next with
      | none => rfl
      | some phase => exact (inWrite_of_sends sends).2 goesOn phase rfl
  | findsNothing | copies | opensGate => exact flushed rfl
  | addressesPreRoll => exact flushed (by split_ifs <;> rfl)
  | @flushes _ _ _ _ next sending sends =>
      simp only [mediaBegins, sending] at goesOn
      refine flushed ?_
      cases next with
      | none => rfl
      | some phase => exact (inWrite_of_sends sends).2 goesOn phase rfl

/-- The threads around the audio of a listening session. -/
def mediaThreads [Double.UndefinedCast] (sessionId participantId : String) : StreamThreads where
  State := MediaPath
  Action := MediaAction
  Message := MediaPayload TrackByte
  machine := mediaPath sessionId participantId
  allowed := mediaAllowed
  inWrite := MediaPath.inWrite
  begins := mediaBegins
  idle := rfl
  inWrite_of_begins step begins := mediaPath_inWrite_of_begins (MediaPath.step_moved step) begins
  inWrite_of_goesOn step goesOn := mediaPath_inWrite_of_goesOn (MediaPath.step_moved step) goesOn

end Media

/-- **On each of the three streams the acknowledgement comes first and writes never overlap,
exactly in the runs in which no thread calls `Write` before the handler's has returned.** -/
theorem streams_orderly_iff [Wire.Double.UndefinedCast] (sessionId participantId : String) :
    (∀ (E : Control.Engine) (session : E.Session),
      let M := connection (controlThreads E sessionId participantId session)
      ∀ actions, (∀ taken ∈ M.transitions M.init actions, taken.after.Orderly) ↔
        M.Meets Connection.AfterAck M.init actions) ∧
    (∀ Event : Type,
      let M := connection (eventThreads Event)
      ∀ actions, (∀ taken ∈ M.transitions M.init actions, taken.after.Orderly) ↔
        M.Meets Connection.AfterAck M.init actions) ∧
    (let M := connection (mediaThreads sessionId participantId)
      ∀ actions, (∀ taken ∈ M.transitions M.init actions, taken.after.Orderly) ↔
        M.Meets Connection.AfterAck M.init actions) :=
  ⟨fun _ _ => Connection.orderly_iff_afterAck _, fun _ => Connection.orderly_iff_afterAck _,
    Connection.orderly_iff_afterAck _⟩

/-- A request that comes in as soon as the threads run is answered before the acknowledgement
is written: **the two writes overlap.** -/
theorem answered_before_acknowledgement :
    letI := Wire.Double.x86Cast
    let T := controlThreads ListeningEngine.listeningEngine "s" "p" .created
    let request : Control.Incoming ListeningEngine.Command :=
      .request ⟨"r", "s", "p", "unknown", .unknown⟩
    ∃ s : Connection T, (connection T).run (connection T).init
        [.start, .thread .incoming, .thread (.read request), .thread .incoming,
          .thread .outgoing, .thread .outgoing, .thread .outgoing, .thread .outgoing,
          .attach, .beginAck] = some s ∧
      s.begun.map Option.isSome = [true, false] ∧ s.inWrite.length = 2 ∧ ¬ s.Orderly := by
  let := Wire.Double.x86Cast
  intro T request
  have final : ((connection T).run (connection T).init
      [.start, .thread .incoming, .thread (.read request), .thread .incoming,
        .thread .outgoing, .thread .outgoing, .thread .outgoing, .thread .outgoing,
        .attach, .beginAck]).map (fun s => (s.begun.map Option.isSome, s.inWrite.length)) =
      some ([true, false], 2) := by
    decide +kernel
  obtain ⟨s, reached, ended⟩ := Option.map_eq_some_iff.mp final
  obtain ⟨begun, writes⟩ := Prod.mk.inj ended
  refine ⟨s, reached, begun, writes, fun orderly => ?_⟩
  have exclusive := orderly.exclusive
  omega

end Saasy.Service
