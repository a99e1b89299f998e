import SaasyMediaEngine.Listening.Gate
import SaasyMediaEngine.Service.Deliveries
import SaasyMediaEngine.Transition.Observation
import SaasyMediaEngine.Wire.Dtls

/-!
# What the orchestrator is told of the turns

From the pipeline to the wire: the thread that brings the audio runs a chunk and then makes the
calls of that chunk one after the other, `QueueEvent` waits for the lock of the queue, and the
outgoing thread writes what is queued, next to the handler that writes the acknowledgement and
to a transport that reports its connection.  Another session may run chunks through the shared
VAD at any time, and a second `Control` call replaces the pipeline.

`turnProtocol` is what the orchestrator can rely on.  A turn is opened by `on_speech_started`,
and only an open turn is paused and completed; but a turn may be dropped without a word, and
then the next one is opened while, as far as the orchestrator knows, a turn is open.

A chunk looks for the event stream where it reports the start of speech and again where it reports
the end of the turn, with SmartTurn in between.  So a stream that is attached while SmartTurn runs
hears of the end of a turn without its start, which is why a turn that the orchestrator did not hear
of is taken for open at first: `turnProtocol` may start with an open turn, and it starts with a
closed one for runs in which no turn is opened before the stream is attached (`OpensHeard`).

The events are followed through three places, the calls that the thread of the audio still has to
make, the queue, and what was written.  `held` lists them in this order, a step adds to its end
exactly what it reports, and so what was written is always the beginning of what was reported.
-/

namespace Saasy.ListeningEngine

open Transition VadTurnPipeline
open Saasy.Service (ConnectPhase Connection ConnectionAction StreamThreads eventThreads)

/-! ### The protocol

An automaton with two states.  While no turn is open the only event is an opening; while one is,
any of the three may come, another opening included. -/

/-- The three events of a turn, without their timestamps and ids. -/
inductive TurnMark where
  | started
  | ended
  | completed
  deriving DecidableEq

/-- Whether a turn is open, as far as the orchestrator knows, and which events it has to expect
then.  A turn may be opened anew while it is open, as one that is dropped is not reported. -/
def turnProtocol (opened : Bool) : Machine Bool TurnMark where
  init := opened
  step
    | _, .started => some true
    | true, .ended => some true
    | true, .completed => some false
    | false, _ => none

/-- The events are a word of the protocol. -/
def Speaks (opened : Bool) (marks : List TurnMark) : Prop :=
  ((turnProtocol opened).run opened marks).isSome

instance (opened : Bool) (marks : List TurnMark) : Decidable (Speaks opened marks) :=
  inferInstanceAs (Decidable (_ = true))

/-- What was said up to some point is a word, if all of it is. -/
theorem Speaks.of_append {opened : Bool} {front back : List TurnMark}
    (speaks : Speaks opened (front ++ back)) : Speaks opened front := by
  obtain ⟨last, accepts⟩ := Option.isSome_iff_exists.mp speaks
  obtain ⟨middle, run, -⟩ := (turnProtocol opened).run_append_eq_some.mp accepts
  exact Option.isSome_iff_exists.mpr ⟨middle, run⟩

/-! ### From the pipeline to the wire

A chunk makes its calls on the event stream one after the other, and the writer thread may take
events from the queue in between; so the calls that are still to be made are part of the state. -/

/-- The event that `deliver` queues for an output of the pipeline. -/
def EventStream.eventOf {World Sample : Type*} (es : EventStream World) :
    TurnOutput Sample → Option EngineEvent
  | .speechStarted ts => some (es.event "on_speech_started" ts)
  | .speechEnded ts => some (es.event "on_speech_ended" ts)
  | .userTurnComplete confidence ts =>
      some { es.event "on_user_turn_complete" ts with confidence := some confidence }
  | _ => none

theorem EventStream.deliver_eventQueue {World Sample : Type*} (env : MediaEnv)
    (target : EventStream World × World) (output : TurnOutput Sample) :
    (EventStream.deliver env target output).1.eventQueue =
      target.1.eventQueue ++ (target.1.eventOf output).toList := by
  cases output <;> first | rfl | exact (List.append_nil _).symm

/-- `EngineToOrchestratorEvent`, as it goes through the queue: an event of a turn, or the
`on_connect` of the transport. -/
inductive StreamEvent where
  | turn (event : EngineEvent)
  | onConnect (transportId : String) (deviceDtlsParameters : Wire.DtlsParameters)

def StreamEvent.turn? : StreamEvent → Option EngineEvent
  | .turn event => some event
  | .onConnect _ _ => none

/-- Which of the three an event is. -/
def EngineEvent.mark (event : EngineEvent) : Option TurnMark :=
  if event.type = "on_speech_started" then some .started
  else if event.type = "on_speech_ended" then some .ended
  else if event.type = "on_user_turn_complete" then some .completed
  else none

/-- A pipeline, the calls of its last chunk that are still to be made, and the stream.  The calls
are kept as the events they are going to queue. -/
structure ReportState (Sample Rnn : Type*) where
  turn : TurnState Sample Rnn
  pending : List EngineEvent
  stream : Connection (eventThreads StreamEvent)

inductive ReportAction (Sample : Type*) where
  | turn (action : TurnAction Sample)
  /-- The next call of the chunk gets to the queue of a stream that is attached by then. -/
  | report
  /-- `Control` replaces the pipeline. -/
  | replace (silenceStart speechStart : ℤ)
  /-- `OnConnect` of the transport. -/
  | onConnect (transportId : String) (deviceDtlsParameters : Wire.DtlsParameters)
  /-- The handler, and the threads of the stream. -/
  | stream (action : ConnectionAction (eventThreads StreamEvent))

namespace ReportState

variable {Sample Rnn : Type*}

/-- The thread of the audio makes the calls of a chunk before it goes on.  A chunk sees the
event stream once it is attached; while SmartTurn runs, `Events` may attach it, and then the
chunk sees it at the end of the turn and not before. -/
def admits (s : ReportState Sample Rnn) : TurnAction Sample → Bool
  | .audio _ => s.pending.isEmpty
  | .vadChunk env =>
      s.pending.isEmpty && env.streamAtSpeech == s.stream.handler.isAttached &&
        (!env.streamAtSpeech || env.streamAtTurn)
  | .foreign _ => true

/-- `QueueEvent`. -/
def queueEvent (s : ReportState Sample Rnn) (event : StreamEvent) :
    Option (Connection (eventThreads StreamEvent)) :=
  s.stream.step (.thread (.queueEvent event))

end ReportState

/-- Whether an action is a call of `QueueEvent`, which is made by `report` and `onConnect`. -/
def queues : ConnectionAction (eventThreads StreamEvent) → Bool
  | .thread (.queueEvent _) => true
  | _ => false

section Machine

variable {Sample Rnn : Type*} (onnx : OnnxSession Sample Rnn) (config : TurnDetectorConfig)
variable (ids : EventStream Unit)

/-- The events of a step of the pipeline. -/
def reportsOf (s : TurnState Sample Rnn) (action : TurnAction Sample)
    (t : TurnState Sample Rnn) : List EngineEvent :=
  (emitted onnx config ⟨s, action, t⟩).filterMap ids.eventOf

/-- One step: of the pipeline, whose calls are then to be made one by one; a call, on the stream
that is attached; a new pipeline, when none is to be made; or of the stream itself. -/
def reportStep (s : ReportState Sample Rnn) :
    ReportAction Sample → Option (ReportState Sample Rnn)
  | .turn action =>
      if s.admits action then
        (turnStep onnx config s.turn action).map fun turn =>
          { s with turn, pending := s.pending ++ reportsOf onnx config ids s.turn action turn }
      else none
  | .report =>
      match s.pending with
      | [] => none
      | event :: rest =>
          if s.stream.handler.isAttached then
            (s.queueEvent (.turn event)).map fun stream => { s with pending := rest, stream }
          else none
  | .replace silenceStart speechStart =>
      if s.pending.isEmpty then
        some { s with turn := { s.turn with pipeline := .start silenceStart speechStart } }
      else none
  | .onConnect transportId deviceDtlsParameters =>
      (s.queueEvent (.onConnect transportId deviceDtlsParameters)).map fun stream =>
        { s with stream }
  | .stream action =>
      if queues action then none else (s.stream.step action).map fun stream => { s with stream }

/-- A session with its pipeline, whose event stream is about to be constructed.  Nothing says how
soon: chunks may run before it is attached. -/
def reporting [Zero Sample] [Zero Rnn] (vadConfig : VadConfig) (t₀ t₁ : ℤ) :
    Machine (ReportState Sample Rnn) (ReportAction Sample) where
  init :=
    { turn := (turnMachine onnx config vadConfig t₀ t₁).init
      pending := []
      stream := (Service.connection (eventThreads StreamEvent)).init }
  step := reportStep onnx config ids

/-- What a step of the session has to report. -/
def reported (t : Taken (ReportState Sample Rnn) (ReportAction Sample)) : List EngineEvent :=
  match t.action with
  | .turn action => reportsOf onnx config ids t.before.turn action t.after.turn
  | _ => []

/-- No chunk opens a turn before the event stream is attached. -/
def OpensHeard (s : ReportState Sample Rnn) : ReportAction Sample → Prop
  | .turn (.vadChunk env) =>
      env.streamAtSpeech = false → s.turn.pipeline.currentState = .idle →
        (s.turn.processChunk onnx config env).1.pipeline.currentState = .idle
  | _ => True

end Machine

/-! ### The pipeline speaks the protocol

The pipeline and the automaton are compared after each reaction.  They agree on whether a turn is
open, except that the orchestrator does not hear of a turn that is dropped, and takes it for open.
-/

section Protocol

variable {Sample : Type*} {config : TurnDetectorConfig} {p q : VadTurnPipeline Sample}
  {env : ChunkEnv Sample} {v : VadState} {outputs : List (TurnOutput Sample)}

/-- The marks of the events of a chunk. -/
def marksOf (ids : EventStream Unit) (outputs : List (TurnOutput Sample)) : List TurnMark :=
  (outputs.filterMap ids.eventOf).filterMap EngineEvent.mark

variable (ids : EventStream Unit)

theorem marksOf_append (front back : List (TurnOutput Sample)) :
    marksOf ids (front ++ back) = marksOf ids front ++ marksOf ids back := by
  rw [marksOf, List.filterMap_append, List.filterMap_append]
  rfl

/-- A detection that reports nothing leaves the state or drops the turn; one that reports
something completes the turn. -/
theorem marksOf_detection (detected : Detection config p env q outputs) :
    marksOf ids outputs = [] ∨
      marksOf ids outputs = [.completed] ∧ q.currentState = .idle := by
  cases detected with
  | empty | failed | waiting => exact .inl rfl
  | complete =>
      cases env.streamAtTurn with
      | false => exact .inl rfl
      | true => exact .inr ⟨rfl, rfl⟩

/-- The orchestrator knows of the turn that the pipeline is in. -/
def Knows (p : VadTurnPipeline Sample) (opened : Bool) : Prop :=
  p.currentState ≠ .idle → opened = true

/-- A detection ends the turn, in one way or another, or leaves it open. -/
theorem knows_detection (start : Bool) (detected : Detection config p env q outputs) :
    ∃ opened, (turnProtocol start).run true (marksOf ids outputs) = some opened ∧
      Knows q opened := by
  obtain quiet | ⟨completes, idle⟩ := marksOf_detection ids detected
  · exact ⟨true, by rw [quiet]; rfl, fun _ => rfl⟩
  · exact ⟨false, by rw [completes]; rfl, fun busy => absurd idle busy⟩

/-- **A chunk is followed by the protocol**, if it does not open a turn unheard, and after it the
orchestrator knows of the turn the pipeline is in. -/
theorem knows_reaction (start : Bool) {opened : Bool} (knows : Knows p opened)
    (heard : env.streamAtSpeech = false → p.currentState = .idle → Knows q opened)
    (reacted : Reaction config p env v q outputs) :
    ∃ opened', (turnProtocol start).run opened (marksOf ids outputs) = some opened' ∧
      Knows q opened' := by
  cases reacted with
  | quiet => exact ⟨opened, rfl, knows⟩
  | mirrored busy => exact ⟨opened, rfl, fun _ => knows busy⟩
  | backchannel => exact ⟨opened, rfl, fun busy => absurd rfl busy⟩
  | started idle =>
      cases attached : env.streamAtSpeech with
      | false => exact ⟨opened, rfl, heard attached idle⟩
      | true =>
          refine ⟨true, ?_, fun _ => rfl⟩
          cases opened <;> rfl
  | @ended q outputs speech long detected =>
      obtain rfl : opened = true := knows (by simp [speech])
      obtain ⟨opened', accepts, after⟩ := knows_detection ids start detected
      refine ⟨opened', ?_, after⟩
      rw [marksOf_append, (turnProtocol start).run_append_eq_some]
      refine ⟨true, ?_, accepts⟩
      cases env.streamAtSpeech <;> rfl
  | paused silence detected =>
      obtain rfl : opened = true := knows (by simp [silence])
      exact knows_detection ids start detected

end Protocol

/-! ### The session

The queue and the writer thread keep the order.  What is written, what is queued and what is still
to be queued are therefore one list, which only grows at its end. -/

section Runs

variable {Sample Rnn : Type*} {onnx : OnnxSession Sample Rnn} {config : TurnDetectorConfig}
  {ids : EventStream Unit} {s t : ReportState Sample Rnn} {action : ReportAction Sample}

/-- The events of turns that were handed to `Write`. -/
def ReportState.written (s : ReportState Sample Rnn) : List EngineEvent :=
  s.stream.written.filterMap StreamEvent.turn?

/-- These, those that are queued, and those that are still to be queued. -/
def ReportState.held (s : ReportState Sample Rnn) : List EngineEvent :=
  s.stream.told.filterMap StreamEvent.turn? ++ s.pending

theorem ReportState.written_prefix_held (s : ReportState Sample Rnn) : s.written <+: s.held := by
  rw [held, Service.Connection.told, List.filterMap_append, List.append_assoc]
  exact List.prefix_append _ _

/-- What can happen, with what it does to the pipeline, to the calls that wait, and to the stream.
-/
inductive ReportMoved (onnx : OnnxSession Sample Rnn) (config : TurnDetectorConfig)
    (ids : EventStream Unit) (s : ReportState Sample Rnn) :
    ReportAction Sample → ReportState Sample Rnn → Prop
  | turns {action : TurnAction Sample} {turn : TurnState Sample Rnn}
      (admits : s.admits action = true) (step : turnStep onnx config s.turn action = some turn) :
      ReportMoved onnx config ids s (.turn action)
        { s with turn, pending := s.pending ++ reportsOf onnx config ids s.turn action turn }
  | reports {event : EngineEvent} {rest : List EngineEvent}
      {stream : Service.Connection (Service.eventThreads StreamEvent)}
      (pending : s.pending = event :: rest) (attached : s.stream.handler.isAttached = true)
      (queued : s.queueEvent (.turn event) = some stream) :
      ReportMoved onnx config ids s .report { s with pending := rest, stream }
  | replaces {silenceStart speechStart : ℤ} (pending : s.pending = []) :
      ReportMoved onnx config ids s (.replace silenceStart speechStart)
        { s with turn := { s.turn with pipeline := .start silenceStart speechStart } }
  | connects {transportId : String} {dtls : Wire.DtlsParameters}
      {stream : Service.Connection (Service.eventThreads StreamEvent)}
      (queued : s.queueEvent (.onConnect transportId dtls) = some stream) :
      ReportMoved onnx config ids s (.onConnect transportId dtls) { s with stream }
  | streams {action : Service.ConnectionAction (Service.eventThreads StreamEvent)}
      {stream : Service.Connection (Service.eventThreads StreamEvent)}
      (quiet : Service.Connection.queuedBy action = [])
      (step : s.stream.step action = some stream) :
      ReportMoved onnx config ids s (.stream action) { s with stream }

theorem reportMoved (step : reportStep onnx config ids s action = some t) :
    ReportMoved onnx config ids s action t := by
  cases action with
  | turn action =>
      obtain ⟨admits, moved⟩ := Option.ite_none_right_eq_some.mp step
      obtain ⟨turn, stepped, rfl⟩ := Option.map_eq_some_iff.mp moved
      exact .turns admits stepped
  | report =>
      cases pending : s.pending with
      | nil => simp [reportStep, pending] at step
      | cons event rest =>
          simp only [reportStep, pending] at step
          obtain ⟨attached, called⟩ := Option.ite_none_right_eq_some.mp step
          obtain ⟨stream, queued, rfl⟩ := Option.map_eq_some_iff.mp called
          exact .reports pending attached queued
  | replace silenceStart speechStart =>
      obtain ⟨pending, ⟨⟩⟩ := Option.ite_none_right_eq_some.mp step
      exact .replaces (List.isEmpty_iff.mp pending)
  | onConnect transportId dtls =>
      obtain ⟨stream, queued, rfl⟩ := Option.map_eq_some_iff.mp step
      exact .connects queued
  | stream action =>
      obtain ⟨quiet, moved⟩ := Option.ite_none_left_eq_some.mp step
      obtain ⟨stream, stepped, rfl⟩ := Option.map_eq_some_iff.mp moved
      refine .streams ?_ stepped
      cases action with
      | thread action =>
          cases action with
          | queueEvent event => exact absurd rfl quiet
          | _ => rfl
      | _ => rfl

/-- **No event is lost, doubled or moved**: `held` grows by what a step reports, at its end, and by
nothing else. -/
theorem held_of_step (step : reportStep onnx config ids s action = some t) :
    t.held = s.held ++ reported onnx config ids ⟨s, action, t⟩ := by
  cases reportMoved step with
  | turns => exact (List.append_assoc _ _ _).symm
  | @reports event rest stream pending attached queued =>
      have told := Service.Connection.told_of_step queued
      show stream.told.filterMap StreamEvent.turn? ++ rest = s.held ++ []
      rw [told, ReportState.held, pending, List.filterMap_append, List.append_nil,
        List.append_assoc]
      rfl
  | replaces => exact (List.append_nil _).symm
  | @connects transportId dtls stream queued =>
      have told := Service.Connection.told_of_step queued
      show stream.told.filterMap StreamEvent.turn? ++ s.pending = s.held ++ []
      rw [told, List.filterMap_append]
      simp [Service.Connection.queuedBy, Service.EventStreamAction.queued, StreamEvent.turn?,
        ReportState.held]
  | @streams action stream quiet stepped =>
      have told := Service.Connection.told_of_step stepped
      show stream.told.filterMap StreamEvent.turn? ++ s.pending = s.held ++ []
      rw [told, quiet, List.append_nil, List.append_nil]
      rfl

/-- Once attached, the event stream stays. -/
theorem isAttached_of_reportStep (step : reportStep onnx config ids s action = some t)
    (attached : s.stream.handler.isAttached = true) : t.stream.handler.isAttached = true := by
  cases reportMoved step with
  | turns | replaces => exact attached
  | reports _ _ queued | connects queued =>
      exact Service.Connection.isAttached_of_step queued attached
  | streams _ stepped => exact Service.Connection.isAttached_of_step stepped attached

variable (onnx config) in
/-- A chunk as a reaction of the pipeline, or a failure of the VAD. -/
theorem reaction_of_chunk (s : TurnState Sample Rnn) (env : ChunkEnv Sample) :
    let chunk := s.processChunk onnx config env
    chunk.1.pipeline.currentState = s.pipeline.currentState ∧ chunk.2 = [] ∨
      ∃ p v, p.currentState = s.pipeline.currentState ∧
        Reaction config p env v chunk.1.pipeline chunk.2 := by
  intro chunk
  have processed : chunk = _ := s.processChunk_eq onnx config env
  rw [processed]
  split_ifs with failed
  · exact .inl ⟨rfl, rfl⟩
  · let p := { s.pipeline with vadAccumulator := s.pipeline.vadAccumulator.drop kChunkSize }
    exact .inr ⟨p, _, rfl, reaction config p _ env⟩

/-- The events of a step, as marks. -/
def reportedMarks (onnx : OnnxSession Sample Rnn) (config : TurnDetectorConfig)
    (ids : EventStream Unit) (t : Taken (ReportState Sample Rnn) (ReportAction Sample)) :
    List TurnMark :=
  (reported onnx config ids t).filterMap EngineEvent.mark

/-- **The protocol follows each step**, if the orchestrator takes a turn for open or the step
does not open one unheard. -/
theorem knows_step (start : Bool) {opened : Bool} (knows : Knows s.turn.pipeline opened)
    (heard : opened = true ∨ OpensHeard onnx config s action)
    (step : reportStep onnx config ids s action = some t) :
    ∃ opened', (turnProtocol start).run opened (reportedMarks onnx config ids ⟨s, action, t⟩) =
        some opened' ∧ Knows t.turn.pipeline opened' := by
  cases reportMoved step with
  | reports | connects | streams => exact ⟨opened, rfl, knows⟩
  | replaces => exact ⟨opened, rfl, fun busy => absurd rfl busy⟩
  | @turns action turn admits stepped =>
      cases action with
      | audio resampled =>
          cases stepped
          exact ⟨opened, rfl, knows⟩
      | foreign chunk =>
          cases stepped
          exact ⟨opened, rfl, knows⟩
      | vadChunk env =>
          obtain ⟨-, rfl⟩ := turnStep_vadChunk.mp stepped
          obtain ⟨same, silent⟩ | ⟨p, v, same, reacted⟩ := reaction_of_chunk onnx config s.turn env
          · refine ⟨opened, ?_, fun busy => knows (same ▸ busy)⟩
            show (turnProtocol start).run opened (marksOf ids (s.turn.processChunk ..).2) = _
            rw [silent]
            rfl
          · refine knows_reaction ids start (p := p) (fun busy => knows (same ▸ busy)) ?_ reacted
            intro detached idle busy
            obtain known | heard := heard
            · exact known
            · exact absurd (heard detached (same ▸ idle)) busy

/-- The orchestrator knows of the turn.  Before it hears of any it takes one for open, until the
call that completes a turn waits for the stream to be attached. -/
structure KnowsAttached (s : ReportState Sample Rnn) (opened : Bool) : Prop where
  knows : Knows s.turn.pipeline opened
  detached : s.stream.handler.isAttached = false → opened = true ∨ s.pending ≠ []

theorem heard_of_attached (attached : s.stream.handler.isAttached = true)
    (step : reportStep onnx config ids s action = some t) : OpensHeard onnx config s action := by
  cases reportMoved step with
  | reports | connects | streams | replaces => trivial
  | @turns action turn admits stepped =>
      cases action with
      | audio | foreign => trivial
      | vadChunk env =>
          intro detached
          have sees := (Bool.and_eq_true_iff.mp (Bool.and_eq_true_iff.mp admits).1).2
          rw [detached, attached] at sees
          cases sees

/-- A chunk that runs before the stream is attached. -/
theorem KnowsAttached.chunk_detached (start : Bool) {opened : Bool} {env : ChunkEnv Sample}
    (knows : KnowsAttached s opened) (detached : s.stream.handler.isAttached = false)
    (empty : s.pending = [])
    (step : reportStep onnx config ids s (.turn (.vadChunk env)) = some t) :
    ∃ opened', (turnProtocol start).run opened
        (reportedMarks onnx config ids ⟨s, .turn (.vadChunk env), t⟩) = some opened' ∧
      KnowsAttached t opened' := by
  obtain rfl := (knows.detached detached).resolve_right fun waits => waits empty
  obtain ⟨opened', follows, after⟩ := knows_step start knows.knows (.inl rfl) step
  refine ⟨opened', follows, after, fun _ => ?_⟩
  have pending : t.pending =
      s.pending ++ reported onnx config ids ⟨s, .turn (.vadChunk env), t⟩ := by
    cases reportMoved step
    rfl
  -- only a call that is still to be made closes the turn
  by_cases said : reported onnx config ids ⟨s, .turn (.vadChunk env), t⟩ = []
  · rw [reportedMarks, said] at follows
    exact .inl (Option.some.inj follows).symm
  · rw [empty, List.nil_append] at pending
    exact .inr (pending ▸ said)

theorem KnowsAttached.step (start : Bool) {opened : Bool} (knows : KnowsAttached s opened)
    (step : reportStep onnx config ids s action = some t) :
    ∃ opened', (turnProtocol start).run opened (reportedMarks onnx config ids ⟨s, action, t⟩) =
        some opened' ∧ KnowsAttached t opened' := by
  cases attached : s.stream.handler.isAttached with
  | true =>
      obtain ⟨opened', follows, after⟩ :=
        knows_step start knows.knows (.inr (heard_of_attached attached step)) step
      have stays := isAttached_of_reportStep step attached
      exact ⟨opened', follows, after, fun detached => absurd stays (by simp [detached])⟩
  | false =>
      have waits := knows.detached attached
      cases reportMoved step with
      | reports _ late => exact absurd late (by simp [attached])
      | connects | streams => exact ⟨opened, rfl, knows.knows, fun _ => waits⟩
      | replaces => exact ⟨opened, rfl, fun busy => absurd rfl busy, fun _ => waits⟩
      | @turns action turn admits stepped =>
          cases action with
          | audio | foreign =>
              cases stepped
              refine ⟨opened, rfl, knows.knows, fun _ => ?_⟩
              show opened = true ∨ s.pending ++ [] ≠ []
              rwa [List.append_nil]
          | vadChunk env =>
              have empty := (Bool.and_eq_true_iff.mp (Bool.and_eq_true_iff.mp admits).1).1
              exact knows.chunk_detached start attached (List.isEmpty_iff.mp empty) step

/-! ### What the events carry

The ids are those that the stream was constructed with, and a probability below zero, which stands
for a failure of SmartTurn, never gets to the call that completes a turn. -/

/-- An event of a turn: addressed to the participant of the session, and, if it completes the
turn, with a probability that SmartTurn did not fail to give. -/
structure Proper (ids : EventStream Unit) (event : EngineEvent) : Prop where
  addressed : event.sessionId = ids.sessionId ∧ event.participantId = ids.participantId
  marked : event.mark.isSome
  confident : event.mark = some .completed → ∃ confidence ∈ event.confidence, 0 ≤ confidence

/-- An output of a chunk is a call that makes a proper event, or none at all. -/
def ProperOutput (ids : EventStream Unit) (output : TurnOutput Sample) : Prop :=
  ∀ event ∈ ids.eventOf output, Proper ids event

theorem properOutput_started (ts : ℕ) :
    ProperOutput ids (.speechStarted ts : TurnOutput Sample) := by
  rintro event ⟨⟩
  exact ⟨⟨rfl, rfl⟩, rfl, fun completes => by cases completes⟩

theorem properOutput_ended (ts : ℕ) : ProperOutput ids (.speechEnded ts : TurnOutput Sample) := by
  rintro event ⟨⟩
  exact ⟨⟨rfl, rfl⟩, rfl, fun completes => by cases completes⟩

theorem properOutput_complete {confidence : ℚ} (ok : 0 ≤ confidence) (ts : ℕ) :
    ProperOutput ids (.userTurnComplete confidence ts : TurnOutput Sample) := by
  rintro event ⟨⟩
  exact ⟨⟨rfl, rfl⟩, rfl, fun _ => ⟨confidence, rfl, ok⟩⟩

theorem properOutput_of_send {attached : Bool} {sent : TurnOutput Sample}
    (proper : ProperOutput ids sent) :
    ∀ output ∈ send attached sent, ProperOutput ids output := by
  intro output mem
  cases attached with
  | false => cases mem
  | true =>
      rw [List.mem_singleton.mp mem]
      exact proper

theorem properOutput_of_detection {p q : VadTurnPipeline Sample} {env : ChunkEnv Sample}
    {outputs : List (TurnOutput Sample)} (detected : Detection config p env q outputs) :
    ∀ output ∈ outputs, ProperOutput ids output := by
  have unreported (audio : List Sample) : ProperOutput ids (.smartTurn audio) :=
    fun _ none => by cases none
  cases detected with
  | empty => exact List.forall_mem_nil _
  | failed | waiting => exact List.forall_mem_singleton.mpr (unreported _)
  | complete _ ok =>
      exact List.forall_mem_cons.mpr
        ⟨unreported _, properOutput_of_send (properOutput_complete ok _)⟩

theorem properOutput_of_reaction {p q : VadTurnPipeline Sample} {env : ChunkEnv Sample}
    {v : VadState} {outputs : List (TurnOutput Sample)}
    (reacted : Reaction config p env v q outputs) :
    ∀ output ∈ outputs, ProperOutput ids output := by
  cases reacted with
  | quiet | mirrored => exact List.forall_mem_nil _
  | backchannel => exact List.forall_mem_singleton.mpr fun _ none => by cases none
  | started => exact properOutput_of_send (properOutput_started _)
  | ended _ _ detected =>
      exact List.forall_mem_append.mpr ⟨properOutput_of_send (properOutput_ended _),
        properOutput_of_detection detected⟩
  | paused _ detected => exact properOutput_of_detection detected

theorem proper_of_step (step : reportStep onnx config ids s action = some t) :
    ∀ event ∈ reported onnx config ids ⟨s, action, t⟩, Proper ids event := by
  intro event mem
  cases reportMoved step with
  | reports | connects | streams | replaces => cases mem
  | @turns action turn admits stepped =>
      obtain ⟨output, emits, isEvent⟩ := List.mem_filterMap.mp mem
      cases action with
      | audio | foreign => cases emits
      | vadChunk env =>
          obtain ⟨-, silent⟩ | ⟨p, v, -, reacted⟩ :=
            reaction_of_chunk onnx config s.turn env
          · have emits : output ∈ (s.turn.processChunk onnx config env).2 := emits
            rw [silent] at emits
            cases emits
          · exact properOutput_of_reaction reacted output emits event isEvent

end Runs

/-! ### The law

Two simulations of the session by the automaton: one that starts with no turn open, for the runs in
which none was opened before the stream was attached, and one that starts with an open turn, for
all runs. -/

/-- **What the orchestrator is told.**  The events of the chunks, in their order, are those
that were written, those that are queued and those that are still to be queued; the ones that
were written are a word of the protocol. -/
structure ReportLaw {Sample Rnn : Type*} (ids : EventStream Unit) (heard : Prop)
    (sent : List EngineEvent) (s : ReportState Sample Rnn) : Prop where
  held : s.held = sent
  written : s.written <+: sent
  proper : ∀ event ∈ sent, Proper ids event
  /-- A turn may have been opened before there was an event stream. -/
  speaks : Speaks true (s.written.filterMap EngineEvent.mark)
  heard : heard → Speaks false (s.written.filterMap EngineEvent.mark)

/-- **Along every run of the session** the events reach the orchestrator in order and none is
lost or doubled on the way, and they are a word of the protocol, from the beginning if no turn
was opened before the event stream was attached. -/
theorem turns_reported {Sample Rnn : Type*} [Zero Sample] [Zero Rnn]
    (onnx : OnnxSession Sample Rnn) (config : TurnDetectorConfig) (ids : EventStream Unit)
    (vadConfig : VadConfig) (t₀ t₁ : ℤ) (actions : List (ReportAction Sample))
    (s : ReportState Sample Rnn) :
    let M := reporting onnx config ids vadConfig t₀ t₁
    M.run M.init actions = some s →
      ReportLaw ids (M.Meets (OpensHeard onnx config) M.init actions)
        (M.observed (reported onnx config ids) M.init actions) s := by
  intro M reached
  have held : s.held = M.observed (reported onnx config ids) M.init actions :=
    M.held_of_steps _ ReportState.held (fun _ _ _ step => held_of_step step) reached
  have written := held ▸ s.written_prefix_held
  have marks : M.observed (reportedMarks onnx config ids) M.init actions =
      (M.observed (reported onnx config ids) M.init actions).filterMap EngineEvent.mark :=
    (List.filterMap_flatMap ..).symm
  -- a word of the protocol, if all of what is sent is one
  have spoken {opened : Bool} (follows : ∃ q, (turnProtocol opened).run opened
      (M.observed (reportedMarks onnx config ids) M.init actions) = some q) :
      Speaks opened (s.written.filterMap EngineEvent.mark) := by
    obtain ⟨rest, split⟩ := written.filterMap EngineEvent.mark
    have speaks : Speaks opened (M.observed (reportedMarks onnx config ids) M.init actions) :=
      Option.isSome_iff_exists.mpr follows
    rw [marks, ← split] at speaks
    exact speaks.of_append
  refine ⟨held, written, ?_, spoken ?_, fun heard => spoken ?_⟩
  · intro event mem
    obtain ⟨taken, step, reports⟩ := List.mem_flatMap.mp mem
    have took := (M.transitions_of_invariant (motive := fun _ => True)
      (fun _ _ _ _ _ => trivial) trivial taken step).2
    exact proper_of_step took event reports
  · have always : M.Meets (fun _ _ => True) M.init actions := fun _ _ => trivial
    obtain ⟨q, follows, -⟩ := M.observed_of_simulation (reportedMarks onnx config ids)
      (turnProtocol true) (R := KnowsAttached) (fun s a t p knows _ step => knows.step true step)
      (p := true) ⟨fun _ => rfl, fun _ => .inl rfl⟩ reached always
    exact ⟨q, follows⟩
  · obtain ⟨q, follows, -⟩ := M.observed_of_simulation (reportedMarks onnx config ids)
      (turnProtocol false) (R := fun s opened => Knows s.turn.pipeline opened)
      (fun s a t p knows quiet step => knows_step false knows (.inr quiet) step)
      (p := false) (fun busy => absurd rfl busy) reached heard
    exact ⟨q, follows⟩

/-- Two chunks of speech and ten of silence after the acknowledgement: the turn is opened and,
by the silence of the VAD alone, completed. -/
theorem turns_reported_completed :
    let ids := EventStream.create "s" "p"
    let M : Machine (ReportState ℤ ℕ) (ReportAction ℤ) := reporting twoChunks {} ids {} 0 0
    let chunk : ReportAction ℤ :=
      .turn (.vadChunk ⟨⟨0, 0, 0, 0, 0, 0, 7, 7, 7⟩, fun _ => some 1, true, true⟩)
    let audio (chunks : ℕ) : ReportAction ℤ :=
      .turn (.audio (List.replicate (chunks * kChunkSize) 0))
    let actions := [.stream .start, .stream .attach, .stream .beginAck, .stream (.endAck true),
        audio 2, chunk, chunk, .report, audio 10] ++ List.replicate 10 chunk ++
      .report :: List.replicate 5 (.stream (.thread .outgoing))
    ∃ s, M.run M.init actions = some s ∧
      s.written.map EngineEvent.type = ["on_speech_started", "on_user_turn_complete"] ∧
      ReportLaw ids (M.Meets (OpensHeard twoChunks {}) M.init actions)
        (M.observed (reported twoChunks {} ids) M.init actions) s := by
  intro ids M chunk audio actions
  have final : (M.run M.init actions).map (fun s => s.written.map EngineEvent.type) =
      some ["on_speech_started", "on_user_turn_complete"] := by
    decide +kernel
  obtain ⟨s, reached, written⟩ := Option.map_eq_some_iff.mp final
  exact ⟨s, reached, written, turns_reported twoChunks {} ids {} 0 0 actions s reached⟩

end Saasy.ListeningEngine
