import SaasyMediaEngine.Listening.TurnMachine
import SaasyMediaEngine.Listening.MediaStream

/-!
# The gate over the runs of a pipeline

The pipeline, the event stream it reports to and the media stream that listens
there, as one machine: a `turn` step is a step of the turn machine whose outputs
are delivered to the event stream in program order, a `forward` step is one frame
of the forwarding thread.  The session has its event stream, so every chunk sees it.

`BalanceLaw` says of a step that openings and closings alternate so far and that a
chunk which leaves the pipeline idle leaves the gate closed.  The pipeline goes
back to `idle` along five paths and only one of them sends `user_turn_complete`:
`ClosesTurn` singles it out, and `balanced_iff` says that a run is balanced exactly
as long as the other four are not taken.

What the pipeline reports and what it does to the gate are compared through `marks`, the openings
and closings among the outputs of a chunk: `deliverAll_spec` says that the queue gains exactly
these and that the gate follows the last of them, whatever else is among the outputs.  `Marked` is
then all that has to be known about a chunk, four ways to get from one pipeline state to another,
and `GateAgrees` the invariant: the gate is open while the pipeline has a turn, and the last event
in the queue says the same.

Frames of the forwarding thread may come at any point between chunks.  They change the pre-roll
and what was sent, and never the gate, so they are steps of the machine for the sake of the runs
and drop out of every proof at once.
-/

namespace Saasy.ListeningEngine

open Transition VadTurnPipeline

/-- The three objects of one session: the pipeline with its VAD, the event stream it reports to,
and the media stream that listens there. -/
structure GateState (Sample Rnn Byte : Type*) where
  turn : TurnState Sample Rnn
  events : EventStream (MediaStream Byte)
  media : MediaStream Byte

inductive GateAction (Sample Byte : Type*)
  | turn (action : TurnAction Sample) (env : MediaEnv)
  | forward (frame : AudioFrame Byte) (env : MediaEnv)

namespace EventStream

variable {Sample World : Type*}

/-- One output of the pipeline on the event stream; a backchannel and a SmartTurn
call do not reach it. -/
def deliver (env : MediaEnv) (target : EventStream World × World) (output : TurnOutput Sample) :
    EventStream World × World :=
  match output with
  | .speechStarted ts => target.1.sendOnSpeechStartedEvent env ts target.2
  | .speechEnded ts => target.1.sendOnSpeechEndedEvent ts target.2
  | .userTurnComplete confidence ts =>
      target.1.sendOnUserTurnCompleteEvent env confidence ts target.2
  | _ => target

end EventStream

/-- The chunk sees the event stream; other steps do not look. -/
def TurnAction.attached {Sample : Type*} : TurnAction Sample → Bool
  | .vadChunk env => env.hasEventStream
  | _ => true

section Machine

variable {Sample Rnn Byte : Type*} (onnx : OnnxSession Sample Rnn) (config : TurnDetectorConfig)

/-- What a step of the turn machine does to the event stream and to its listener. -/
def deliverAll (env : MediaEnv) (outputs : List (TurnOutput Sample))
    (target : EventStream (MediaStream Byte) × MediaStream Byte) :
    EventStream (MediaStream Byte) × MediaStream Byte :=
  outputs.foldl (EventStream.deliver env) target

/-- One step of the session: of the turn machine, whose outputs go to the event stream and its
listener at once, or of the forwarding thread. -/
def gateStep (s : GateState Sample Rnn Byte) :
    GateAction Sample Byte → Option (GateState Sample Rnn Byte)
  | .turn action env =>
      if action.attached then
        (turnStep onnx config s.turn action).map fun turn =>
          let delivered := deliverAll env (emitted onnx config ⟨s.turn, action, turn⟩)
            (s.events, s.media)
          ⟨turn, delivered.1, delivered.2⟩
      else none
  | .forward frame env => some { s with media := s.media.forwardMediaStream env frame }

/-- A fresh session whose media stream is the one listener of its event stream: the wiring that
`Events` and `Media` arrive at, before the first chunk. -/
def gateMachine [Zero Sample] [Zero Rnn] (vadConfig : VadConfig) (t₀ t₁ : ℤ)
    (sessionId participantId : String) :
    Machine (GateState Sample Rnn Byte) (GateAction Sample Byte) where
  init :=
    { turn := (turnMachine onnx config vadConfig t₀ t₁).init
      events := (EventStream.create sessionId participantId).registerEventListener
        MediaStream.onVadTurnEvent
      media := .start sessionId participantId }
  step := gateStep onnx config

end Machine

/-! ### The law

It has two halves: the events alternate, and the gate is closed after a chunk that leaves the
pipeline idle.  A turn that is dropped in silence breaks the second at once, and the first with the
opening that follows. -/

/-- The openings (`true`) and closings (`false`) among the events queued. -/
def turnEvents (queue : List EngineEvent) : List Bool :=
  queue.filterMap fun e =>
    if e.type = "on_speech_started" then some true
    else if e.type = "on_user_turn_complete" then some false
    else none

/-- Strict alternation, starting with an opening. -/
def Alternating (events : List Bool) : Prop :=
  ∀ i : Fin events.length, events.get i = decide (i.val % 2 = 0)

instance (events : List Bool) : Decidable (Alternating events) :=
  inferInstanceAs (Decidable (∀ _, _))

def GateAction.isChunk {Sample Byte : Type*} : GateAction Sample Byte → Bool
  | .turn (.vadChunk _) _ => true
  | _ => false

/-- **The law.** The events queued so far alternate, starting with an opening, and a chunk after
which the pipeline is idle leaves the gate closed.  It is asked of every step that was taken, so of
every state of a run. -/
def BalanceLaw {Sample Rnn Byte : Type*}
    (t : Taken (GateState Sample Rnn Byte) (GateAction Sample Byte)) : Prop :=
  Alternating (turnEvents t.after.events.eventQueue) ∧
    (t.action.isChunk = true → t.after.turn.pipeline.currentState = .idle →
      t.after.media.gateOpen = false)

instance {Sample Rnn Byte : Type*}
    (t : Taken (GateState Sample Rnn Byte) (GateAction Sample Byte)) : Decidable (BalanceLaw t) :=
  inferInstanceAs (Decidable (_ ∧ _))

/-- An open turn that meets an idle VAD is ended as a turn: not short enough to be a
backchannel, with audio in its buffer, on which SmartTurn does not fail. -/
def ClosesTurn {Sample : Type*} (p : VadTurnPipeline Sample) (v : VadState)
    (env : ChunkEnv Sample) : Prop :=
  v = .idle → p.currentState ≠ .idle →
    (p.currentState = .speech → kMinUtteranceDurationMs ≤ p.spokenMs env) ∧
      p.turnBuffer.isEmpty = false ∧ 0 ≤ p.turnProbability env

/-- The condition on a step: a chunk on which the VAD answers closes an open turn as
a turn, or does not close it. -/
def ClosesTurns {Sample Rnn Byte : Type*} (onnx : OnnxSession Sample Rnn)
    (s : GateState Sample Rnn Byte) : GateAction Sample Byte → Prop
  | .turn (.vadChunk env) _ =>
      let answer := s.turn.vad.process onnx (s.turn.pipeline.vadAccumulator.take kChunkSize)
      0 ≤ answer.1 → ClosesTurn s.turn.pipeline answer.2.state env
  | _ => True

/-! ### Alternation

A word alternates if its last letter and the next one differ, as soon as what was there alternated
before. -/

theorem alternating_concat {events : List Bool} (alternating : Alternating events) (e : Bool) :
    Alternating (events ++ [e]) ↔ e = decide (events.length % 2 = 0) := by
  constructor
  · intro extended
    have last := extended ⟨events.length, by simp⟩
    simpa using last
  · rintro rfl ⟨i, hi⟩
    rw [List.length_append, List.length_singleton] at hi
    rcases Nat.lt_succ_iff_lt_or_eq.mp hi with lt | rfl
    · simpa [List.getElem_append_left lt] using alternating ⟨i, lt⟩
    · simp

/-! ### What reaches the gate

Of the outputs of a chunk only openings and closings matter, and a chunk has one of these at most.
`marked_reaction` says which one, by the reaction of the pipeline. -/

section Marks

variable {Sample Byte : Type*}

/-- The openings and closings among the outputs of a chunk. -/
def marks (outputs : List (TurnOutput Sample)) : List Bool :=
  outputs.filterMap fun
    | .speechStarted _ => some true
    | .userTurnComplete .. => some false
    | _ => none

/-- **What the listener makes of a chunk's outputs**: the queue gains their
openings and closings, and the gate follows the last of them. -/
theorem deliverAll_spec (env : MediaEnv) (outputs : List (TurnOutput Sample))
    {events : EventStream (MediaStream Byte)} (media : MediaStream Byte)
    (wired : events.eventListeners = [MediaStream.onVadTurnEvent]) :
    let delivered := deliverAll env outputs (events, media)
    delivered.1.eventListeners = [MediaStream.onVadTurnEvent] ∧
      turnEvents delivered.1.eventQueue = turnEvents events.eventQueue ++ marks outputs ∧
      delivered.2.gateOpen = (marks outputs).getLast?.getD media.gateOpen := by
  induction outputs generalizing events media with
  | nil => exact ⟨wired, by simp [deliverAll, marks], rfl⟩
  | cons output rest ih =>
      intro delivered
      -- one output: the queue and the gate it leaves to the rest
      have one : ∃ events' media', EventStream.deliver env (events, media) output =
            (events', media') ∧ events'.eventListeners = [MediaStream.onVadTurnEvent] ∧
          turnEvents events'.eventQueue = turnEvents events.eventQueue ++ marks [output] ∧
          media'.gateOpen = (marks [output]).getLast?.getD media.gateOpen := by
        refine ⟨_, _, rfl, ?_⟩
        cases output <;>
          simp [EventStream.sendOnSpeechStartedEvent, EventStream.sendOnSpeechEndedEvent,
            EventStream.sendOnUserTurnCompleteEvent, EventStream.queueEvent, EventStream.event,
            EventStream.notifyListeners, wired, MediaStream.onVadTurnEvent, turnEvents, marks]
      obtain ⟨events', media', hone, wired', queue', gate'⟩ := one
      obtain ⟨hwired, hqueue, hgate⟩ := ih media' wired'
      have hdelivered : delivered = deliverAll env rest (events', media') := by
        show (output :: rest).foldl _ _ = _
        rw [List.foldl_cons, hone]
        rfl
      have hmarks : marks (output :: rest) = marks [output] ++ marks rest := by
        rw [marks, marks, marks, ← List.filterMap_append, List.singleton_append]
      rw [hdelivered, hmarks]
      refine ⟨hwired, by rw [hqueue, queue', List.append_assoc], ?_⟩
      rw [hgate, gate', List.getLast?_append]
      cases (marks rest).getLast? <;> rfl

/-- A detection marks at most the end of a turn, and does so exactly when it ends
one as a turn. -/
theorem marks_detection {config : TurnDetectorConfig} {p q : VadTurnPipeline Sample}
    {env : ChunkEnv Sample} {outputs : List (TurnOutput Sample)}
    (attached : env.streamAtTurn = true) (silence : p.currentState = .silence)
    (detected : Detection config p env q outputs) :
    marks outputs = [] ∧ q.currentState = .silence ∧
        p.turnBuffer.isEmpty = false ∧ 0 ≤ p.turnProbability env ∨
      marks outputs = [false] ∧ q.currentState = .idle ∧
        p.turnBuffer.isEmpty = false ∧ 0 ≤ p.turnProbability env ∨
      marks outputs = [] ∧ q.currentState = .idle ∧
        ¬ (p.turnBuffer.isEmpty = false ∧ 0 ≤ p.turnProbability env) := by
  cases detected with
  | empty empty => exact .inr (.inr ⟨rfl, rfl, by simp [empty]⟩)
  | failed _ failed => exact .inr (.inr ⟨rfl, rfl, fun ok => absurd failed (not_lt.mpr ok.2)⟩)
  | complete nonempty ok => exact .inr (.inl ⟨by simp [marks, attached], rfl, nonempty, ok⟩)
  | waiting nonempty ok => exact .inl ⟨rfl, silence, nonempty, ok⟩

/-- What a chunk marks on its way from a pipeline state to another: nothing while
the turn stays as it is, an opening, a closing, or nothing although it drops an
open turn. -/
inductive Marked (closes : Prop) (before after : VadState) : List Bool → Prop
  | kept (same : after = .idle ↔ before = .idle) (ok : closes) : Marked closes before after []
  | opened (idle : before = .idle) (busy : after ≠ .idle) (ok : closes) :
      Marked closes before after [true]
  | closed (busy : before ≠ .idle) (idle : after = .idle) (ok : closes) :
      Marked closes before after [false]
  | dropped (busy : before ≠ .idle) (idle : after = .idle) (bad : ¬ closes) :
      Marked closes before after []

theorem marked_reaction {config : TurnDetectorConfig} {p q : VadTurnPipeline Sample}
    {env : ChunkEnv Sample} {v : VadState} {outputs : List (TurnOutput Sample)}
    (attached : env.hasEventStream = true) (reacted : Reaction config p env v q outputs) :
    Marked (ClosesTurn p v env) p.currentState q.currentState (marks outputs) := by
  obtain ⟨atSpeech, atTurn⟩ := ChunkEnv.hasEventStream_eq_true.mp attached
  cases reacted with
  | quiet idle => exact .kept Iff.rfl fun _ busy => absurd idle busy
  | started idle =>
      rw [atSpeech, send_true]
      exact .opened idle (by simp) fun _ busy => absurd idle busy
  | mirrored opened busy =>
      exact .kept (by simp [opened, busy]) fun idle => absurd idle busy
  | backchannel speech short =>
      refine .dropped (by simp [speech]) rfl fun closes => ?_
      have long := (closes rfl (by simp [speech])).1 speech
      exact absurd short (not_lt.mpr long)
  | @ended q outputs speech long detected =>
      have unmarked : marks (.speechEnded env.clock.speechEndedMs :: outputs) = marks outputs := rfl
      rw [atSpeech, send_true, List.singleton_append, unmarked]
      have busy : p.currentState ≠ .idle := by simp [speech]
      rcases marks_detection atTurn rfl detected with
        ⟨none, silence, ok⟩ | ⟨closing, idle, ok⟩ | ⟨none, idle, bad⟩
      · rw [none]
        exact .kept (by simp [silence, speech]) fun _ _ => ⟨fun _ => long, ok⟩
      · rw [closing]
        exact .closed busy idle fun _ _ => ⟨fun _ => long, ok⟩
      · rw [none]
        exact .dropped busy idle fun closes => bad (closes rfl busy).2
  | paused silence detected =>
      have busy : p.currentState ≠ .idle := by simp [silence]
      have unspoken : p.currentState = .speech → kMinUtteranceDurationMs ≤ p.spokenMs env := by
        simp [silence]
      rcases marks_detection atTurn silence detected with
        ⟨none, after, ok⟩ | ⟨closing, idle, ok⟩ | ⟨none, idle, bad⟩
      · rw [none]
        exact .kept (by simp [after, silence]) fun _ _ => ⟨unspoken, ok⟩
      · rw [closing]
        exact .closed busy idle fun _ _ => ⟨unspoken, ok⟩
      · rw [none]
        exact .dropped busy idle fun closes => bad (closes rfl busy).2

end Marks

/-! ### The invariant

The last event, the gate and the state of the pipeline say the same.  A chunk that drops an open
turn in silence changes the state of the pipeline and not the other two, so it is not lawful, and
no other kind of chunk is not. -/

section Invariant

variable {Sample Rnn Byte : Type*} {onnx : OnnxSession Sample Rnn} {config : TurnDetectorConfig}

/-- The gate is open exactly while the pipeline has a turn, and the last event queued says so.  The
listener stays registered, as nothing in this machine removes it. -/
structure GateAgrees (s : GateState Sample Rnn Byte) : Prop where
  wired : s.events.eventListeners = [MediaStream.onVadTurnEvent]
  alternating : Alternating (turnEvents s.events.eventQueue)
  gate_eq : s.media.gateOpen = decide ((turnEvents s.events.eventQueue).length % 2 = 1)
  idle_iff : s.turn.pipeline.currentState = .idle ↔ s.media.gateOpen = false

theorem gateAgrees_init [Zero Sample] [Zero Rnn] (vadConfig : VadConfig) (t₀ t₁ : ℤ)
    (sessionId participantId : String) :
    GateAgrees (gateMachine onnx config vadConfig t₀ t₁ sessionId participantId :
      Machine (GateState Sample Rnn Byte) (GateAction Sample Byte)).init where
  wired := rfl
  alternating := fun i => i.elim0
  gate_eq := rfl
  idle_iff := ⟨fun _ => rfl, fun _ => rfl⟩

/-- **What the marks decide**: a chunk is lawful exactly when it closes no turn
otherwise than as a turn, and then the gate still agrees. -/
theorem GateAgrees.deliver {s : GateState Sample Rnn Byte} (inv : GateAgrees s)
    (turn : TurnState Sample Rnn) (menv : MediaEnv) (outputs : List (TurnOutput Sample))
    {closes : Prop}
    (marked : Marked closes s.turn.pipeline.currentState turn.pipeline.currentState
      (marks outputs)) :
    let delivered := deliverAll menv outputs (s.events, s.media)
    ((Alternating (turnEvents delivered.1.eventQueue) ∧
        (turn.pipeline.currentState = .idle → delivered.2.gateOpen = false)) ↔ closes) ∧
      (closes → GateAgrees ⟨turn, delivered.1, delivered.2⟩) := by
  intro delivered
  obtain ⟨wired, queue, gate⟩ := deliverAll_spec menv outputs s.media inv.wired
  change delivered.1.eventListeners = _ at wired
  change turnEvents delivered.1.eventQueue = _ at queue
  change delivered.2.gateOpen = _ at gate
  have gate_eq := inv.gate_eq
  suffices h : (Alternating (turnEvents delivered.1.eventQueue) ∧
        (turn.pipeline.currentState = .idle → delivered.2.gateOpen = false) ↔ closes) ∧
      (closes → Alternating (turnEvents delivered.1.eventQueue) ∧
        delivered.2.gateOpen =
          decide ((turnEvents delivered.1.eventQueue).length % 2 = 1) ∧
        (turn.pipeline.currentState = .idle ↔ delivered.2.gateOpen = false)) from
    ⟨h.1, fun ok => ⟨wired, (h.2 ok).1, (h.2 ok).2.1, (h.2 ok).2.2⟩⟩
  generalize marks outputs = new at marked queue gate
  rw [queue, gate]
  cases marked with
  | kept same ok =>
      rw [List.append_nil]
      have idle_iff := same.trans inv.idle_iff
      exact ⟨⟨fun _ => ok, fun _ => ⟨inv.alternating, idle_iff.mp⟩⟩,
        fun _ => ⟨inv.alternating, gate_eq, idle_iff⟩⟩
  | opened idle busy ok =>
      have even : (turnEvents s.events.eventQueue).length % 2 = 0 := by
        have closed := inv.idle_iff.mp idle
        rw [gate_eq] at closed
        simpa using closed
      have alternates := (alternating_concat inv.alternating true).mpr (by simp [even])
      refine ⟨⟨fun _ => ok, fun _ => ⟨alternates, fun idle => absurd idle busy⟩⟩,
        fun _ => ⟨alternates, ?_, by simp [busy]⟩⟩
      have odd : ((turnEvents s.events.eventQueue).length + 1) % 2 = 1 := by omega
      simp [odd]
  | closed busy idle ok =>
      have odd : (turnEvents s.events.eventQueue).length % 2 = 1 := by
        have opened := mt inv.idle_iff.mpr busy
        rw [gate_eq] at opened
        simpa using opened
      have alternates := (alternating_concat inv.alternating false).mpr (by simp [odd])
      refine ⟨⟨fun _ => ok, fun _ => ⟨alternates, fun _ => rfl⟩⟩,
        fun _ => ⟨alternates, ?_, by simp [idle]⟩⟩
      have even : ((turnEvents s.events.eventQueue).length + 1) % 2 = 0 := by omega
      simp [even]
  | dropped busy idle bad =>
      refine ⟨⟨fun law => ?_, fun ok => absurd ok bad⟩, fun ok => absurd ok bad⟩
      exact absurd (inv.idle_iff.mpr (law.2 idle)) busy

/-- **One step**: it is lawful exactly when it closes no turn otherwise than as a
turn, and then the gate still agrees. -/
theorem GateAgrees.step {s t : GateState Sample Rnn Byte} {a : GateAction Sample Byte}
    (inv : GateAgrees s) (step : gateStep onnx config s a = some t) :
    (BalanceLaw ⟨s, a, t⟩ ↔ ClosesTurns onnx s a) ∧ (ClosesTurns onnx s a → GateAgrees t) := by
  cases a with
  | forward frame env =>
      cases step
      have gate := MediaStream.forwardMediaStream_gateOpen env frame s.media
      refine ⟨⟨fun _ => trivial, fun _ => ⟨inv.alternating, fun chunk => by cases chunk⟩⟩,
        fun _ => ⟨inv.wired, inv.alternating, gate.trans inv.gate_eq, ?_⟩⟩
      rw [gate]
      exact inv.idle_iff
  | turn action env =>
      simp only [gateStep] at step
      split_ifs at step with attached
      obtain ⟨turn, hturn, rfl⟩ := Option.map_eq_some_iff.mp step
      cases action with
      | audio xs =>
          cases hturn
          exact ⟨⟨fun _ => trivial, fun _ => ⟨inv.alternating, fun chunk => by cases chunk⟩⟩,
            fun _ => ⟨inv.wired, inv.alternating, inv.gate_eq, inv.idle_iff⟩⟩
      | foreign chunk =>
          cases hturn
          exact ⟨⟨fun _ => trivial, fun _ => ⟨inv.alternating, fun chunk => by cases chunk⟩⟩,
            fun _ => ⟨inv.wired, inv.alternating, inv.gate_eq, inv.idle_iff⟩⟩
      | vadChunk cenv =>
          obtain ⟨-, rfl⟩ := turnStep_vadChunk.mp hturn
          have processed := s.turn.processChunk_eq onnx config cenv
          have marked : Marked (ClosesTurns onnx s (.turn (.vadChunk cenv) env))
              s.turn.pipeline.currentState
              (s.turn.processChunk onnx config cenv).1.pipeline.currentState
              (marks (s.turn.processChunk onnx config cenv).2) := by
            rw [processed]
            split_ifs with failed
            · exact .kept Iff.rfl fun ok => absurd failed (not_lt.mpr ok)
            · have answered : ClosesTurns onnx s (.turn (.vadChunk cenv) env) ↔ _ :=
                forall_prop_of_true (not_lt.mp failed)
              rw [answered]
              set p : VadTurnPipeline Sample :=
                { s.turn.pipeline with
                  vadAccumulator := s.turn.pipeline.vadAccumulator.drop kChunkSize }
              exact marked_reaction (p := p) attached (reaction config p _ cenv)
          obtain ⟨law, agrees⟩ := inv.deliver _ env _ marked
          exact ⟨⟨fun lawful => law.mp ⟨lawful.1, lawful.2 rfl⟩,
            fun ok => ⟨(law.mpr ok).1, fun _ => (law.mpr ok).2⟩⟩, agrees⟩

end Invariant

/-- **When openings and closings balance**: exactly in the runs whose chunks close
an open turn only as a turn.  A turn dropped as a backchannel, on an empty buffer
or on a failed SmartTurn leaves the gate open. -/
theorem balanced_iff {Sample Rnn Byte : Type*} [Zero Sample] [Zero Rnn]
    (onnx : OnnxSession Sample Rnn) (config : TurnDetectorConfig) (vadConfig : VadConfig)
    (t₀ t₁ : ℤ) (sessionId participantId : String) (actions : List (GateAction Sample Byte)) :
    let M := gateMachine onnx config vadConfig t₀ t₁ sessionId participantId
    (∀ t ∈ M.transitions M.init actions, BalanceLaw t) ↔
      M.Meets (ClosesTurns onnx) M.init actions := by
  intro M
  refine M.forall_transitions_iff (motive := GateAgrees) ?_ ?_
    (gateAgrees_init vadConfig t₀ t₁ sessionId participantId) actions
  · intro s a t inv step
    exact (inv.step step).1
  · intro s a t inv closes step
    exact (inv.step step).2 closes

/-- A model that hears speech in its first two chunks and silence afterwards. -/
def twoChunks : OnnxSession ℤ ℕ := fun _ n => some (if n < 2 then 1 else 0, n + 1)

/-- With the default configuration: two loud chunks, ten quiet ones, and a SmartTurn
that fails.  The turn is dropped and the gate stays open on an idle pipeline. -/
theorem gate_left_open :
    let M : Machine (GateState ℤ ℕ ℕ) _ := gateMachine twoChunks {} {} 0 0 "s" "p"
    let env : ChunkEnv ℤ := ⟨⟨0, 0, 0, 0, 0, 0, 0, 0, 0⟩, fun _ => none, true, true⟩
    let actions := .turn (.audio (List.replicate (12 * 512) 0)) ⟨"c", true, 0⟩ ::
      List.replicate 12 (.turn (.vadChunk env) ⟨"c", true, 0⟩)
    (M.run M.init actions).isSome ∧ ¬ ∀ t ∈ M.transitions M.init actions, BalanceLaw t := by
  decide +kernel

end Saasy.ListeningEngine
