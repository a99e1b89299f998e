import Mathlib.Data.Rat.Floor
import SaasyMediaEngine.Listening.SileroVad
import SaasyMediaEngine.Listening.AudioTurnBuffer

/-!
# The turn pipeline of one session

`listening-engine/src/vad_turn/vad_turn_pipeline.cpp`.  `processAudio` resamples,
buffers and cuts the audio into 512-sample chunks; `processVadChunk` runs the VAD
on a chunk and moves the pipeline's own copy of the speech state, which is what
decides the events.

Everything a call reads from outside is one argument, `ChunkEnv`: each
`steady_clock::now()` of the source has its own reading there, named after the
variable it ends up in, and so has each timestamp of an event; next to them stand
the SmartTurn inference and what `GetEventStream` gives.  That is asked again for
each event, and a chunk may report two: the end of the speech before SmartTurn has
run, and the turn it completes after.  The stream may have been attached in
between, as `Events` runs in another thread.  What a call does to the outside is
the list of `TurnOutput`s it returns, in program order.

Times are nanoseconds; `0.2f`, `0.5f` and the interpolation are exact.
-/

namespace Saasy.ListeningEngine

/-- `kMinUtteranceDurationMs`: shorter utterances are backchannels. -/
def kMinUtteranceDurationMs : ℤ := 400

/-- `kSilenceTimeoutBaseMs`. -/
def kSilenceTimeoutBaseMs : ℤ := 1000

/-- `kSilenceTimeoutExtendedMs`. -/
def kSilenceTimeoutExtendedMs : ℤ := 3000

/-- `duration_cast<milliseconds>` of a nanosecond difference. -/
def durationMs (nanoseconds : ℤ) : ℤ := nanoseconds.tdiv 1000000

/-- The silence timeout for a SmartTurn probability: extended while the user is
likely mid-sentence, linear in between, and the base value from one half on. -/
def silenceTimeoutMs (turnProbability : ℚ) : ℤ :=
  if turnProbability < 1 / 5 then kSilenceTimeoutExtendedMs
  else if turnProbability < 1 / 2 then
    kSilenceTimeoutExtendedMs -
      ⌊(turnProbability - 1 / 5) / (3 / 10) *
        (kSilenceTimeoutExtendedMs - kSilenceTimeoutBaseMs)⌋
  else kSilenceTimeoutBaseMs

/-- The clock readings of one `ProcessVadChunk` call.  `called` and `returned`
bracket the call; the others are the `now()` calls of its branches, in program
order, and the last three are what `GetCurrentTimestampMs` gives the events. -/
structure ClockReadings where
  called : ℤ
  speechStart : ℤ
  silenceStart : ℤ
  speechDuration : ℤ
  silenceDuration : ℤ
  returned : ℤ
  speechStartedMs : ℕ
  speechEndedMs : ℕ
  turnCompleteMs : ℕ

/-- What one `ProcessVadChunk` call reads from outside the pipeline: the clock, the answer of
SmartTurn to any buffer, and whether there is an event stream, asked for twice. -/
structure ChunkEnv (Sample : Type*) where
  clock : ClockReadings
  infer : List Sample → Option ℚ
  /-- Whether there is an event stream for `speech_started` or `speech_ended`. -/
  streamAtSpeech : Bool
  /-- Whether there is one for `user_turn_complete`. -/
  streamAtTurn : Bool

/-- There is an event stream whenever the chunk looks for one. -/
def ChunkEnv.hasEventStream {Sample : Type*} (env : ChunkEnv Sample) : Bool :=
  env.streamAtSpeech && env.streamAtTurn

theorem ChunkEnv.hasEventStream_eq_true {Sample : Type*} {env : ChunkEnv Sample} :
    env.hasEventStream = true ↔ env.streamAtSpeech = true ∧ env.streamAtTurn = true :=
  Bool.and_eq_true_iff

/-- What one call does to the outside: the calls on the event stream and on the
SmartTurn detector, and the backchannel it reports on the log. -/
inductive TurnOutput (Sample : Type*)
  | speechStarted (timestampMs : ℕ)
  | speechEnded (timestampMs : ℕ)
  | userTurnComplete (confidence : ℚ) (timestampMs : ℕ)
  | smartTurn (audioBuffer : List Sample)
  | backchannel (speechDurationMs : ℤ)

/-- The pipeline's members, less the session pointer and the shared models.  It keeps the last VAD
state that it has seen, and reacts to the difference. -/
structure VadTurnPipeline (Sample : Type*) where
  currentState : VadState
  speechStartTime : ℤ
  silenceStartTime : ℤ
  turnBuffer : AudioTurnBuffer Sample
  vadAccumulator : List Sample
  running : Bool

namespace VadTurnPipeline

variable {Sample Rnn : Type*}

/-- The constructor followed by `Start`, with `Start`'s two clock readings. -/
def start (silenceStart speechStart : ℤ) : VadTurnPipeline Sample where
  currentState := .idle
  speechStartTime := speechStart
  silenceStartTime := silenceStart
  turnBuffer := .create
  vadAccumulator := []
  running := true

/-- `VadTurnPipeline::Stop`. -/
def stop (p : VadTurnPipeline Sample) : VadTurnPipeline Sample := { p with running := false }

/-- A call on the event stream, which does nothing without one. -/
def send (hasEventStream : Bool) (output : TurnOutput Sample) : List (TurnOutput Sample) :=
  if hasEventStream then [output] else []

@[simp] theorem send_true (output : TurnOutput Sample) : send true output = [output] := rfl

@[simp] theorem send_false (output : TurnOutput Sample) : send false output = [] := rfl

/-- `VadTurnPipeline::HandleSpeechDetected`.  On an idle pipeline the turn buffer is cleared, with
the chunk in it that was just heard. -/
def handleSpeechDetected (p : VadTurnPipeline Sample) (env : ChunkEnv Sample) :
    VadTurnPipeline Sample × List (TurnOutput Sample) :=
  let p :=
    -- only on a fresh turn, not when resuming
    if p.currentState = .idle then
      { p with turnBuffer := p.turnBuffer.clear, speechStartTime := env.clock.speechStart }
    else p
  ({ p with currentState := .speech },
    send env.streamAtSpeech (.speechStarted env.clock.speechStartedMs))

/-- `VadTurnPipeline::TriggerSmartTurnDetection`.  An empty buffer and a failure end the turn in
silence; otherwise it is complete if SmartTurn says so or the timeout is over, and goes on if not.
-/
def triggerSmartTurnDetection (config : TurnDetectorConfig) (p : VadTurnPipeline Sample)
    (env : ChunkEnv Sample) : VadTurnPipeline Sample × List (TurnOutput Sample) :=
  if p.turnBuffer.isEmpty then ({ p with currentState := .idle }, [])
  else
    let analysis := .smartTurn p.turnBuffer.buffer
    let turnProbability := SmartTurnDetector.process env.infer p.turnBuffer.buffer
    if turnProbability < 0 then ({ p with currentState := .idle }, [analysis])
    else
      let timeoutMs := silenceTimeoutMs turnProbability
      let silenceDurationMs := durationMs (env.clock.silenceDuration - p.silenceStartTime)
      if SmartTurnDetector.isTurnComplete config turnProbability ∨
          timeoutMs ≤ silenceDurationMs then
        ({ p with turnBuffer := p.turnBuffer.clear, currentState := .idle },
          analysis ::
            send env.streamAtTurn (.userTurnComplete turnProbability env.clock.turnCompleteMs))
      else (p, [analysis])

/-- `VadTurnPipeline::HandleSilenceDetected`.  Timer, filter and report are in the branch of
`speech`; a pipeline that mirrors a pause only asks SmartTurn. -/
def handleSilenceDetected (config : TurnDetectorConfig) (p : VadTurnPipeline Sample)
    (env : ChunkEnv Sample) : VadTurnPipeline Sample × List (TurnOutput Sample) :=
  if p.currentState = .speech then
    let p := { p with silenceStartTime := env.clock.silenceStart }
    let speechDurationMs := durationMs (env.clock.speechDuration - p.speechStartTime)
    if speechDurationMs < kMinUtteranceDurationMs then
      ({ p with currentState := .idle, turnBuffer := p.turnBuffer.clear },
        [.backchannel speechDurationMs])
    else
      let (p, outputs) := triggerSmartTurnDetection config { p with currentState := .silence } env
      (p, send env.streamAtSpeech (.speechEnded env.clock.speechEndedMs) ++ outputs)
  else triggerSmartTurnDetection config { p with currentState := .silence } env

/-- The part of `ProcessVadChunk` after `GetState`: the transitions on the VAD
state just observed, then the mirroring of a brief silence. -/
def observe (config : TurnDetectorConfig) (p : VadTurnPipeline Sample) (vadState : VadState)
    (env : ChunkEnv Sample) : VadTurnPipeline Sample × List (TurnOutput Sample) :=
  let (p, outputs) :=
    if p.currentState = .idle ∧ vadState = .speech then handleSpeechDetected p env
    else if (p.currentState = .speech ∨ p.currentState = .silence) ∧ vadState = .idle then
      handleSilenceDetected config p env
    else if p.currentState = .silence ∧ vadState = .speech then
      ({ p with currentState := .speech }, [])
    else (p, [])
  if vadState = .silence ∧ p.currentState = .speech then
    ({ p with currentState := .silence }, outputs)
  else (p, outputs)

/-- `VadTurnPipeline::ProcessVadChunk`: a chunk the VAD could not process leaves
the pipeline alone. -/
def processVadChunk (onnx : OnnxSession Sample Rnn) (config : TurnDetectorConfig)
    (vad : SileroVad Sample Rnn) (p : VadTurnPipeline Sample) (chunk : List Sample)
    (env : ChunkEnv Sample) :
    SileroVad Sample Rnn × VadTurnPipeline Sample × List (TurnOutput Sample) :=
  let (probability, vad) := vad.process onnx chunk
  if probability < 0 then (vad, p, [])
  else (vad, p.observe config vad.state env)

/-! ### What a chunk can do

`Detection` lists the four ends of `triggerSmartTurnDetection`, `Reaction` the
six things `observe` can do on a VAD state.  Later proofs about the pipeline
split on these and never on the definitions. -/

/-- What SmartTurn answers on the buffered turn. -/
def turnProbability (p : VadTurnPipeline Sample) (env : ChunkEnv Sample) : ℚ :=
  SmartTurnDetector.process env.infer p.turnBuffer.buffer

/-- A turn is decided: SmartTurn is sure, or the silence has lasted as long as
the timeout for its probability. -/
def TurnDecided (config : TurnDetectorConfig) (p : VadTurnPipeline Sample)
    (env : ChunkEnv Sample) : Prop :=
  SmartTurnDetector.isTurnComplete config (p.turnProbability env) = true ∨
    silenceTimeoutMs (p.turnProbability env) ≤
      durationMs (env.clock.silenceDuration - p.silenceStartTime)

inductive Detection (config : TurnDetectorConfig) (p : VadTurnPipeline Sample)
    (env : ChunkEnv Sample) : VadTurnPipeline Sample → List (TurnOutput Sample) → Prop
  | empty (empty : p.turnBuffer.isEmpty = true) :
      Detection config p env { p with currentState := .idle } []
  | failed (nonempty : p.turnBuffer.isEmpty = false) (failed : p.turnProbability env < 0) :
      Detection config p env { p with currentState := .idle } [.smartTurn p.turnBuffer.buffer]
  | complete (nonempty : p.turnBuffer.isEmpty = false) (ok : 0 ≤ p.turnProbability env)
      (decided : TurnDecided config p env) :
      Detection config p env
        { p with turnBuffer := p.turnBuffer.clear, currentState := .idle }
        (.smartTurn p.turnBuffer.buffer ::
          send env.streamAtTurn
            (.userTurnComplete (p.turnProbability env) env.clock.turnCompleteMs))
  | waiting (nonempty : p.turnBuffer.isEmpty = false) (ok : 0 ≤ p.turnProbability env)
      (undecided : ¬ TurnDecided config p env) :
      Detection config p env p [.smartTurn p.turnBuffer.buffer]

theorem detection (config : TurnDetectorConfig) (p : VadTurnPipeline Sample)
    (env : ChunkEnv Sample) :
    Detection config p env (triggerSmartTurnDetection config p env).1
      (triggerSmartTurnDetection config p env).2 := by
  unfold triggerSmartTurnDetection
  split_ifs with empty
  · exact .empty empty
  · have nonempty : p.turnBuffer.isEmpty = false := by simpa using empty
    dsimp only
    split_ifs with failed decided
    · exact .failed nonempty failed
    · exact .complete nonempty (not_lt.mp failed) decided
    · exact .waiting nonempty (not_lt.mp failed) decided

/-- A detection over audio that is answered and decided closes the turn. -/
theorem Detection.complete_of_decided {config : TurnDetectorConfig} {p q : VadTurnPipeline Sample}
    {env : ChunkEnv Sample} {outputs : List (TurnOutput Sample)}
    (detected : Detection config p env q outputs) (nonempty : p.turnBuffer.isEmpty = false)
    (ok : 0 ≤ p.turnProbability env) (decided : TurnDecided config p env) :
    outputs = .smartTurn p.turnBuffer.buffer ::
      send env.streamAtTurn
        (.userTurnComplete (p.turnProbability env) env.clock.turnCompleteMs) := by
  cases detected with
  | empty empty => simp [nonempty] at empty
  | failed _ failed => exact absurd failed (not_lt.mpr ok)
  | complete => rfl
  | waiting _ _ undecided => exact absurd decided undecided

/-- How long the user has spoken, as `handleSilenceDetected` measures it. -/
def spokenMs (p : VadTurnPipeline Sample) (env : ChunkEnv Sample) : ℤ :=
  durationMs (env.clock.speechDuration - p.speechStartTime)

inductive Reaction (config : TurnDetectorConfig) (p : VadTurnPipeline Sample)
    (env : ChunkEnv Sample) :
    VadState → VadTurnPipeline Sample → List (TurnOutput Sample) → Prop
  | quiet {v : VadState} (idle : p.currentState = .idle) (silent : v ≠ .speech) :
      Reaction config p env v p []
  | started (idle : p.currentState = .idle) :
      Reaction config p env .speech
        { p with
          turnBuffer := p.turnBuffer.clear
          speechStartTime := env.clock.speechStart
          currentState := .speech }
        (send env.streamAtSpeech (.speechStarted env.clock.speechStartedMs))
  | mirrored {v : VadState} (opened : p.currentState ≠ .idle) (busy : v ≠ .idle) :
      Reaction config p env v { p with currentState := v } []
  | backchannel (speech : p.currentState = .speech)
      (short : p.spokenMs env < kMinUtteranceDurationMs) :
      Reaction config p env .idle
        { p with
          silenceStartTime := env.clock.silenceStart
          currentState := .idle
          turnBuffer := p.turnBuffer.clear }
        [.backchannel (p.spokenMs env)]
  | ended {q : VadTurnPipeline Sample} {outputs : List (TurnOutput Sample)}
      (speech : p.currentState = .speech)
      (long : kMinUtteranceDurationMs ≤ p.spokenMs env)
      (detected : Detection config
        { p with silenceStartTime := env.clock.silenceStart, currentState := .silence }
        env q outputs) :
      Reaction config p env .idle q
        (send env.streamAtSpeech (.speechEnded env.clock.speechEndedMs) ++ outputs)
  | paused {q : VadTurnPipeline Sample} {outputs : List (TurnOutput Sample)}
      (silence : p.currentState = .silence) (detected : Detection config p env q outputs) :
      Reaction config p env .idle q outputs

theorem reaction_of_open_idle {config : TurnDetectorConfig} {p : VadTurnPipeline Sample}
    {env : ChunkEnv Sample} (opened : p.currentState ≠ .idle) :
    Reaction config p env .idle (p.handleSilenceDetected config env).1
      (p.handleSilenceDetected config env).2 := by
  unfold handleSilenceDetected
  split_ifs with speech
  · dsimp only
    split_ifs with short
    · exact .backchannel speech short
    · exact .ended speech (not_lt.mp short) (detection config _ env)
  · have silence : p.currentState = .silence := by
      cases h : p.currentState <;> simp_all
    have same : { p with currentState := .silence } = p := by rw [← silence]
    rw [same]
    exact .paused silence (detection config p env)

/-- **What `observe` can do.**  The final mirroring only ever completes the
`mirrored` case: no handler leaves a `speech` state on a silent VAD. -/
theorem reaction (config : TurnDetectorConfig) (p : VadTurnPipeline Sample) (v : VadState)
    (env : ChunkEnv Sample) :
    Reaction config p env v (p.observe config v env).1 (p.observe config v env).2 := by
  by_cases idle : p.currentState = .idle
  · cases v with
    | speech =>
        have h : p.observe config .speech env = p.handleSpeechDetected env := by
          simp [observe, idle]
        rw [h]
        have started : Reaction config p env .speech _ _ := .started idle
        simpa [handleSpeechDetected, idle] using started
    | idle =>
        have h : p.observe config .idle env = (p, []) := by simp [observe, idle]
        rw [h]
        exact .quiet idle (by decide)
    | silence =>
        have h : p.observe config .silence env = (p, []) := by simp [observe, idle]
        rw [h]
        exact .quiet idle (by decide)
  · by_cases silent : v = .idle
    · subst silent
      have some : p.currentState = .speech ∨ p.currentState = .silence := by
        cases h : p.currentState <;> simp_all
      have h : p.observe config .idle env = p.handleSilenceDetected config env := by
        simp [observe, idle, some]
      rw [h]
      exact reaction_of_open_idle idle
    · have h : p.observe config v env = ({ p with currentState := v }, []) := by
        obtain ⟨state, speechStart, silenceStart, buffer, accumulator, running⟩ := p
        cases v <;> cases state <;> first | contradiction | simp [observe]
      rw [h]
      exact .mirrored idle silent

/-- A detection ends in `idle`, or leaves the state as it was. -/
theorem Detection.currentState {config : TurnDetectorConfig} {p q : VadTurnPipeline Sample}
    {env : ChunkEnv Sample} {outputs : List (TurnOutput Sample)}
    (detected : Detection config p env q outputs) :
    q.currentState = .idle ∨ q.currentState = p.currentState := by
  cases detected with
  | waiting => exact .inr rfl
  | _ => exact .inl rfl

/-- While the VAD hears speech the pipeline is in `speech`. -/
theorem Reaction.currentState_of_speech {config : TurnDetectorConfig}
    {p q : VadTurnPipeline Sample} {env : ChunkEnv Sample} {v : VadState}
    {outputs : List (TurnOutput Sample)} (reacted : Reaction config p env v q outputs)
    (speech : v = .speech) : q.currentState = .speech := by
  cases reacted with
  | quiet idle silent => exact absurd speech silent
  | started => rfl
  | mirrored => exact speech
  | _ => cases speech

/-- A silent VAD never leaves the pipeline in `speech`. -/
theorem Reaction.currentState_of_idle {config : TurnDetectorConfig}
    {p q : VadTurnPipeline Sample} {env : ChunkEnv Sample} {v : VadState}
    {outputs : List (TurnOutput Sample)} (reacted : Reaction config p env v q outputs)
    (silent : v = .idle) : q.currentState ≠ .speech := by
  cases reacted with
  | quiet idle => simp [idle]
  | started => cases silent
  | mirrored _ busy => exact absurd silent busy
  | backchannel => simp
  | ended speech long detected =>
      rcases detected.currentState with h | h <;> simp [h]
  | paused silence detected =>
      rcases detected.currentState with h | h <;> simp [h, silence]

end VadTurnPipeline

end Saasy.ListeningEngine
