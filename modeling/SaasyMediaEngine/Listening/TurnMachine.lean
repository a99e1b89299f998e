import SaasyMediaEngine.Transition.Machine
import SaasyMediaEngine.Listening.VadTurnPipeline

/-!
# Runs of a turn pipeline

`TurnState` is a pipeline next to the `SileroVad` it calls.  `turnMachine` takes
the loop of `VadTurnPipeline::ProcessAudio` apart into its steps, which is the
granularity of the properties of runs:

* `audio` — a resampled vector goes to the turn buffer and to the accumulator;
* `vadChunk` — the loop body: the first 512 samples of the accumulator go through
  `processVadChunk`;
* `foreign` — another session's pipeline runs a chunk through the same VAD.

`processAudio` is the source's loop, and `processAudio_eq_run` says that it is
one `audio` step followed by as many `vadChunk` steps as the accumulator allows.
Everything proved about the runs of the machine is therefore about sequences of
`ProcessAudio` calls, however the audio is cut into calls.

A step carries all that the code reads from outside while it is taken: the resampled samples, the
answer of SmartTurn, the readings of the clock and whether an event stream is attached, each where
the source looks at it.  So a step is a function of the state and the action, a run is a list of
actions, and nothing about the model or the clock is assumed here; the modules that need more, a
clock that does not go back or probabilities in `[0, 1]`, say so in their hypotheses.

`TurnState.processChunk` is one chunk of the pair, and `emitted` reads the calls that a step makes
off the states before it, which is what the laws of the later modules are stated about.
-/

namespace Saasy.ListeningEngine

open Transition

/-- A pipeline and the VAD it calls, which is not its own: other sessions may call it too. -/
structure TurnState (Sample Rnn : Type*) where
  vad : SileroVad Sample Rnn
  pipeline : VadTurnPipeline Sample

/-- One step of a run, with everything it reads from outside: the samples from the resampler, or
the readings and answers of one chunk.  A `foreign` step is a chunk of another session, of which
only the VAD hears. -/
inductive TurnAction (Sample : Type*)
  | audio (resampled : List Sample)
  | vadChunk (env : ChunkEnv Sample)
  | foreign (chunk : List Sample)

namespace VadTurnPipeline

variable {Sample Rnn : Type*}

/-! ### What a chunk leaves alone

The accumulator, to which `ProcessAudio` returns for the next chunk.  That the chunk leaves it
alone is what makes the loop a sequence of steps. -/

theorem triggerSmartTurnDetection_vadAccumulator (config : TurnDetectorConfig)
    (p : VadTurnPipeline Sample) (env : ChunkEnv Sample) :
    (triggerSmartTurnDetection config p env).1.vadAccumulator = p.vadAccumulator := by
  simp only [triggerSmartTurnDetection]
  split_ifs <;> rfl

theorem observe_vadAccumulator (config : TurnDetectorConfig) (p : VadTurnPipeline Sample)
    (vadState : VadState) (env : ChunkEnv Sample) :
    (p.observe config vadState env).1.vadAccumulator = p.vadAccumulator := by
  simp only [observe, handleSpeechDetected, handleSilenceDetected]
  split_ifs <;> simp [triggerSmartTurnDetection_vadAccumulator]

theorem processVadChunk_vadAccumulator (onnx : OnnxSession Sample Rnn)
    (config : TurnDetectorConfig) (vad : SileroVad Sample Rnn) (p : VadTurnPipeline Sample)
    (chunk : List Sample) (env : ChunkEnv Sample) :
    (processVadChunk onnx config vad p chunk env).2.1.vadAccumulator = p.vadAccumulator := by
  simp only [processVadChunk]
  split_ifs
  · rfl
  · exact observe_vadAccumulator config p _ env

end VadTurnPipeline

namespace TurnState

variable {Sample Rnn : Type*}

/-- Steps 2 and 3 of `ProcessAudio`, up to the loop. -/
def bufferAudio (s : TurnState Sample Rnn) (resampled : List Sample) : TurnState Sample Rnn :=
  { s with pipeline := { s.pipeline with
      turnBuffer := s.pipeline.turnBuffer.append resampled
      vadAccumulator := s.pipeline.vadAccumulator ++ resampled } }

/-- The body of `ProcessAudio`'s loop, on an accumulator of at least one chunk. -/
def processChunk (onnx : OnnxSession Sample Rnn) (config : TurnDetectorConfig)
    (s : TurnState Sample Rnn) (env : ChunkEnv Sample) :
    TurnState Sample Rnn × List (TurnOutput Sample) :=
  let accumulator := s.pipeline.vadAccumulator
  let (vad, pipeline, outputs) :=
    VadTurnPipeline.processVadChunk onnx config s.vad
      { s.pipeline with vadAccumulator := accumulator.drop kChunkSize }
      (accumulator.take kChunkSize) env
  (⟨vad, pipeline⟩, outputs)

/-- A chunk, with the VAD's answer spelled out. -/
theorem processChunk_eq (onnx : OnnxSession Sample Rnn) (config : TurnDetectorConfig)
    (s : TurnState Sample Rnn) (env : ChunkEnv Sample) :
    let answer := s.vad.process onnx (s.pipeline.vadAccumulator.take kChunkSize)
    let p := { s.pipeline with vadAccumulator := s.pipeline.vadAccumulator.drop kChunkSize }
    s.processChunk onnx config env =
      if answer.1 < 0 then (⟨answer.2, p⟩, [])
      else (⟨answer.2, (p.observe config answer.2.state env).1⟩,
        (p.observe config answer.2.state env).2) := by
  simp only [processChunk, VadTurnPipeline.processVadChunk]
  split_ifs <;> rfl

theorem processChunk_vadAccumulator (onnx : OnnxSession Sample Rnn)
    (config : TurnDetectorConfig) (s : TurnState Sample Rnn) (env : ChunkEnv Sample) :
    (s.processChunk onnx config env).1.pipeline.vadAccumulator =
      s.pipeline.vadAccumulator.drop kChunkSize :=
  VadTurnPipeline.processVadChunk_vadAccumulator ..

/-- The loop of `ProcessAudio`; the `i`-th chunk of the call reads `envs i`. -/
def processChunks (onnx : OnnxSession Sample Rnn) (config : TurnDetectorConfig)
    (s : TurnState Sample Rnn) (envs : ℕ → ChunkEnv Sample) :
    TurnState Sample Rnn × List (TurnOutput Sample) :=
  if kChunkSize ≤ s.pipeline.vadAccumulator.length then
    let rest := (s.processChunk onnx config (envs 0)).1.processChunks onnx config
      fun i => envs (i + 1)
    (rest.1, (s.processChunk onnx config (envs 0)).2 ++ rest.2)
  else (s, [])
termination_by s.pipeline.vadAccumulator.length
decreasing_by
  rw [processChunk_vadAccumulator, List.length_drop]
  simp only [kChunkSize] at *
  omega

end TurnState

/-- One `ProcessAudio` call: whether the pointer is null, the sample count, what
the resampler returns, and what each chunk of the call reads. -/
structure AudioCall (Sample : Type*) where
  audioPresent : Bool
  samples : ℕ
  resampled : Option (List Sample)
  envs : ℕ → ChunkEnv Sample

/-- `VadTurnPipeline::ProcessAudio`.  A call that does not get past its guards, or whose audio
cannot be resampled, leaves everything as it was. -/
def TurnState.processAudio {Sample Rnn : Type*} (onnx : OnnxSession Sample Rnn)
    (config : TurnDetectorConfig) (s : TurnState Sample Rnn) (call : AudioCall Sample) :
    TurnState Sample Rnn × List (TurnOutput Sample) :=
  if !s.pipeline.running || !call.audioPresent || call.samples = 0 then (s, [])
  else
    match call.resampled with
    | none => (s, [])
    | some resampled => (s.bufferAudio resampled).processChunks onnx config call.envs

section Machine

variable {Sample Rnn : Type*}
variable (onnx : OnnxSession Sample Rnn) (config : TurnDetectorConfig)

/-- One step; a `vadChunk` needs a whole chunk in the accumulator. -/
def turnStep (s : TurnState Sample Rnn) : TurnAction Sample → Option (TurnState Sample Rnn)
  | .audio resampled => some (s.bufferAudio resampled)
  | .vadChunk env =>
      if kChunkSize ≤ s.pipeline.vadAccumulator.length then
        some (s.processChunk onnx config env).1
      else none
  | .foreign chunk => some { s with vad := (s.vad.process onnx chunk).2 }

/-- The machine of a fresh VAD and a pipeline just started, `t₀` and `t₁` being the readings of
`Start`. -/
def turnMachine [Zero Sample] [Zero Rnn] (vadConfig : VadConfig)
    (silenceStart speechStart : ℤ) : Machine (TurnState Sample Rnn) (TurnAction Sample) where
  init := ⟨.create vadConfig, .start silenceStart speechStart⟩
  step := turnStep onnx config

/-- What a step does to the outside. -/
def emitted (t : Taken (TurnState Sample Rnn) (TurnAction Sample)) : List (TurnOutput Sample) :=
  match t.action with
  | .vadChunk env => (t.before.processChunk onnx config env).2
  | _ => []

/-- The actions of one `ProcessAudio` call whose accumulator ends up with
`chunks` whole chunks. -/
def AudioCall.actions (resampled : List Sample) (envs : ℕ → ChunkEnv Sample) (chunks : ℕ) :
    List (TurnAction Sample) :=
  .audio resampled :: (List.range chunks).map fun i => .vadChunk (envs i)

variable {onnx config}

theorem turnStep_vadChunk {s t : TurnState Sample Rnn} {env : ChunkEnv Sample} :
    turnStep onnx config s (.vadChunk env) = some t ↔
      kChunkSize ≤ s.pipeline.vadAccumulator.length ∧
        (s.processChunk onnx config env).1 = t := by
  simp [turnStep]

variable (onnx config) in
/-- The loop is `length / 512` steps of the machine, with the same outputs. -/
theorem processChunks_eq_run [Zero Sample] [Zero Rnn] (vadConfig : VadConfig) (t₀ t₁ : ℤ)
    (s : TurnState Sample Rnn) (envs : ℕ → ChunkEnv Sample) :
    let M := turnMachine onnx config vadConfig t₀ t₁
    let actions := (List.range (s.pipeline.vadAccumulator.length / kChunkSize)).map
      fun i => TurnAction.vadChunk (envs i)
    M.run s actions = some (s.processChunks onnx config envs).1 ∧
      (M.transitions s actions).flatMap (emitted onnx config) =
        (s.processChunks onnx config envs).2 := by
  intro M actions
  induction hn : s.pipeline.vadAccumulator.length / kChunkSize generalizing s envs with
  | zero =>
      have short : ¬ kChunkSize ≤ s.pipeline.vadAccumulator.length := by
        simp only [kChunkSize] at hn ⊢
        omega
      have hactions : actions = [] := by simp [actions, hn]
      rw [hactions, TurnState.processChunks, if_neg short]
      exact ⟨rfl, rfl⟩
  | succ n ih =>
      have long : kChunkSize ≤ s.pipeline.vadAccumulator.length := by
        simp only [kChunkSize] at hn ⊢
        omega
      have hrest : (s.processChunk onnx config (envs 0)).1.pipeline.vadAccumulator.length
          / kChunkSize = n := by
        rw [TurnState.processChunk_vadAccumulator, List.length_drop]
        simp only [kChunkSize] at hn ⊢
        omega
      have hactions : actions = .vadChunk (envs 0) ::
          (List.range n).map fun i => TurnAction.vadChunk (envs (i + 1)) := by
        simp only [actions, hn, List.range_succ_eq_map, List.map_cons, List.map_map]
        rfl
      have step : M.step s (.vadChunk (envs 0)) =
          some (s.processChunk onnx config (envs 0)).1 :=
        turnStep_vadChunk.mpr ⟨long, rfl⟩
      obtain ⟨hrun, hout⟩ := ih (s.processChunk onnx config (envs 0)).1
        (fun i => envs (i + 1)) hrest
      rw [hrest] at hrun hout
      rw [hactions, M.run_cons, step, M.transitions_cons _ step, TurnState.processChunks,
        if_pos long]
      refine ⟨hrun, ?_⟩
      rw [List.flatMap_cons, hout]
      rfl

/-- **`ProcessAudio` is a run of the machine.**  A call that gets past its guards
buffers the resampled audio and takes one `vadChunk` step for each whole chunk. -/
theorem processAudio_eq_run [Zero Sample] [Zero Rnn] (vadConfig : VadConfig) (t₀ t₁ : ℤ)
    (s : TurnState Sample Rnn) (call : AudioCall Sample) (resampled : List Sample)
    (running : s.pipeline.running = true) (present : call.audioPresent = true)
    (nonempty : call.samples ≠ 0) (ok : call.resampled = some resampled) :
    let M := turnMachine onnx config vadConfig t₀ t₁
    let actions := AudioCall.actions resampled call.envs
      ((s.pipeline.vadAccumulator ++ resampled).length / kChunkSize)
    M.run s actions = some (s.processAudio onnx config call).1 ∧
      (M.transitions s actions).flatMap (emitted onnx config) =
        (s.processAudio onnx config call).2 := by
  intro M actions
  have buffered : M.step s (.audio resampled) = some (s.bufferAudio resampled) := rfl
  have loop := processChunks_eq_run onnx config vadConfig t₀ t₁
    (s.bufferAudio resampled) call.envs
  have hcall : s.processAudio onnx config call =
      (s.bufferAudio resampled).processChunks onnx config call.envs := by
    simp [TurnState.processAudio, running, present, nonempty, ok]
  rw [hcall, show actions = .audio resampled :: _ from rfl, M.run_cons, buffered,
    M.transitions_cons _ buffered]
  exact loop

end Machine

end Saasy.ListeningEngine
