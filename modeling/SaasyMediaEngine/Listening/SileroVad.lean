import Mathlib.Data.Rat.Defs
import Mathlib.Algebra.Order.Ring.Rat

/-!
# The Silero VAD wrapper

`listening-engine/src/vad_turn/silero_vad.cpp`.  A `SileroVad` holds the RNN
state and the 64-sample context that the ONNX model does not keep itself, two
duration counters and the three-valued speech state.  `process` feeds one
512-sample chunk to the model and `updateState` advances the counters and the
state on the probability that comes back.

The ONNX session is a parameter: an arbitrary function of the 576-sample
effective input and the RNN state, `none` where `Ort::Session::Run` throws.
Samples and RNN states are type variables, since no code here looks inside them.
Probabilities are rationals; the counters are `uint32_t` and wrap.

A chunk of the wrong size and a failed inference leave the object as it was and answer `-1`, so a
caller tells a failure by its sign; that the model itself never answers with a negative number is a
hypothesis of the results that need it, and not part of this module.

`updateState` is written branch by branch like the source, with the counter moved before it is
compared.  The lemmas behind it give its result by whether the probability reaches the threshold,
and all other modules go by these: a loud chunk and a quiet one have nothing in common but the
32 milliseconds.
-/

namespace Saasy.ListeningEngine

/-- `VadState`: `silence` is a brief silence *during* speech, which either goes on or ends with it.
-/
inductive VadState
  | idle
  | speech
  | silence
  deriving DecidableEq, Repr

/-- `VadConfig` with the defaults of `silero_vad.h`.  The two durations are compared with counters
that grow by 32 at a time. -/
structure VadConfig where
  threshold : ℚ := 1 / 2
  minSpeechDurationMs : UInt32 := 50
  minSilenceDurationMs : UInt32 := 300

/-- `Ort::Session::Run` on the Silero model: effective input and RNN state to
probability and new RNN state, `none` for an `Ort::Exception`. -/
abbrev OnnxSession (Sample Rnn : Type*) := List Sample → Rnn → Option (ℚ × Rnn)

/-- `kChunkDurationMs`: 512 samples at 16 kHz. -/
def kChunkDurationMs : UInt32 := 32

/-- `kChunkSize`. -/
def kChunkSize : ℕ := 512

/-- `kContextSamples`. -/
def kContextSamples : ℕ := 64

structure SileroVad (Sample Rnn : Type*) where
  config : VadConfig
  state : VadState
  speechDurationMs : UInt32
  silenceDurationMs : UInt32
  stateTensor : Rnn
  contextBuffer : List Sample

namespace SileroVad

variable {Sample Rnn : Type*}

/-- The constructor: idle, counters at zero, the RNN state and the context
zeroed. -/
def create [Zero Sample] [Zero Rnn] (config : VadConfig) : SileroVad Sample Rnn where
  config := config
  state := .idle
  speechDurationMs := 0
  silenceDurationMs := 0
  stateTensor := 0
  contextBuffer := List.replicate kContextSamples 0

/-- `SileroVAD::UpdateState`.  A loud chunk resets the silence counter; a quiet one leaves the
speech counter as it is, unless it ends the speech. -/
def updateState (vad : SileroVad Sample Rnn) (probability : ℚ) : SileroVad Sample Rnn :=
  if vad.config.threshold ≤ probability then
    let vad := { vad with
      speechDurationMs := vad.speechDurationMs + kChunkDurationMs
      silenceDurationMs := 0 }
    if vad.state = .idle ∧ vad.config.minSpeechDurationMs ≤ vad.speechDurationMs then
      { vad with state := .speech }
    else if vad.state = .silence then
      { vad with state := .speech }
    else vad
  else
    let vad := { vad with silenceDurationMs := vad.silenceDurationMs + kChunkDurationMs }
    let vad := if vad.state = .speech then { vad with state := .silence } else vad
    if vad.state = .silence ∧ vad.config.minSilenceDurationMs ≤ vad.silenceDurationMs then
      { vad with state := .idle, speechDurationMs := 0 }
    else vad

/-- `SileroVAD::Process`: the probability, or `-1` on a chunk of the wrong size
or a failed inference, which both leave the object as it was. -/
def process (onnx : OnnxSession Sample Rnn) (vad : SileroVad Sample Rnn)
    (audioChunk : List Sample) : ℚ × SileroVad Sample Rnn :=
  if audioChunk.length ≠ kChunkSize then (-1, vad)
  else
    let effectiveInput := vad.contextBuffer ++ audioChunk
    match onnx effectiveInput vad.stateTensor with
    | none => (-1, vad)
    | some (probability, newState) =>
        let vad := { vad with
          stateTensor := newState
          contextBuffer := effectiveInput.drop (effectiveInput.length - kContextSamples) }
        (probability, vad.updateState probability)

/-- `SileroVAD::Reset`.  Nothing in the engine calls it. -/
def reset [Zero Sample] [Zero Rnn] (vad : SileroVad Sample Rnn) : SileroVad Sample Rnn :=
  create vad.config

/-! ### What a chunk does to the state and the counters

What most of the later proofs know of the VAD. The counters are `UInt32`, and nothing here says
that they do not wrap. -/

@[simp] theorem updateState_config (vad : SileroVad Sample Rnn) (p : ℚ) :
    (vad.updateState p).config = vad.config := by
  simp only [updateState]
  split_ifs <;> rfl

/-- A chunk at or above the threshold: the silence run is over, and speech
continues, resumes, or starts once the speech counter has reached its minimum. -/
theorem updateState_of_le {vad : SileroVad Sample Rnn} {p : ℚ}
    (loud : vad.config.threshold ≤ p) :
    vad.updateState p =
      { vad with
        speechDurationMs := vad.speechDurationMs + 32
        silenceDurationMs := 0
        state :=
          if vad.state = .idle ∧
              ¬ vad.config.minSpeechDurationMs ≤ vad.speechDurationMs + 32 then .idle
          else .speech } := by
  simp only [updateState, loud, if_true, kChunkDurationMs]
  cases hs : vad.state <;> by_cases h : vad.config.minSpeechDurationMs ≤ vad.speechDurationMs + 32
    <;> simp [h]

/-- A chunk below the threshold: the silence counter grows, an idle VAD stays
idle, and a VAD that heard speech goes to `silence` or, once the counter has
reached its minimum, back to `idle`. -/
theorem updateState_of_lt {vad : SileroVad Sample Rnn} {p : ℚ}
    (quiet : p < vad.config.threshold) :
    vad.updateState p =
      if vad.state = .idle then
        { vad with silenceDurationMs := vad.silenceDurationMs + 32 }
      else if vad.config.minSilenceDurationMs ≤ vad.silenceDurationMs + 32 then
        { vad with
          silenceDurationMs := vad.silenceDurationMs + 32
          speechDurationMs := 0
          state := .idle }
      else
        { vad with
          silenceDurationMs := vad.silenceDurationMs + 32
          state := .silence } := by
  have hq : ¬ vad.config.threshold ≤ p := not_le.mpr quiet
  simp only [updateState, hq, if_false, kChunkDurationMs]
  cases hs : vad.state
    <;> by_cases h : vad.config.minSilenceDurationMs ≤ vad.silenceDurationMs + 32 <;> simp [h]

/-- A chunk of the right size on which the inference succeeds. -/
theorem process_of_some {onnx : OnnxSession Sample Rnn} {vad : SileroVad Sample Rnn}
    {chunk : List Sample} (size : chunk.length = kChunkSize) {p : ℚ} {newState : Rnn}
    (run : onnx (vad.contextBuffer ++ chunk) vad.stateTensor = some (p, newState)) :
    vad.process onnx chunk =
      (p, { vad with
        stateTensor := newState
        contextBuffer := (vad.contextBuffer ++ chunk).drop
          ((vad.contextBuffer ++ chunk).length - kContextSamples) }.updateState p) := by
  simp [process, size, run]

/-- The outcomes of `process`: it failed and changed nothing, or it
returned the model's probability and took one step of the state machine. -/
theorem process_cases (onnx : OnnxSession Sample Rnn) (vad : SileroVad Sample Rnn)
    (chunk : List Sample) :
    vad.process onnx chunk = (-1, vad) ∨
      ∃ p newState context, onnx (vad.contextBuffer ++ chunk) vad.stateTensor = some (p, newState) ∧
        vad.process onnx chunk =
          (p, { vad with stateTensor := newState, contextBuffer := context }.updateState p) := by
  by_cases size : chunk.length = kChunkSize
  · cases hrun : onnx (vad.contextBuffer ++ chunk) vad.stateTensor with
    | none => exact .inl (by simp [process, hrun])
    | some out => exact .inr ⟨out.1, out.2, _, rfl, process_of_some size hrun⟩
  · exact .inl (by simp [process, size])

end SileroVad

end Saasy.ListeningEngine
