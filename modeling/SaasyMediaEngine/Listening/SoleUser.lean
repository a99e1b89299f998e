import SaasyMediaEngine.Listening.TurnMachine

/-!
# A pipeline that has its VAD to itself

The setting of what is proved of one session: the pipeline is the only user of its
`SileroVad`, both start fresh, an event stream is attached, the model returns
probabilities in `[0, 1]` (or fails) and the clock never goes back.  `SoleRun`
packages it.

The rule of induction `SoleRun.induction` hands a proof one chunk at a time, together with the steps
taken so far, a clock that is monotone up to the chunk and the fact that the chunk finds the event
stream attached.  A law about the steps of a run is thereby reduced to an invariant that relates
the steps so far to the state they lead to, and to one case split over `VadStep` and `Reaction`:
what the probability did to the VAD, and what the pipeline made of the state it was left in.
`chunk_cases` is that split for one chunk.

`VadStep` has four constructors: a loud chunk, a quiet one that finds the VAD idle, and a quiet one
that does not, before and after the silence is long enough.  It gives the two counters as well as
the state, because in some configurations a counter never gets to the bound that the source compares
it with.
-/

namespace Saasy.ListeningEngine

open Transition VadTurnPipeline

/-- The model returns probabilities. -/
def OnnxSession.InUnit {Sample Rnn : Type*} (onnx : OnnxSession Sample Rnn) : Prop :=
  ∀ input rnn p r, onnx input rnn = some (p, r) → 0 ≤ p ∧ p ≤ 1

/-- The readings of a call, in the order of the call. -/
def ClockReadings.toList (clock : ClockReadings) : List ℤ :=
  [clock.called, clock.speechStart, clock.silenceStart, clock.speechDuration,
    clock.silenceDuration, clock.returned]

namespace TurnAction

variable {Sample : Type*}

/-- A step of a session with an event stream and no other session on its VAD. -/
def Own : TurnAction Sample → Prop
  | .audio _ => True
  | .vadChunk env => env.hasEventStream = true
  | .foreign _ => False

def readings : TurnAction Sample → List ℤ
  | .vadChunk env => env.clock.toList
  | _ => []

end TurnAction

/-- The clock never goes back along a run that starts with the two readings of
`Start`. -/
def MonotoneClock {Sample : Type*} (t₀ t₁ : ℤ) (actions : List (TurnAction Sample)) : Prop :=
  (t₀ :: t₁ :: actions.flatMap TurnAction.readings).Pairwise (· ≤ ·)

/-- A run of a session that has its VAD to itself, from the initial states: the model answers with
probabilities, no other session interferes, an event stream is attached throughout, and the steady
clock does not go back. -/
structure SoleRun {Sample Rnn : Type*} [Zero Sample] [Zero Rnn]
    (onnx : OnnxSession Sample Rnn) (config : TurnDetectorConfig) (vadConfig : VadConfig)
    (t₀ t₁ : ℤ) (actions : List (TurnAction Sample)) (s : TurnState Sample Rnn) : Prop where
  unit : onnx.InUnit
  own : ∀ a ∈ actions, a.Own
  clock : MonotoneClock t₀ t₁ actions
  run : (turnMachine onnx config vadConfig t₀ t₁).run
    (turnMachine onnx config vadConfig t₀ t₁).init actions = some s

section ChunkCases

variable {Sample Rnn : Type*} {onnx : OnnxSession Sample Rnn} {config : TurnDetectorConfig}

/-- The VAD before and after a chunk it could process: what the probability did
to the state and to the two counters. -/
inductive VadStep (vad vad' : SileroVad Sample Rnn) : Prop
  | loud (p : ℚ) (le_one : p ≤ 1) (loud : vad.config.threshold ≤ p)
      (config : vad'.config = vad.config)
      (state : vad'.state =
        if vad.state = .idle ∧ ¬ vad.config.minSpeechDurationMs ≤ vad.speechDurationMs + 32
        then .idle else .speech)
      (speech : vad'.speechDurationMs = vad.speechDurationMs + 32)
      (silence : vad'.silenceDurationMs = 0)
  | stillIdle (p : ℚ) (nonneg : 0 ≤ p) (quiet : p < vad.config.threshold)
      (config : vad'.config = vad.config) (idle : vad.state = .idle) (state : vad'.state = .idle)
      (speech : vad'.speechDurationMs = vad.speechDurationMs)
      (silence : vad'.silenceDurationMs = vad.silenceDurationMs + 32)
  | pause (p : ℚ) (nonneg : 0 ≤ p) (quiet : p < vad.config.threshold)
      (config : vad'.config = vad.config) (spoke : vad.state ≠ .idle)
      (brief : ¬ vad.config.minSilenceDurationMs ≤ vad.silenceDurationMs + 32)
      (state : vad'.state = .silence)
      (speech : vad'.speechDurationMs = vad.speechDurationMs)
      (silence : vad'.silenceDurationMs = vad.silenceDurationMs + 32)
  | offset (p : ℚ) (nonneg : 0 ≤ p) (quiet : p < vad.config.threshold)
      (config : vad'.config = vad.config) (spoke : vad.state ≠ .idle)
      (enough : vad.config.minSilenceDurationMs ≤ vad.silenceDurationMs + 32)
      (state : vad'.state = .idle)
      (speech : vad'.speechDurationMs = 0)
      (silence : vad'.silenceDurationMs = vad.silenceDurationMs + 32)

theorem vadStep_updateState (vad : SileroVad Sample Rnn) (newState : Rnn)
    (context : List Sample) {p : ℚ} (nonneg : 0 ≤ p) (le_one : p ≤ 1) :
    VadStep vad
      ({ vad with stateTensor := newState, contextBuffer := context }.updateState p) := by
  set fed := { vad with stateTensor := newState, contextBuffer := context }
  rcases le_or_gt fed.config.threshold p with loud | quiet
  · rw [SileroVad.updateState_of_le loud]
    exact .loud p le_one loud rfl rfl rfl rfl
  · rw [SileroVad.updateState_of_lt quiet]
    split_ifs with idle enough
    · exact .stillIdle p nonneg quiet rfl idle idle rfl rfl
    · exact .offset p nonneg quiet rfl idle enough rfl rfl rfl
    · exact .pause p nonneg quiet rfl idle enough rfl rfl rfl

theorem VadStep.config_eq {vad vad' : SileroVad Sample Rnn} (step : VadStep vad vad') :
    vad'.config = vad.config := by
  cases step <;> assumption

/-- **What one chunk does**: either the VAD fails on it and only the accumulator
moves, or the VAD takes a step and the pipeline reacts to the state it is left
in. -/
theorem chunk_cases (unit : onnx.InUnit) (s : TurnState Sample Rnn) (env : ChunkEnv Sample) :
    let p := { s.pipeline with vadAccumulator := s.pipeline.vadAccumulator.drop kChunkSize }
    s.processChunk onnx config env = (⟨s.vad, p⟩, []) ∨
      ∃ vad q outputs, VadStep s.vad vad ∧ Reaction config p env vad.state q outputs ∧
        s.processChunk onnx config env = (⟨vad, q⟩, outputs) := by
  intro p
  rcases SileroVad.process_cases onnx s.vad (s.pipeline.vadAccumulator.take kChunkSize) with
    failed | ⟨probability, newState, context, hrun, hprocess⟩
  · left
    simp only [TurnState.processChunk, processVadChunk, failed]
    rfl
  · right
    obtain ⟨nonneg, le_one⟩ := unit _ _ _ _ hrun
    refine ⟨_, _, _, vadStep_updateState s.vad newState context nonneg le_one,
      reaction config p _ env, ?_⟩
    simp only [TurnState.processChunk, processVadChunk, hprocess, not_lt.mpr nonneg, if_false]
    rfl

end ChunkCases

/-- **Induction over a sole user's run.**  A relation between the steps taken so
far and the state they lead to: it holds at the start, buffering keeps it, and so
does a chunk on an attached event stream and a clock monotone so far. -/
theorem SoleRun.induction {Sample Rnn : Type*} [Zero Sample] [Zero Rnn]
    {onnx : OnnxSession Sample Rnn} {config : TurnDetectorConfig} {vadConfig : VadConfig}
    {t₀ t₁ : ℤ} {actions : List (TurnAction Sample)} {s : TurnState Sample Rnn}
    {motive : List (Taken (TurnState Sample Rnn) (TurnAction Sample)) →
      TurnState Sample Rnn → Prop}
    (sole : SoleRun onnx config vadConfig t₀ t₁ actions s)
    (start : motive [] ⟨.create vadConfig, .start t₀ t₁⟩)
    (audio : ∀ past s xs, motive past s →
      motive (past ++ [⟨s, .audio xs, s.bufferAudio xs⟩]) (s.bufferAudio xs))
    (chunk : ∀ past s env, env.hasEventStream = true →
      MonotoneClock t₀ t₁ (past.map Taken.action ++ [.vadChunk env]) → motive past s →
      motive (past ++ [⟨s, .vadChunk env, (s.processChunk onnx config env).1⟩])
        (s.processChunk onnx config env).1) :
    motive ((turnMachine onnx config vadConfig t₀ t₁).transitions
      (turnMachine onnx config vadConfig t₀ t₁).init actions) s := by
  set M := turnMachine onnx config vadConfig t₀ t₁
  have map : (M.transitions M.init actions).map Taken.action = actions :=
    M.map_action_transitions sole.run
  have history := M.history_invariant
    (motive := fun past s => (∀ t ∈ past, t.action.Own) →
      MonotoneClock t₀ t₁ (past.map Taken.action) → motive past s)
    ?_ (fun _ _ => start) sole.run
  · refine history (fun t mem => sole.own _ ?_) ?_
    · rw [← map]
      exact List.mem_map_of_mem mem
    · exact (congrArg (MonotoneClock t₀ t₁) map).mpr sole.clock
  · intro past s a t ih step own clock
    have earlier : motive past s := by
      refine ih (fun t mem => own t (List.mem_append_left _ mem)) ?_
      refine List.Pairwise.sublist ?_ clock
      simp
    cases a with
    | audio xs =>
        cases step
        exact audio past s xs earlier
    | vadChunk env =>
        obtain ⟨-, rfl⟩ := turnStep_vadChunk.mp step
        have attached : env.hasEventStream = true :=
          own ⟨s, .vadChunk env, _⟩ (List.mem_append_right _ List.mem_cons_self)
        exact chunk past s env attached (by simpa using clock) earlier
    | foreign xs =>
        exact (own ⟨s, .foreign xs, t⟩ (List.mem_append_right _ List.mem_cons_self)).elim

end Saasy.ListeningEngine
