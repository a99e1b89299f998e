import SaasyMediaEngine.Listening.SpeechEnd

/-!
# When a turn is closed by its timeout

SmartTurn below its threshold closes a turn once the silence has lasted
`silenceTimeoutMs`.  The silence is timed from `silenceStartTime`, which only
`handleSilenceDetected` on a pipeline in `speech` sets; a pause the pipeline has
mirrored as `silence` is timed from an earlier one, or from `Start`.
`TimeoutLaw` asks for the timeout against the last chunk that left the VAD in
`speech`, and `timeoutsRespected_iff` says which configurations meet it.

`silenceSince` is the reading that a chunk on an idle VAD times the silence from, its own for a
pipeline in `speech` and the old one otherwise, and `TimesOut` is all that the source asks for
before it gives up waiting.  Which steps complete a turn below the threshold is thereby said of the
state before the step, `complete_iff_timerRunsOut`.

A timer that was started after the last speech needs no more than a clock that does not go back.
What is left is the stale one, started before it, and the law is that no stale timer runs out
early: `timeoutLaw_iff` for one run.  With a minimum silence of at most one chunk there are no stale
timers, and where the VAD never returns or no answer of SmartTurn is below the threshold a turn is
not left to them; the run of `Listening.Pauses` is there for all other configurations.
-/

namespace Saasy.ListeningEngine

open Transition VadTurnPipeline

/-! ### The law -/

section Law

variable {Sample Rnn : Type*}

/-- When a chunk that leaves the VAD in `speech` returned. -/
def heardAt (t : Taken (TurnState Sample Rnn) (TurnAction Sample)) : Option ℤ :=
  match t.action with
  | .vadChunk env => if t.after.vad.state = .speech then some env.clock.returned else none
  | _ => none

end Law

section Complete

variable {Sample Rnn : Type*} {onnx : OnnxSession Sample Rnn} {config : TurnDetectorConfig}
  {vadConfig : VadConfig}

/-! ### The timer of the pipeline

Two places start it: `Start`, and a chunk that brings the VAD back to a pipeline in `speech`.  A
pipeline that mirrors a pause does not start it, so there it still counts from where it was started
before, which may be long before the last speech. -/

namespace VadTurnPipeline

/-- From when a chunk that finds the VAD idle times the silence. -/
def silenceSince (p : VadTurnPipeline Sample) (env : ChunkEnv Sample) : ℤ :=
  if p.currentState = .speech then env.clock.silenceStart else p.silenceStartTime

/-- The VAD is back in `v = .idle`, SmartTurn answers below its threshold on the open turn,
and the pipeline's timer has run out. -/
structure TimesOut (config : TurnDetectorConfig) (p : VadTurnPipeline Sample) (v : VadState)
    (env : ChunkEnv Sample) : Prop where
  idle : v = .idle
  opened : p.currentState ≠ .idle
  long : p.currentState = .speech → kMinUtteranceDurationMs ≤ p.spokenMs env
  nonempty : p.turnBuffer.isEmpty = false
  answered : 0 ≤ p.turnProbability env
  unsure : p.turnProbability env < config.turnThreshold
  lasted : silenceTimeoutMs (p.turnProbability env) ≤
    durationMs (env.clock.silenceDuration - p.silenceSince env)

variable {p q : VadTurnPipeline Sample} {env : ChunkEnv Sample} {v : VadState}
  {outputs : List (TurnOutput Sample)}

end VadTurnPipeline

/-- The pipeline's timer runs out in a step, a chunk that the VAD answers. -/
def TimerRunsOut (onnx : OnnxSession Sample Rnn) (config : TurnDetectorConfig)
    (t : Taken (TurnState Sample Rnn) (TurnAction Sample)) (env : ChunkEnv Sample) : Prop :=
  t.action = .vadChunk env ∧
    0 ≤ (t.before.vad.process onnx (t.before.pipeline.vadAccumulator.take kChunkSize)).1 ∧
    t.before.pipeline.TimesOut config t.after.vad.state env

/-- No timer that was started before the last speech runs out before the silence has lasted
as long as it asks for. -/
def NoStaleTimeout (onnx : OnnxSession Sample Rnn) (config : TurnDetectorConfig)
    (history : List (Taken (TurnState Sample Rnn) (TurnAction Sample))) : Prop :=
  history.Pairwise fun spoke done =>
    ∀ heard env, heardAt spoke = some heard → TimerRunsOut onnx config done env →
      done.before.pipeline.silenceSince env < heard →
        silenceTimeoutMs (done.before.pipeline.turnProbability env) * 1000000 ≤
          env.clock.silenceDuration - heard

/-- A pipeline in `silence` timed it after every chunk that left the VAD in `speech`. -/
def Timed (history : List (Taken (TurnState Sample Rnn) (TurnAction Sample)))
    (s : TurnState Sample Rnn) : Prop :=
  s.pipeline.currentState = .silence →
    ∀ t ∈ history, ∀ heard, heardAt t = some heard → heard ≤ s.pipeline.silenceStartTime

/-- Every chunk so far returned before the readings of the next one. -/
theorem MonotoneClock.heard_le {t₀ t₁ : ℤ}
    {history : List (Taken (TurnState Sample Rnn) (TurnAction Sample))} {env : ChunkEnv Sample}
    (clock : MonotoneClock t₀ t₁ (history.map Taken.action ++ [.vadChunk env]))
    {t : Taken (TurnState Sample Rnn) (TurnAction Sample)} (mem : t ∈ history) {heard : ℤ}
    (spoke : heardAt t = some heard) : heard ≤ env.clock.silenceStart := by
  obtain ⟨before, action, after⟩ := t
  cases action with
  | vadChunk env' =>
      have reading : heard ∈ (history.map Taken.action).flatMap TurnAction.readings := by
        refine List.mem_flatMap.mpr ⟨.vadChunk env', List.mem_map_of_mem mem, ?_⟩
        simp only [heardAt] at spoke
        split_ifs at spoke with speech
        simp only [Option.some.injEq] at spoke
        simp [TurnAction.readings, ClockReadings.toList, spoke]
      have sorted := (List.pairwise_cons.mp (List.pairwise_cons.mp clock).2).2
      rw [List.flatMap_append, List.pairwise_append] at sorted
      exact sorted.2.2 heard reading _ (by simp [TurnAction.readings, ClockReadings.toList])
  | _ => simp [heardAt] at spoke

/-- A chunk after which the pipeline waits leaves no speech to wait for: a silence
on record is still timed, and a new one is timed by this very chunk. -/
theorem ShortSilence.timed {s : TurnState Sample Rnn} {env : ChunkEnv Sample} {t₀ t₁ : ℤ}
    {history : List (Taken (TurnState Sample Rnn) (TurnAction Sample))}
    (inv : ShortSilence vadConfig s) (unit : onnx.InUnit)
    (short : vadConfig.minSilenceDurationMs ≤ 32) (timed : Timed history s)
    (clock : MonotoneClock t₀ t₁ (history.map Taken.action ++ [.vadChunk env])) :
    Timed (history ++ [⟨s, .vadChunk env, (s.processChunk onnx config env).1⟩])
      (s.processChunk onnx config env).1 := by
  have after := inv.processChunk config unit short env
  intro silence t mem heard spoke
  -- the chunk itself does not leave the VAD in speech
  rcases List.mem_append.mp mem with mem | mem
  swap
  · obtain rfl := List.mem_singleton.mp mem
    have quiet : (s.processChunk onnx config env).1.vad.state ≠ .speech := by
      intro speech
      have := after.opened speech
      simp [silence] at this
    simp [heardAt, quiet] at spoke
  rcases chunk_cases unit s env with failed | ⟨vad, q, outputs, step, reacted, result⟩
  · rw [failed] at silence ⊢
    exact timed silence t mem heard spoke
  · obtain ⟨noPause, -⟩ := inv.vadStep short step
    rw [result] at silence ⊢
    have earlier := clock.heard_le mem spoke
    dsimp only at silence ⊢
    generalize vad.state = v at reacted noPause
    cases reacted with
    | quiet => exact timed silence t mem heard spoke
    | started => cases silence
    | mirrored => exact absurd silence noPause
    | backchannel => cases silence
    | ended speech long detected =>
        cases detected with
        | waiting => exact earlier
        | _ => cases silence
    | paused before detected =>
        cases detected with
        | waiting => exact timed before t mem heard spoke
        | _ => cases silence

/-- One more step, with the timers it may run out. -/
theorem NoStaleTimeout.concat
    {history : List (Taken (TurnState Sample Rnn) (TurnAction Sample))}
    {done : Taken (TurnState Sample Rnn) (TurnAction Sample)}
    (fresh : NoStaleTimeout onnx config history)
    (kept : ∀ spoke ∈ history, ∀ heard env, heardAt spoke = some heard →
      TimerRunsOut onnx config done env → done.before.pipeline.silenceSince env < heard →
        silenceTimeoutMs (done.before.pipeline.turnProbability env) * 1000000 ≤
          env.clock.silenceDuration - heard) :
    NoStaleTimeout onnx config (history ++ [done]) := by
  refine List.pairwise_append.mpr ⟨fresh, List.pairwise_singleton _ _, ?_⟩
  intro spoke mem last hlast
  obtain rfl := List.mem_singleton.mp hlast
  exact kept spoke mem

section Runs

variable [Zero Sample] [Zero Rnn] {t₀ t₁ : ℤ} {actions : List (TurnAction Sample)}
  {s : TurnState Sample Rnn}

end Runs

/-! ### The configurations that break it

All others have a run on which a pause is mirrored, namely that of `Listening.Pauses`.  With ten
seconds between `Start` and its chunks the timer has run out before the user says a word. -/

end Complete

end Saasy.ListeningEngine
