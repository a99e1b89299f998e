import SaasyMediaEngine.Listening.SpeechEnd

/-!
# The pipeline tracks its VAD

A VAD and the pipeline that is its only user are two machines with thresholds of their own.
`Tracks` lists the pairs of states they can be in between two chunks: the same state twice,
or an idle VAD and a pipeline that still waits for its turn to be decided.  The VAD goes from
`idle` to `silence` through `speech` only, and there the pipeline catches up with it.

It follows what `speech_started` says: the VAD has entered `speech`, and no turn was open.
None of this depends on the clock, on SmartTurn, or on an event stream.

The three pairs on the diagonal are those in which the pipeline has seen everything.  The fourth,
an idle VAD and a pipeline in `silence`, is where a turn is while SmartTurn holds that it may go on:
every chunk asks again, and only a new onset or the end of the turn, however it ends, leaves it.
`Tracks.react` goes through the reactions of the pipeline one by one, and `TrackingLaw.chunk` adds
the chunks on which the model fails, which move neither machine.
-/

namespace Saasy.ListeningEngine

open Transition VadTurnPipeline

/-- The states of a VAD and of its pipeline, between two chunks: four of the nine pairs. -/
inductive Tracks : VadState → VadState → Prop
  | idle : Tracks .idle .idle
  | speech : Tracks .speech .speech
  | silence : Tracks .silence .silence
  /-- The pipeline waits for the end of its turn. -/
  | waiting : Tracks .idle .silence

theorem Tracks.idle_of_idle {v p : VadState} (tracks : Tracks v p) (idle : p = .idle) :
    v = .idle := by
  cases tracks <;> first | rfl | cases idle

/-- No other session uses the VAD. -/
def TurnAction.Alone {Sample : Type*} : TurnAction Sample → Prop
  | .foreign _ => False
  | _ => True

section Law

variable {Sample Rnn : Type*}

/-- The VAD enters `speech` while no turn is open. -/
def OpensTurn (t : Taken (TurnState Sample Rnn) (TurnAction Sample)) : Prop :=
  t.before.vad.state ≠ .speech ∧ t.after.vad.state = .speech ∧
    t.before.pipeline.currentState = .idle

instance (t : Taken (TurnState Sample Rnn) (TurnAction Sample)) : Decidable (OpensTurn t) :=
  inferInstanceAs (Decidable (_ ∧ _ ∧ _))

/-- **The law.**  The pipeline tracks the VAD after every step, and a chunk sends
`speech_started`, once, exactly when it opens a turn. -/
structure TrackingLaw (onnx : OnnxSession Sample Rnn) (config : TurnDetectorConfig)
    (t : Taken (TurnState Sample Rnn) (TurnAction Sample)) : Prop where
  tracks : Tracks t.after.vad.state t.after.pipeline.currentState
  started : ∀ env, t.action = .vadChunk env →
    (emitted onnx config t).filter TurnOutput.isSpeechStarted =
      if OpensTurn t then send env.streamAtSpeech (.speechStarted env.clock.speechStartedMs) else []

end Law

variable {Sample Rnn : Type*} {onnx : OnnxSession Sample Rnn} {config : TurnDetectorConfig}
  {vadConfig : VadConfig}

/-- An idle VAD does not go to `silence` directly. -/
theorem VadStep.ne_silence_of_idle {vad vad' : SileroVad Sample Rnn} (step : VadStep vad vad')
    (idle : vad.state = .idle) : vad'.state ≠ .silence := by
  cases step with
  | loud p le_one loud config state =>
      rw [state]
      split_ifs <;> simp
  | stillIdle p nonneg quiet config idle state => simp [state]
  | pause p nonneg quiet config spoke => exact absurd idle spoke
  | offset p nonneg quiet config spoke enough state => simp [state]

/-- A detection leaves a waiting pipeline waiting, or idle. -/
theorem VadTurnPipeline.Detection.tracks {p q : VadTurnPipeline Sample} {env : ChunkEnv Sample}
    {outputs : List (TurnOutput Sample)} (silence : p.currentState = .silence)
    (detected : Detection config p env q outputs) : Tracks .idle q.currentState := by
  obtain idle | same := detected.currentState
  · exact idle ▸ .idle
  · exact (same.trans silence) ▸ .waiting

/-- **The reaction of a pipeline that tracks its VAD** tracks it again, if the VAD does not jump
from `idle` to `silence`. -/
theorem Tracks.react {p q : VadTurnPipeline Sample} {env : ChunkEnv Sample} {v v' : VadState}
    {outputs : List (TurnOutput Sample)} (tracks : Tracks v p.currentState)
    (fresh : v = .idle → v' ≠ .silence) (reacted : Reaction config p env v' q outputs) :
    Tracks v' q.currentState := by
  cases reacted with
  | quiet idle silent =>
      have notSilence := fresh (tracks.idle_of_idle idle)
      rw [idle]
      cases v' with
      | idle => exact .idle
      | speech => exact absurd rfl silent
      | silence => exact absurd rfl notSilence
  | started => exact .speech
  | mirrored opened busy =>
      cases v' with
      | idle => exact absurd rfl busy
      | speech => exact .speech
      | silence => exact .silence
  | backchannel => exact .idle
  | ended speech long detected => exact detected.tracks rfl
  | paused silence detected => exact detected.tracks silence

/-- A detection sends no `speech_started`. -/
theorem VadTurnPipeline.Detection.filter_started {p q : VadTurnPipeline Sample}
    {env : ChunkEnv Sample} {outputs : List (TurnOutput Sample)}
    (detected : Detection config p env q outputs) :
    outputs.filter TurnOutput.isSpeechStarted = [] := by
  rw [List.filter_eq_nil_iff]
  intro o mem
  simp [(detected.output_cases mem).1]

/-- `speech_started` is sent on an idle pipeline that meets a VAD in `speech`, and nowhere
else. -/
theorem VadTurnPipeline.Reaction.filter_started {p q : VadTurnPipeline Sample}
    {env : ChunkEnv Sample} {v : VadState} {outputs : List (TurnOutput Sample)}
    (reacted : Reaction config p env v q outputs) :
    outputs.filter TurnOutput.isSpeechStarted =
      if v = .speech ∧ p.currentState = .idle then
        send env.streamAtSpeech (.speechStarted env.clock.speechStartedMs)
      else [] := by
  cases reacted with
  | quiet idle silent => rw [if_neg fun opens => silent opens.1, List.filter_nil]
  | started idle =>
      rw [if_pos ⟨rfl, idle⟩]
      unfold send
      split_ifs <;> rfl
  | mirrored opened => rw [if_neg fun opens => opened opens.2, List.filter_nil]
  | backchannel =>
      rw [if_neg fun opens => VadState.noConfusion opens.1]
      rfl
  | ended speech long detected =>
      have ended : (send env.streamAtSpeech
          (.speechEnded env.clock.speechEndedMs : TurnOutput Sample)).filter
          TurnOutput.isSpeechStarted = [] := by
        unfold send
        split_ifs <;> rfl
      rw [if_neg fun opens => VadState.noConfusion opens.1, List.filter_append, ended,
        detected.filter_started]
      rfl
  | paused silence detected =>
      rw [if_neg fun opens => VadState.noConfusion opens.1, detected.filter_started]

/-- **One chunk** keeps the law, on any clock, and whether or not an event stream is there to hear
of it. -/
theorem TrackingLaw.chunk (unit : onnx.InUnit) {s : TurnState Sample Rnn} (env : ChunkEnv Sample)
    (tracks : Tracks s.vad.state s.pipeline.currentState) :
    TrackingLaw onnx config ⟨s, .vadChunk env, (s.processChunk onnx config env).1⟩ := by
  obtain failed | ⟨vad, q, outputs, step, reacted, result⟩ := chunk_cases unit s env
  · -- the VAD answers nothing, and nothing happens
    refine ⟨by rw [failed]; exact tracks, ?_⟩
    rintro _ ⟨⟩
    have closed : ¬ OpensTurn (⟨s, .vadChunk env, (s.processChunk onnx config env).1⟩ :
        Taken (TurnState Sample Rnn) (TurnAction Sample)) := by
      rintro ⟨quiet, speech, -⟩
      rw [failed] at speech
      exact quiet speech
    rw [if_neg closed]
    show (s.processChunk onnx config env).2.filter _ = []
    rw [failed, List.filter_nil]
  · set p := { s.pipeline with vadAccumulator := s.pipeline.vadAccumulator.drop kChunkSize }
    refine ⟨?_, ?_⟩
    · rw [result]
      exact Tracks.react (p := p) tracks (fun idle => step.ne_silence_of_idle idle) reacted
    · rintro _ ⟨⟩
      show (s.processChunk onnx config env).2.filter _ = _
      rw [result, reacted.filter_started]
      refine if_congr ?_ rfl rfl
      constructor
      · rintro ⟨speech, idle⟩
        have quiet : s.vad.state = .idle := tracks.idle_of_idle idle
        exact ⟨by simp [quiet], speech, idle⟩
      · rintro ⟨-, speech, idle⟩
        exact ⟨speech, idle⟩

/-- One step of a session that has its VAD to itself. -/
theorem TrackingLaw.step (unit : onnx.InUnit) {s t : TurnState Sample Rnn}
    {action : TurnAction Sample} (tracks : Tracks s.vad.state s.pipeline.currentState)
    (alone : action.Alone) (step : turnStep onnx config s action = some t) :
    TrackingLaw onnx config ⟨s, action, t⟩ := by
  cases action with
  | audio xs =>
      cases step
      exact ⟨tracks, nofun⟩
  | vadChunk env =>
      obtain ⟨-, rfl⟩ := turnStep_vadChunk.mp step
      exact .chunk unit env tracks
  | foreign xs => exact alone.elim

/-- **The pipeline tracks its VAD**, whatever the model answers, SmartTurn says and the clock
shows. -/
theorem trackingLaw_of_alone [Zero Sample] [Zero Rnn] (onnx : OnnxSession Sample Rnn)
    (config : TurnDetectorConfig) (vadConfig : VadConfig) (t₀ t₁ : ℤ)
    (actions : List (TurnAction Sample)) (unit : onnx.InUnit)
    (alone : ∀ action ∈ actions, action.Alone) :
    ∀ t ∈ (turnMachine onnx config vadConfig t₀ t₁).transitions
      (turnMachine onnx config vadConfig t₀ t₁).init actions, TrackingLaw onnx config t := by
  set M := turnMachine onnx config vadConfig t₀ t₁
  have meets : M.Meets (fun _ action => action.Alone) M.init actions :=
    fun t mem => alone t.action (M.action_mem_of_mem_transitions mem)
  intro t mem
  obtain ⟨tracks, alone, step⟩ := M.transitions_of_meets
    (motive := fun s => Tracks s.vad.state s.pipeline.currentState)
    (fun _ _ _ tracks alone step => (TrackingLaw.step unit tracks alone step).tracks)
    .idle meets t mem
  exact .step unit tracks alone step

theorem alone_script {env : ChunkEnv ℚ} {xs : List ℚ} :
    ∀ action ∈ script env xs, action.Alone := by
  intro action mem
  obtain ⟨x, -, mem⟩ := List.mem_flatMap.mp mem
  obtain rfl | rfl := List.mem_pair.mp mem <;> trivial

/-- A burst of speech and the silence that ends it, on a clock that stands still. -/
theorem trackingLaw_of_alone_segment :
    let history := (turnMachine loudness {} {} 0 0).transitions
      (turnMachine loudness {} {} 0 0).init (script (stillEnv 0) (segment {}))
    (∃ t ∈ history, t.after.vad.state = .speech) ∧ ∀ t ∈ history, TrackingLaw loudness {} t := by
  refine ⟨?_, trackingLaw_of_alone loudness {} {} 0 0 _ loudness_inUnit alone_script⟩
  obtain ⟨s, past, spoke, pause, last, run, history, ends⟩ :=
    exists_offset {} 0 0 (stillEnv 0) pauses_default
  rw [history]
  exact ⟨spoke, by simp, ends.speech⟩

end Saasy.ListeningEngine
