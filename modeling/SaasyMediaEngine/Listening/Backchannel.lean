import SaasyMediaEngine.Listening.Tracking

/-!
# Utterances that are too short

`handleSilenceDetected` discards an utterance shorter than `kMinUtteranceDurationMs`, but it
asks for the duration only on a pipeline that is still in `speech`.  A pause the pipeline has
mirrored as `silence` takes the other branch, which consults SmartTurn whatever the
duration.

`SpeechSegment` is a piece of a run from a `speech_started` to the VAD's first return to
`idle`, and `discarded_iff` says which of the short ones are discarded.

A segment is cut out of a run by the two chunks at its ends and by what must not happen between
them, so one run may have many, and nothing is assumed about the turns before it.  `OpenSince` is
the invariant inside a segment: the pipeline agrees with a VAD that is not back in `idle`, and has
kept the reading with which the turn was opened, which is what the last chunk compares its own with.

The last chunk decides.  From `speech` it discards, whatever it reads; from `silence` it asks
SmartTurn, and `Detection.discards_iff` says which answers leave the pipeline as a discarded
utterance would: an empty turn buffer, or a turn that is completed with nobody to hear of it.
-/

namespace Saasy.ListeningEngine

open Transition VadTurnPipeline

section Segment

variable {Sample Rnn : Type*}

/-- From a chunk that sends `speech_started` to the first one after it that leaves the VAD in
`idle`, with the readings of both.  What lies between them may be any number of chunks and pauses.
-/
structure SpeechSegment (onnx : OnnxSession Sample Rnn) (config : TurnDetectorConfig)
    (opening : Taken (TurnState Sample Rnn) (TurnAction Sample)) (env₀ : ChunkEnv Sample)
    (middle : List (Taken (TurnState Sample Rnn) (TurnAction Sample)))
    (closing : Taken (TurnState Sample Rnn) (TurnAction Sample)) (env₁ : ChunkEnv Sample) :
    Prop where
  opening_action : opening.action = .vadChunk env₀
  started : ∃ o ∈ emitted onnx config opening, o.isSpeechStarted = true
  inside : ∀ t ∈ middle, t.after.vad.state ≠ .idle
  closing_action : closing.action = .vadChunk env₁
  idle : closing.after.vad.state = .idle

/-- The time from the start of speech to the return of the VAD, as the two chunks read it, is
below the minimum duration of an utterance. -/
def ShorterThanUtterance (env₀ env₁ : ChunkEnv Sample) : Prop :=
  env₁.clock.speechDuration - env₀.clock.speechStart < kMinUtteranceDurationMs * 1000000

/-- Nothing is said about the end of speech or of a turn. -/
def Unannounced (outputs : List (TurnOutput Sample)) : Prop :=
  ∀ o ∈ outputs, o.isSpeechEnded = false ∧ o.isUserTurnComplete = false

/-- The pipeline is back where a turn starts. -/
def Reset (p : VadTurnPipeline Sample) : Prop :=
  p.currentState = .idle ∧ p.turnBuffer.isEmpty = true

/-- **The law** for the steps of one segment: no event but its start, and a pipeline as before it,
idle and with an empty turn buffer. -/
def Discarded (onnx : OnnxSession Sample Rnn) (config : TurnDetectorConfig)
    (segment : List (Taken (TurnState Sample Rnn) (TurnAction Sample)))
    (closing : Taken (TurnState Sample Rnn) (TurnAction Sample)) : Prop :=
  Unannounced (segment.flatMap (emitted onnx config)) ∧ Reset closing.after.pipeline

/-- SmartTurn answers, the turn is decided, and there is no event stream to say so. -/
def CompletesUnheard (config : TurnDetectorConfig) (p : VadTurnPipeline Sample)
    (env : ChunkEnv Sample) : Prop :=
  env.streamAtTurn = false ∧ 0 ≤ p.turnProbability env ∧ TurnDecided config p env

end Segment

variable {Sample Rnn : Type*} {onnx : OnnxSession Sample Rnn} {config : TurnDetectorConfig}
  {vadConfig : VadConfig}

theorem ShorterThanUtterance.durationMs_lt {env₀ env₁ : ChunkEnv Sample}
    (short : ShorterThanUtterance env₀ env₁) :
    durationMs (env₁.clock.speechDuration - env₀.clock.speechStart) < kMinUtteranceDurationMs := by
  unfold ShorterThanUtterance kMinUtteranceDurationMs at *
  rw [durationMs, Int.tdiv_eq_ediv]
  split_ifs
  · omega
  · have : Int.sign 1000000 = 1 := rfl
    omega

theorem unannounced_append {front back : List (TurnOutput Sample)} :
    Unannounced (front ++ back) ↔ Unannounced front ∧ Unannounced back :=
  List.forall_mem_append

theorem emitted_of_vadChunk {t : Taken (TurnState Sample Rnn) (TurnAction Sample)}
    {env : ChunkEnv Sample} (action : t.action = .vadChunk env) :
    emitted onnx config t = (t.before.processChunk onnx config env).2 := by
  rw [emitted, action]

/-! ### One reaction

The reaction that brings the pipeline back to `idle` comes in two forms.  Where the pipeline is in
`speech` it measures the duration and drops what is too short; where it mirrors a pause it runs a
detection, whatever the duration, and that is where a short utterance gets through. -/

theorem unannounced_send_complete {attached : Bool} {confidence : ℚ} {timestampMs : ℕ} :
    Unannounced (send attached (.userTurnComplete confidence timestampMs : TurnOutput Sample)) ↔
      attached = false := by
  cases attached <;> simp [Unannounced, TurnOutput.isUserTurnComplete]

/-- **A detection resets the pipeline in silence** on an empty buffer, or when the turn it
completes goes unheard.  A failed inference leaves its audio in the buffer, and an undecided turn
stays open. -/
theorem VadTurnPipeline.Detection.discards_iff {p q : VadTurnPipeline Sample}
    {env : ChunkEnv Sample} {outputs : List (TurnOutput Sample)}
    (detected : Detection config p env q outputs) :
    Unannounced outputs ∧ Reset q ↔
      p.turnBuffer.isEmpty = true ∨ CompletesUnheard config p env := by
  cases detected with
  | empty empty =>
      exact iff_of_true ⟨List.forall_mem_nil _, rfl, empty⟩ (.inl empty)
  | failed nonempty failed =>
      refine iff_of_false (fun reset => ?_) ?_
      · exact absurd reset.2.2 (by simp [nonempty])
      · rintro (empty | ⟨-, ok, -⟩)
        · simp [nonempty] at empty
        · exact absurd failed (not_lt.mpr ok)
  | complete nonempty ok decided =>
      rw [← List.singleton_append, unannounced_append, unannounced_send_complete]
      constructor
      · rintro ⟨⟨-, unattached⟩, -⟩
        exact .inr ⟨unattached, ok, decided⟩
      · rintro (empty | ⟨unattached, -, -⟩)
        · simp [nonempty] at empty
        · exact ⟨⟨by simp [Unannounced, TurnOutput.isSpeechEnded, TurnOutput.isUserTurnComplete],
            unattached⟩, rfl, rfl⟩
  | waiting nonempty ok undecided =>
      refine iff_of_false (fun reset => ?_) ?_
      · exact absurd reset.2.2 (by simp [nonempty])
      · rintro (empty | ⟨-, -, decided⟩)
        · simp [nonempty] at empty
        · exact undecided decided

/-- **The reaction to the VAD's return**, on an open turn that is too short: the filter is in
the `speech` branch only. -/
theorem VadTurnPipeline.Reaction.discards_iff {p q : VadTurnPipeline Sample}
    {env : ChunkEnv Sample} {outputs : List (TurnOutput Sample)}
    (reacted : Reaction config p env .idle q outputs) (opened : p.currentState ≠ .idle)
    (short : p.spokenMs env < kMinUtteranceDurationMs) :
    Unannounced outputs ∧ Reset q ↔
      p.currentState = .speech ∨ p.turnBuffer.isEmpty = true ∨ CompletesUnheard config p env := by
  cases reacted with
  | quiet idle => exact absurd idle opened
  | mirrored _ busy => exact absurd rfl busy
  | backchannel speech =>
      refine iff_of_true ⟨?_, rfl, rfl⟩ (.inl speech)
      simp [Unannounced, TurnOutput.isSpeechEnded, TurnOutput.isUserTurnComplete]
  | ended _ long => exact absurd short (not_lt.mpr long)
  | paused silence detected =>
      have notSpeech : p.currentState ≠ .speech := by simp [silence]
      rw [detected.discards_iff, or_iff_right notSpeech]

/-- While the VAD is not back, an open turn only follows it, and says nothing. -/
theorem VadTurnPipeline.Reaction.follows_of_busy {p q : VadTurnPipeline Sample}
    {env : ChunkEnv Sample} {v : VadState} {outputs : List (TurnOutput Sample)}
    (reacted : Reaction config p env v q outputs) (opened : p.currentState ≠ .idle)
    (busy : v ≠ .idle) :
    q.currentState = v ∧ q.speechStartTime = p.speechStartTime ∧ outputs = [] := by
  cases reacted with
  | quiet idle => exact absurd idle opened
  | started idle => exact absurd idle opened
  | mirrored => exact ⟨rfl, rfl, rfl⟩
  | _ => exact absurd rfl busy

/-! ### A segment

While the VAD is out of `idle` the pipeline can do nothing but follow it, so a segment is known by
its first and its last chunk.  `OpenSince` is what is true between the two. -/

/-- The turn that `env₀` opened, while the VAD is not back in `idle`: the pipeline is where the VAD
is, and remembers when the speech started. -/
structure OpenSince (env₀ : ChunkEnv Sample) (s : TurnState Sample Rnn) : Prop where
  busy : s.vad.state ≠ .idle
  agree : s.pipeline.currentState = s.vad.state
  since : s.pipeline.speechStartTime = env₀.clock.speechStart

theorem OpenSince.opened {env₀ : ChunkEnv Sample} {s : TurnState Sample Rnn}
    (inv : OpenSince env₀ s) : s.pipeline.currentState ≠ .idle :=
  inv.agree ▸ inv.busy

/-- The chunk that says `speech_started` opens a turn, and says nothing else. -/
theorem OpenSince.opening (unit : onnx.InUnit) {s : TurnState Sample Rnn} {env : ChunkEnv Sample}
    (started : ∃ o ∈ (s.processChunk onnx config env).2, o.isSpeechStarted = true) :
    OpenSince env (s.processChunk onnx config env).1 ∧
      Unannounced (s.processChunk onnx config env).2 := by
  obtain failed | ⟨vad, q, outputs, step, reacted, result⟩ := chunk_cases unit s env
  · rw [failed] at started
    obtain ⟨o, mem, -⟩ := started
    cases mem
  · rw [result] at started ⊢
    obtain ⟨o, mem, ho⟩ := started
    have kept : o ∈ outputs.filter TurnOutput.isSpeechStarted := List.mem_filter.mpr ⟨mem, ho⟩
    rw [reacted.filter_started] at kept
    split_ifs at kept with opens
    · generalize hv : vad.state = v at reacted opens
      obtain ⟨rfl, idle⟩ := opens
      cases reacted with
      | quiet _ silent => exact absurd rfl silent
      | started =>
          refine ⟨⟨by simp [hv], hv.symm, rfl⟩, ?_⟩
          unfold send Unannounced
          split_ifs <;> simp [TurnOutput.isSpeechEnded, TurnOutput.isUserTurnComplete]
      | mirrored opened => exact absurd idle opened
    · cases kept

/-- One step inside a segment. -/
theorem OpenSince.step (unit : onnx.InUnit) {env₀ : ChunkEnv Sample} {s t : TurnState Sample Rnn}
    {action : TurnAction Sample} (inv : OpenSince env₀ s) (alone : action.Alone)
    (busy : t.vad.state ≠ .idle) (step : turnStep onnx config s action = some t) :
    OpenSince env₀ t ∧ emitted onnx config ⟨s, action, t⟩ = [] := by
  cases action with
  | audio xs =>
      cases step
      exact ⟨⟨busy, inv.agree, inv.since⟩, rfl⟩
  | foreign xs => exact alone.elim
  | vadChunk env =>
      obtain ⟨-, rfl⟩ := turnStep_vadChunk.mp step
      show _ ∧ (s.processChunk onnx config env).2 = []
      obtain failed | ⟨vad, q, outputs, -, reacted, result⟩ := chunk_cases unit s env
      · rw [failed]
        exact ⟨⟨inv.busy, inv.agree, inv.since⟩, rfl⟩
      · rw [result] at busy ⊢
        obtain ⟨agree, since, silent⟩ := reacted.follows_of_busy inv.opened busy
        exact ⟨⟨busy, agree, since.trans inv.since⟩, silent⟩

/-- **The chunk that brings the VAD back**, on a segment that is too short: whether it discards it
is decided by the state in which it finds the pipeline. -/
theorem OpenSince.closing (unit : onnx.InUnit) {env₀ env₁ : ChunkEnv Sample}
    {s : TurnState Sample Rnn} (inv : OpenSince env₀ s)
    (idle : (s.processChunk onnx config env₁).1.vad.state = .idle)
    (short : ShorterThanUtterance env₀ env₁) :
    Unannounced (s.processChunk onnx config env₁).2 ∧
        Reset (s.processChunk onnx config env₁).1.pipeline ↔
      s.pipeline.currentState = .speech ∨ s.pipeline.turnBuffer.isEmpty = true ∨
        CompletesUnheard config s.pipeline env₁ := by
  obtain failed | ⟨vad, q, outputs, -, reacted, result⟩ := chunk_cases unit s env₁
  · rw [failed] at idle
    exact absurd idle inv.busy
  · rw [result] at idle ⊢
    rw [show vad.state = .idle from idle] at reacted
    have brief := short.durationMs_lt
    rw [← inv.since] at brief
    exact reacted.discards_iff inv.opened brief

/-- **Which short segments are discarded.**  Whatever the configuration, the probabilities,
SmartTurn and the clock: those on which the VAD goes from `speech` straight to `idle`, and
otherwise only those that leave no audio to analyse, or complete a turn nobody hears of. -/
theorem discarded_iff [Zero Sample] [Zero Rnn] (onnx : OnnxSession Sample Rnn)
    (config : TurnDetectorConfig) (vadConfig : VadConfig) (t₀ t₁ : ℤ)
    (actions : List (TurnAction Sample)) (unit : onnx.InUnit)
    (alone : ∀ action ∈ actions, action.Alone)
    {past middle rest : List (Taken (TurnState Sample Rnn) (TurnAction Sample))}
    {opening closing : Taken (TurnState Sample Rnn) (TurnAction Sample)}
    {env₀ env₁ : ChunkEnv Sample}
    (split : (turnMachine onnx config vadConfig t₀ t₁).transitions
      (turnMachine onnx config vadConfig t₀ t₁).init actions =
        past ++ opening :: (middle ++ closing :: rest))
    (segment : SpeechSegment onnx config opening env₀ middle closing env₁)
    (short : ShorterThanUtterance env₀ env₁) :
    Discarded onnx config (opening :: (middle ++ [closing])) closing ↔
      closing.before.pipeline.currentState = .speech ∨
        closing.before.pipeline.turnBuffer.isEmpty = true ∨
        CompletesUnheard config closing.before.pipeline env₁ := by
  set M := turnMachine onnx config vadConfig t₀ t₁
  have own : ∀ t ∈ middle, t.action.Alone := by
    intro t mem
    refine alone _ (M.action_mem_of_mem_transitions (s := M.init) (t := t) ?_)
    rw [split]
    simp [mem]
  obtain ⟨opens, later, stretch⟩ := M.after_of_split split
  rw [segment.opening_action] at opens
  obtain ⟨-, opened⟩ := turnStep_vadChunk.mp opens
  have started := segment.started
  rw [emitted_of_vadChunk segment.opening_action] at started
  obtain ⟨openSince, announced⟩ := OpenSince.opening unit started
  -- the turn is open before every later step of the segment
  obtain ⟨inside, before, closes⟩ := M.before_of_stretch (motive := OpenSince env₀) stretch.symm
    (opened ▸ openSince)
    fun t mem inv step => (inv.step unit (own t mem) (segment.inside t mem) step).1
  have silent : middle.flatMap (emitted onnx config) = [] := by
    rw [List.flatMap_eq_nil_iff]
    intro t mem
    obtain ⟨inv, step⟩ := inside t mem
    exact (inv.step unit (own t mem) (segment.inside t mem) step).2
  rw [segment.closing_action] at closes
  obtain ⟨-, closed⟩ := turnStep_vadChunk.mp closes
  have idle := segment.idle
  rw [← closed] at idle
  rw [Discarded, List.flatMap_cons, List.flatMap_append, silent, List.nil_append,
    List.flatMap_singleton, unannounced_append, emitted_of_vadChunk segment.opening_action,
    emitted_of_vadChunk segment.closing_action, and_iff_right announced, ← closed]
  exact before.closing unit idle short

/-! ### A short utterance that is not discarded

On a clock that stands still no utterance has any length, and the filter should discard them all.
The burst of speech is that of `Listening.Pauses`, whose last chunk finds the pipeline in
`silence`. -/

section Script

variable {t₀ t₁ : ℤ} {env : ChunkEnv ℚ}
  {past pause rest : List (Taken (TurnState ℚ ℚ) (TurnAction ℚ))}
  {spoke last : Taken (TurnState ℚ ℚ) (TurnAction ℚ)}

/-- A pause that ends before the pipeline's eyes closes a segment. -/
theorem EndsInPause.segment {actions : List (TurnAction ℚ)}
    (ends : EndsInPause config t₀ env spoke pause last) (attached : env.hasEventStream = true)
    (split : (turnMachine loudness config vadConfig t₀ t₁).transitions
      (turnMachine loudness config vadConfig t₀ t₁).init actions =
        past ++ spoke :: (pause ++ last :: rest)) :
    SpeechSegment loudness config spoke env pause last env := by
  obtain ⟨step, -⟩ := Machine.after_of_split _ split
  have tracks : Tracks spoke.before.vad.state spoke.before.pipeline.currentState := by
    rw [ends.quiet, ends.closed]
    exact .idle
  have alone : spoke.action.Alone := by
    rw [ends.spoke_action]
    trivial
  have law := TrackingLaw.step (t := spoke.after) loudness_inUnit tracks alone step
  have opens : OpensTurn spoke := ⟨by simp [ends.quiet], ends.speech, ends.closed⟩
  have started := law.started env ends.spoke_action
  rw [if_pos opens, (ChunkEnv.hasEventStream_eq_true.mp attached).1, send_true] at started
  have said : .speechStarted env.clock.speechStartedMs ∈ emitted loudness config spoke :=
    (List.mem_filter.mp (started ▸ List.mem_singleton_self _)).1
  exact ⟨ends.spoke_action, ⟨_, said, rfl⟩, ends.inside, ends.last_action, ends.idle⟩

/-- On a clock that stands still every segment is too short. -/
theorem shorterThanUtterance_stillEnv (time : ℤ) :
    ShorterThanUtterance (stillEnv time) (stillEnv time) := by
  simp [ShorterThanUtterance, stillEnv, kMinUtteranceDurationMs]

/-- Two loud chunks and ten quiet ones, SmartTurn unsure: the pipeline keeps waiting for the
turn to end. -/
theorem discarded_iff_segment :
    ∃ past opening middle closing,
      (turnMachine loudness {} {} 0 0).transitions (turnMachine loudness {} {} 0 0).init
          (script (stillEnv 0) (segment {})) = past ++ opening :: (middle ++ [closing]) ∧
      SpeechSegment loudness {} opening (stillEnv 0) middle closing (stillEnv 0) ∧
      ¬ Discarded loudness {} (opening :: (middle ++ [closing])) closing := by
  obtain ⟨s, past, opening, middle, closing, run, history, ends⟩ :=
    exists_offset {} 0 0 (stillEnv 0) pauses_default
  have segment := ends.segment rfl history
  refine ⟨past, opening, middle, closing, history, segment, fun discarded => ?_⟩
  obtain speech | empty | ⟨unattached, -⟩ := (discarded_iff loudness {} {} 0 0 _ loudness_inUnit
    alone_script history segment
    (shorterThanUtterance_stillEnv 0)).mp discarded
  · simp [ends.waiting] at speech
  · simp [ends.nonempty] at empty
  · cases unattached

/-- The same chunks with SmartTurn sure of itself: **an utterance of no duration at all
completes a turn.** -/
theorem turn_completed_by_backchannel :
    let env := { stillEnv 0 with infer := fun _ => some 1 }
    ∃ past opening middle closing,
      (turnMachine loudness {} {} 0 0).transitions (turnMachine loudness {} {} 0 0).init
          (script env (segment {})) = past ++ opening :: (middle ++ [closing]) ∧
      SpeechSegment loudness {} opening env middle closing env ∧ ShorterThanUtterance env env ∧
      .userTurnComplete 1 0 ∈ emitted loudness {} closing ∧
      ¬ Discarded loudness {} (opening :: (middle ++ [closing])) closing := by
  intro env
  obtain ⟨s, past, opening, middle, closing, run, history, ends⟩ :=
    exists_offset {} 0 0 env pauses_default
  obtain ⟨q, detected⟩ := ends.detected
  have complete : .userTurnComplete 1 0 ∈ emitted loudness {} closing := by
    generalize emitted loudness {} closing = outputs at detected ⊢
    have some : closing.before.pipeline.turnBuffer.buffer ≠ [] := by
      simpa [AudioTurnBuffer.isEmpty] using ends.nonempty
    have one : ({ closing.before.pipeline with vadAccumulator := [] } :
        VadTurnPipeline ℚ).turnProbability env = 1 := by
      simp [turnProbability, SmartTurnDetector.process, some, env]
    rw [detected.complete_of_decided ends.nonempty (by simp [one]) (.inl ?_), one]
    · simp [env, stillEnv]
    · rw [one]
      decide +kernel
  refine ⟨past, opening, middle, closing, history, ends.segment rfl history,
    shorterThanUtterance_stillEnv 0, complete, fun discarded => ?_⟩
  have silent := (discarded.1 _ (List.mem_flatMap_of_mem (by simp) complete)).2
  cases silent

end Script

end Saasy.ListeningEngine
