import SaasyMediaEngine.Listening.SoleUser

/-!
# How a pause reaches the pipeline

Between speech and `idle` the VAD goes through `silence`, for as long as its
silence counter is below `min_silence_duration_ms`.  What the pipeline makes of a
pause depends on whether it ever gets to see that state, so the configurations
fall into three classes:

* `min_silence_duration_ms ≤ 32`: one quiet chunk takes the VAD from `speech`
  straight to `idle` and the pipeline never mirrors a silence (`ShortSilence`);
* `NeverEnds`: no run takes the VAD out of `idle` and back (`NoReturn`);
* all others: some run gets the VAD back to `idle` through `silence`, with the
  pipeline in `silence` as well (`exists_pause`).

For the third class the run is written down once and for every configuration: `segment` has as many
loud chunks as speech takes to start and as many quiet ones as silence takes to end, and `script`
feeds them one by one to the model `loudness`, which goes by the last sample.  `Mirrored.fed` takes
the VAD and the pipeline through one chunk, and the rest is induction over the list.

All chunks of the run read the same `env`, and the pause is still timed by `Start`, so a law that
speaks of time depends on that one reading.  What the run shows about a law, an end of speech that
nobody reports or a turn that is closed too early, is left to the module of that law.
-/

namespace Saasy.ListeningEngine

open Transition VadTurnPipeline

variable {Sample Rnn : Type*} {onnx : OnnxSession Sample Rnn} {config : TurnDetectorConfig}
  {vadConfig : VadConfig}

/-! ### One quiet chunk ends speech

The VAD then goes from `speech` to `idle` in one chunk, and the pipeline never sees a pause to
mirror. -/

/-- The VAD is never in `silence`, and the pipeline is in `speech` exactly while the VAD is.  This
is what a minimum silence of one chunk comes to. -/
structure ShortSilence (vadConfig : VadConfig) (s : TurnState Sample Rnn) : Prop where
  config_eq : s.vad.config = vadConfig
  noPause : s.vad.state ≠ .silence
  counted : s.vad.state = .speech → s.vad.silenceDurationMs = 0
  opened : s.vad.state = .speech → s.pipeline.currentState = .speech
  closed : s.vad.state = .idle → s.pipeline.currentState ≠ .speech

theorem ShortSilence.start [Zero Sample] [Zero Rnn] (t₀ t₁ : ℤ) :
    ShortSilence vadConfig (⟨.create vadConfig, .start t₀ t₁⟩ : TurnState Sample Rnn) where
  config_eq := rfl
  noPause := by simp [SileroVad.create]
  counted := by simp [SileroVad.create]
  opened := by simp [SileroVad.create]
  closed := by simp [VadTurnPipeline.start]

theorem ShortSilence.bufferAudio {s : TurnState Sample Rnn} (inv : ShortSilence vadConfig s)
    (xs : List Sample) : ShortSilence vadConfig (s.bufferAudio xs) :=
  ⟨inv.config_eq, inv.noPause, inv.counted, inv.opened, inv.closed⟩

/-- With a minimum of at most one chunk there is no brief silence to go through. -/
theorem ShortSilence.vadStep {s : TurnState Sample Rnn} {vad : SileroVad Sample Rnn}
    (inv : ShortSilence vadConfig s) (short : vadConfig.minSilenceDurationMs ≤ 32)
    (step : VadStep s.vad vad) :
    vad.state ≠ .silence ∧ (vad.state = .speech → vad.silenceDurationMs = 0) := by
  cases step with
  | loud p le_one loud config state speech silence =>
      refine ⟨?_, fun _ => silence⟩
      rw [state]
      split_ifs <;> simp
  | stillIdle p nonneg quiet config idle state => simp [state]
  | pause p nonneg quiet config spoke brief state =>
      have speech : s.vad.state = .speech := by
        have := inv.noPause
        cases h : s.vad.state <;> simp_all
      rw [inv.counted speech, inv.config_eq] at brief
      exact absurd (by simpa using short) brief
  | offset p nonneg quiet config spoke enough state => simp [state]

variable (config) in
theorem ShortSilence.processChunk {s : TurnState Sample Rnn} (inv : ShortSilence vadConfig s)
    (unit : onnx.InUnit) (short : vadConfig.minSilenceDurationMs ≤ 32)
    (env : ChunkEnv Sample) :
    ShortSilence vadConfig (s.processChunk onnx config env).1 := by
  rcases chunk_cases unit s env with failed | ⟨vad, q, outputs, step, reacted, result⟩
  · rw [failed]
    exact ⟨inv.config_eq, inv.noPause, inv.counted, inv.opened, inv.closed⟩
  · rw [result]
    obtain ⟨noPause, counted⟩ := inv.vadStep short step
    exact ⟨step.config_eq.trans inv.config_eq, noPause, counted,
      fun speech => reacted.currentState_of_speech speech,
      fun idle => reacted.currentState_of_idle idle⟩

/-! ### The VAD never comes back

Three reasons for it, of which the last is an odd one: the counters are multiples of 32, and
`uint32_t` wraps to zero before it gets to a minimum above its last multiple. -/

/-- No run takes the VAD through a segment of speech: every chunk is loud, none
is, or one of the two counters, which only take multiples of 32, stays below its
minimum even at the wrap. -/
def NeverEnds (vadConfig : VadConfig) : Prop :=
  vadConfig.threshold ≤ 0 ∨ 1 < vadConfig.threshold ∨
    2 ^ 32 - 32 < vadConfig.minSpeechDurationMs.toNat ∨
      2 ^ 32 - 32 < vadConfig.minSilenceDurationMs.toNat

/-- The two state machines agree, and the states that `NeverEnds` rules out are not reached.  The
counters are multiples of 32, which is why a minimum above `2 ^ 32 - 32` is never met. -/
structure NoReturn (vadConfig : VadConfig) (s : TurnState Sample Rnn) : Prop where
  config_eq : s.vad.config = vadConfig
  agree : s.pipeline.currentState = s.vad.state
  speech_dvd : s.vad.speechDurationMs.toNat % 32 = 0
  silence_dvd : s.vad.silenceDurationMs.toNat % 32 = 0
  neverLoud : 1 < vadConfig.threshold ∨
    2 ^ 32 - 32 < vadConfig.minSpeechDurationMs.toNat → s.vad.state = .idle

theorem NoReturn.start [Zero Sample] [Zero Rnn] (t₀ t₁ : ℤ) :
    NoReturn vadConfig (⟨.create vadConfig, .start t₀ t₁⟩ : TurnState Sample Rnn) where
  config_eq := rfl
  agree := rfl
  speech_dvd := by simp [SileroVad.create]
  silence_dvd := by simp [SileroVad.create]
  neverLoud := fun _ => rfl

theorem NoReturn.bufferAudio {s : TurnState Sample Rnn} (inv : NoReturn vadConfig s)
    (xs : List Sample) : NoReturn vadConfig (s.bufferAudio xs) :=
  ⟨inv.config_eq, inv.agree, inv.speech_dvd, inv.silence_dvd, inv.neverLoud⟩

/-- A counter one chunk on is still a multiple of 32, also after a wrap. -/
theorem add_chunk_mod {n : UInt32} (dvd : n.toNat % 32 = 0) : (n + 32).toNat % 32 = 0 := by
  rw [UInt32.toNat_add]
  have : (32 : UInt32).toNat = 32 := rfl
  omega

/-- A multiple of 32 below `2 ^ 32` is at most `2 ^ 32 - 32`. -/
theorem lt_of_mod {n m : UInt32} (dvd : n.toNat % 32 = 0) (large : 2 ^ 32 - 32 < m.toNat) :
    ¬ m ≤ n := by
  rw [UInt32.le_iff_toNat_le]
  have := n.toNat_lt
  omega

/-- What a chunk does under `NeverEnds`: the VAD stays out of `idle` once it has
left it, and otherwise moves as it may. -/
theorem NoReturn.vadStep {s : TurnState Sample Rnn} {vad : SileroVad Sample Rnn}
    (inv : NoReturn vadConfig s) (never : NeverEnds vadConfig) (step : VadStep s.vad vad) :
    (s.vad.state ≠ .idle → vad.state ≠ .idle) ∧
      (s.vad.state = .idle → vad.state ≠ .silence) ∧
      vad.speechDurationMs.toNat % 32 = 0 ∧ vad.silenceDurationMs.toNat % 32 = 0 ∧
      (1 < vadConfig.threshold ∨ 2 ^ 32 - 32 < vadConfig.minSpeechDurationMs.toNat →
        vad.state = .idle) := by
  cases step with
  | loud p le_one loud config state speech silence =>
      have advanced := add_chunk_mod inv.speech_dvd
      rw [inv.config_eq] at loud state
      refine ⟨fun busy => ?_, fun _ => ?_, speech ▸ advanced, by simp [silence], ?_⟩
      · simp [state, busy]
      · rw [state]
        split_ifs <;> simp
      · rintro (high | large)
        · linarith
        · have idle := inv.neverLoud (.inr large)
          rw [state, if_pos ⟨idle, lt_of_mod advanced large⟩]
  | stillIdle p nonneg quiet config idle state speech silence =>
      have advanced := add_chunk_mod inv.silence_dvd
      exact ⟨fun busy => absurd idle busy, by simp [state], speech ▸ inv.speech_dvd,
        silence ▸ advanced, fun _ => state⟩
  | pause p nonneg quiet config spoke brief state speech silence =>
      have advanced := add_chunk_mod inv.silence_dvd
      exact ⟨by simp [state], fun idle => absurd idle spoke, speech ▸ inv.speech_dvd,
        silence ▸ advanced, fun quietly => absurd (inv.neverLoud quietly) spoke⟩
  | offset p nonneg quiet config spoke enough state speech silence =>
      have advanced := add_chunk_mod inv.silence_dvd
      rw [inv.config_eq] at quiet enough
      exfalso
      rcases never with low | high | large | large
      · linarith
      · exact spoke (inv.neverLoud (.inl high))
      · exact spoke (inv.neverLoud (.inr large))
      · exact lt_of_mod advanced large enough

variable (config) in
/-- Under `NeverEnds` a chunk keeps the invariant, does not bring the VAD back,
and at most opens a turn. -/
theorem NoReturn.processChunk {s : TurnState Sample Rnn} (inv : NoReturn vadConfig s)
    (unit : onnx.InUnit) (never : NeverEnds vadConfig) (env : ChunkEnv Sample) :
    NoReturn vadConfig (s.processChunk onnx config env).1 ∧
      (s.vad.state ≠ .idle → (s.processChunk onnx config env).1.vad.state ≠ .idle) ∧
      ((s.processChunk onnx config env).2 = [] ∨
        (s.processChunk onnx config env).2 =
          send env.streamAtSpeech (.speechStarted env.clock.speechStartedMs)) := by
  rcases chunk_cases unit s env with failed | ⟨vad, q, outputs, step, reacted, result⟩
  · rw [failed]
    exact ⟨⟨inv.config_eq, inv.agree, inv.speech_dvd, inv.silence_dvd, inv.neverLoud⟩,
      id, .inl rfl⟩
  · rw [result]
    obtain ⟨busy, noPause, speech_dvd, silence_dvd, neverLoud⟩ := inv.vadStep never step
    suffices h : q.currentState = vad.state ∧
        (outputs = [] ∨
          outputs = send env.streamAtSpeech (.speechStarted env.clock.speechStartedMs)) from
      ⟨⟨step.config_eq.trans inv.config_eq, h.1, speech_dvd, silence_dvd, neverLoud⟩, busy, h.2⟩
    have agree := inv.agree
    generalize vad.state = v at reacted busy noPause ⊢
    cases reacted with
    | quiet idle silent =>
        have := noPause (agree ▸ idle)
        refine ⟨?_, .inl rfl⟩
        cases v <;> simp_all
    | started => exact ⟨rfl, .inr rfl⟩
    | mirrored => exact ⟨rfl, .inl rfl⟩
    | backchannel speech => exact absurd rfl (busy (by simp_all))
    | ended speech => exact absurd rfl (busy (by simp_all))
    | paused silence => exact absurd rfl (busy (by simp_all))

/-! ### A pause the pipeline sees

The runs of the third class are driven by hand: `loudness` is a model that calls
a chunk speech when its last sample is `1`, and `script` feeds one chunk of equal
samples after the other, each under the same readings. -/

/-- A model that looks at the last sample only. -/
def loudness : OnnxSession ℚ ℚ :=
  fun input _ => some (if input.getLast? = some 1 then 1 else 0, 0)

theorem loudness_inUnit : loudness.InUnit := by
  intro input rnn p r h
  simp only [loudness, Option.some.injEq, Prod.mk.injEq] at h
  obtain ⟨rfl, -⟩ := h
  split_ifs <;> norm_num

/-- One call's worth of audio, and its chunk. -/
def feed (env : ChunkEnv ℚ) (x : ℚ) : List (TurnAction ℚ) :=
  [.audio (List.replicate kChunkSize x), .vadChunk env]

def script (env : ChunkEnv ℚ) (xs : List ℚ) : List (TurnAction ℚ) := xs.flatMap (feed env)

theorem script_append (env : ChunkEnv ℚ) (xs ys : List ℚ) :
    script env (xs ++ ys) = script env xs ++ script env ys := List.flatMap_append

theorem script_singleton (env : ChunkEnv ℚ) (x : ℚ) : script env [x] = feed env x := by
  simp [script]

/-- The VAD and the pipeline agree on `v`, the counters stand at `speech` and
`silence`, and the silence has not been timed since `Start`. -/
structure Mirrored (vadConfig : VadConfig) (t₀ : ℤ) (v : VadState) (speech silence : ℕ)
    (s : TurnState ℚ ℚ) : Prop where
  config_eq : s.vad.config = vadConfig
  state_eq : s.vad.state = v
  speech_eq : s.vad.speechDurationMs.toNat = speech
  silence_eq : s.vad.silenceDurationMs.toNat = silence
  agree : s.pipeline.currentState = v
  silenceStart : s.pipeline.silenceStartTime = t₀
  drained : s.pipeline.vadAccumulator = []

/-- The probability `loudness` gives a chunk of `x`s. -/
def loudnessOf (x : ℚ) : ℚ := if x = 1 then 1 else 0

variable (config) in
/-- A chunk that arrives on an empty accumulator, seen by `loudness`. -/
theorem processChunk_loudness {s : TurnState ℚ ℚ} (drained : s.pipeline.vadAccumulator = [])
    {chunk : List ℚ} (size : chunk.length = kChunkSize) {x : ℚ} (last : chunk.getLast? = some x)
    (env : ChunkEnv ℚ) :
    ∃ context : List ℚ,
      let vad := { s.vad with stateTensor := (0 : ℚ), contextBuffer := context }.updateState
        (loudnessOf x)
      let p := { s.pipeline with
        turnBuffer := s.pipeline.turnBuffer.append chunk
        vadAccumulator := [] }
      (s.bufferAudio chunk).processChunk loudness config env =
        (⟨vad, (p.observe config vad.state env).1⟩, (p.observe config vad.state env).2) := by
  have take : chunk.take kChunkSize = chunk := List.take_of_length_le size.le
  have drop : chunk.drop kChunkSize = [] := List.drop_eq_nil_of_le size.le
  have value : loudness (s.vad.contextBuffer ++ chunk) s.vad.stateTensor =
      some (loudnessOf x, 0) := by
    simp [loudness, loudnessOf, List.getLast?_append, last]
  have nonneg : ¬ loudnessOf x < 0 := by
    unfold loudnessOf
    split_ifs <;> norm_num
  refine ⟨(s.vad.contextBuffer ++ chunk).drop
    ((s.vad.contextBuffer ++ chunk).length - kContextSamples), ?_⟩
  simp only [TurnState.processChunk, TurnState.bufferAudio, drained, List.nil_append, take, drop,
    VadTurnPipeline.processVadChunk, SileroVad.process_of_some size value, nonneg, if_false]

theorem length_replicate_chunk (x : ℚ) :
    (List.replicate kChunkSize x).length = kChunkSize := List.length_replicate

theorem getLast?_replicate_chunk (x : ℚ) :
    (List.replicate kChunkSize x).getLast? = some x := by
  rw [List.getLast?_replicate, if_neg (by decide)]

/-- A reaction that neither ends a turn nor invents a silence only mirrors. -/
theorem mirrors {p q : VadTurnPipeline Sample} {env : ChunkEnv Sample} {v' : VadState}
    {outputs : List (TurnOutput Sample)} (reacted : Reaction config p env v' q outputs)
    (goesOn : p.currentState ≠ .idle → v' ≠ .idle)
    (fresh : p.currentState = .idle → v' ≠ .silence) :
    q.currentState = v' ∧ q.silenceStartTime = p.silenceStartTime ∧
      q.vadAccumulator = p.vadAccumulator := by
  cases reacted with
  | quiet idle silent =>
      have := fresh idle
      refine ⟨?_, rfl, rfl⟩
      cases v' <;> simp_all
  | started => exact ⟨rfl, rfl, rfl⟩
  | mirrored => exact ⟨rfl, rfl, rfl⟩
  | backchannel speech => exact absurd rfl (goesOn (by simp [speech]))
  | ended speech => exact absurd rfl (goesOn (by simp [speech]))
  | paused silence => exact absurd rfl (goesOn (by simp [silence]))

/-- **One scripted chunk.**  If `updateState` takes the VAD from `v` to `v'`
without ending speech, the pipeline follows it. -/
theorem Mirrored.fed {t₀ t₁ : ℤ} {v v' : VadState} {speech silence speech' silence' : ℕ}
    {s : TurnState ℚ ℚ} (before : Mirrored vadConfig t₀ v speech silence s) (x : ℚ)
    (env : ChunkEnv ℚ) (goesOn : v ≠ .idle → v' ≠ .idle) (fresh : v = .idle → v' ≠ .silence)
    (update : ∀ vad : SileroVad ℚ ℚ, vad.config = vadConfig → vad.state = v →
      vad.speechDurationMs.toNat = speech → vad.silenceDurationMs.toNat = silence →
      (vad.updateState (loudnessOf x)).state = v' ∧
        (vad.updateState (loudnessOf x)).speechDurationMs.toNat = speech' ∧
        (vad.updateState (loudnessOf x)).silenceDurationMs.toNat = silence') :
    ∃ t, (turnMachine loudness config vadConfig t₀ t₁).run s (feed env x) = some t ∧
      Mirrored vadConfig t₀ v' speech' silence' t := by
  have last := getLast?_replicate_chunk x
  have size := length_replicate_chunk x
  rw [feed]
  generalize List.replicate kChunkSize x = chunk at last size
  obtain ⟨context, processed⟩ := processChunk_loudness config before.drained size
    last env
  obtain ⟨hstate, hspeech, hsilence⟩ := update
    { s.vad with stateTensor := (0 : ℚ), contextBuffer := context }
    before.config_eq before.state_eq before.speech_eq before.silence_eq
  have full : kChunkSize ≤ (s.bufferAudio chunk).pipeline.vadAccumulator.length := by
    simp [TurnState.bufferAudio, before.drained, size]
  have step : turnStep loudness config (s.bufferAudio chunk) (.vadChunk env) =
      some ((s.bufferAudio chunk).processChunk loudness config env).1 :=
    turnStep_vadChunk.mpr ⟨full, rfl⟩
  refine ⟨_, Machine.run_cons_eq_some _ |>.mpr ⟨s.bufferAudio chunk, rfl,
    Machine.run_cons_eq_some _ |>.mpr ⟨_, step, rfl⟩⟩, ?_⟩
  rw [processed]
  obtain ⟨agree, timed, drained⟩ := mirrors
    (reaction config
      { s.pipeline with turnBuffer := s.pipeline.turnBuffer.append chunk, vadAccumulator := [] }
      _ env)
    (fun busy => hstate ▸ goesOn (by simpa [before.agree] using busy))
    (fun idle => hstate ▸ fresh (by simpa [before.agree] using idle))
  exact ⟨by simpa using before.config_eq, hstate, hspeech, hsilence, agree.trans hstate,
    timed.trans before.silenceStart, drained⟩

/-- The VAD states of one scripted chunk are those before and after it. -/
theorem state_of_mem_feed {t₀ t₁ : ℤ} {s t : TurnState ℚ ℚ} {x : ℚ} {env : ChunkEnv ℚ}
    (run : (turnMachine loudness config vadConfig t₀ t₁).run s (feed env x) = some t)
    {taken : Taken (TurnState ℚ ℚ) (TurnAction ℚ)}
    (mem : taken ∈ (turnMachine loudness config vadConfig t₀ t₁).transitions s (feed env x)) :
    taken.after.vad.state = s.vad.state ∨ taken.after.vad.state = t.vad.state := by
  set M := turnMachine loudness config vadConfig t₀ t₁
  obtain ⟨b, buffered, rest⟩ := M.run_cons_eq_some.mp run
  obtain ⟨r, chunk, last⟩ := M.run_cons_eq_some.mp rest
  obtain rfl : r = t := by simpa using last
  rw [feed, M.transitions_cons _ buffered, M.transitions_cons _ chunk] at mem
  obtain rfl : s.bufferAudio (List.replicate kChunkSize x) = b := Option.some.inj buffered
  obtain rfl | rfl := List.mem_pair.mp mem
  · exact .inl rfl
  · exact .inr rfl

/-- The configurations of the third class: a threshold that loud chunks reach and quiet ones do
not, minima that the counters get to, and a silence of more than one chunk. -/
structure Pauses (vadConfig : VadConfig) : Prop where
  threshold_pos : 0 < vadConfig.threshold
  threshold_le : vadConfig.threshold ≤ 1
  speech_le : vadConfig.minSpeechDurationMs.toNat ≤ 2 ^ 32 - 32
  silence_gt : 32 < vadConfig.minSilenceDurationMs.toNat
  silence_le : vadConfig.minSilenceDurationMs.toNat ≤ 2 ^ 32 - 32

theorem pauses_default : Pauses {} :=
  ⟨by norm_num, by norm_num, by decide, by decide, by decide⟩

/-- The three classes cover every configuration. -/
theorem pauses_of_not {vadConfig : VadConfig}
    (long : ¬ vadConfig.minSilenceDurationMs ≤ 32) (ends : ¬ NeverEnds vadConfig) :
    Pauses vadConfig := by
  unfold NeverEnds at ends
  push Not at ends
  obtain ⟨pos, le, speech, silence⟩ := ends
  refine ⟨pos, le, speech, ?_, silence⟩
  rw [UInt32.le_iff_toNat_le] at long
  simpa using long

/-- A counter that does not wrap on its next chunk. -/
theorem toNat_add_chunk {n : UInt32} (small : n.toNat < 2 ^ 32 - 32) :
    (n + 32).toNat = n.toNat + 32 := by
  rw [UInt32.toNat_add]
  have : (32 : UInt32).toNat = 32 := rfl
  omega

section Script

variable (config) {t₀ : ℤ} (t₁ : ℤ) (env : ChunkEnv ℚ)

/-- A loud chunk on an idle VAD: speech starts once the counter has reached its
minimum. -/
theorem Mirrored.loud (pauses : Pauses vadConfig) {n : ℕ} {s : TurnState ℚ ℚ}
    (before : Mirrored vadConfig t₀ .idle n 0 s) (small : n < 2 ^ 32 - 32) :
    ∃ t, (turnMachine loudness config vadConfig t₀ t₁).run s (feed env 1) = some t ∧
      Mirrored vadConfig t₀
        (if vadConfig.minSpeechDurationMs.toNat ≤ n + 32 then .speech else .idle) (n + 32) 0 t := by
  refine before.fed 1 env (by simp) (fun _ => by split_ifs <;> simp) ?_
  intro vad hconfig hstate hspeech hsilence
  have loud : vad.config.threshold ≤ loudnessOf 1 := by
    rw [hconfig, loudnessOf, if_pos rfl]
    exact pauses.threshold_le
  have advanced : (vad.speechDurationMs + 32).toNat = n + 32 := by
    rw [toNat_add_chunk (hspeech ▸ small), hspeech]
  rw [SileroVad.updateState_of_le loud]
  refine ⟨?_, advanced, rfl⟩
  simp only [hstate, hconfig, UInt32.le_iff_toNat_le, advanced, true_and]
  split_ifs <;> simp_all

/-- A quiet chunk during speech or a brief silence that is still too short. -/
theorem Mirrored.quiet (pauses : Pauses vadConfig) {v : VadState} {speech n : ℕ}
    {s : TurnState ℚ ℚ} (before : Mirrored vadConfig t₀ v speech n s) (busy : v ≠ .idle)
    (brief : n + 32 < vadConfig.minSilenceDurationMs.toNat) :
    ∃ t, (turnMachine loudness config vadConfig t₀ t₁).run s (feed env 0) = some t ∧
      Mirrored vadConfig t₀ .silence speech (n + 32) t := by
  refine before.fed 0 env (by simp) (fun idle => absurd idle busy) ?_
  intro vad hconfig hstate hspeech hsilence
  have quiet : loudnessOf 0 < vad.config.threshold := by
    rw [hconfig, loudnessOf, if_neg (by norm_num)]
    exact pauses.threshold_pos
  have advanced : (vad.silenceDurationMs + 32).toNat = n + 32 := by
    have := pauses.silence_le
    rw [toNat_add_chunk (by omega), hsilence]
  have short : ¬ vad.config.minSilenceDurationMs ≤ vad.silenceDurationMs + 32 := by
    rw [UInt32.le_iff_toNat_le, advanced, hconfig]
    omega
  rw [SileroVad.updateState_of_lt quiet, if_neg (hstate ▸ busy), if_neg short]
  exact ⟨rfl, hspeech, advanced⟩

variable (t₀) in
/-- Loud chunks up to the one that starts speech. -/
theorem run_idle (pauses : Pauses vadConfig) (i : ℕ)
    (below : i = 0 ∨ 32 * i < vadConfig.minSpeechDurationMs.toNat) :
    ∃ s, (turnMachine loudness config vadConfig t₀ t₁).run
        (turnMachine loudness config vadConfig t₀ t₁).init
          (script env (List.replicate i 1)) = some s ∧
      Mirrored vadConfig t₀ .idle (32 * i) 0 s := by
  induction i with
  | zero => exact ⟨_, rfl, ⟨rfl, rfl, rfl, rfl, rfl, rfl, rfl⟩⟩
  | succ i ih =>
      have bound := pauses.speech_le
      obtain ⟨s, run, before⟩ := ih (by omega)
      obtain ⟨t, step, after⟩ := before.loud config t₁ env pauses
        (by omega)
      refine ⟨t, ?_, ?_⟩
      · rw [List.replicate_succ', script_append, script_singleton, Machine.run_append_eq_some]
        exact ⟨s, run, step⟩
      · rw [if_neg (by omega)] at after
        exact after

/-- Quiet chunks short of the one that ends the pause. -/
theorem run_silence (pauses : Pauses vadConfig) {speech : ℕ} {s : TurnState ℚ ℚ}
    (start : Mirrored vadConfig t₀ .speech speech 0 s) (i : ℕ)
    (below : 32 * (i + 1) < vadConfig.minSilenceDurationMs.toNat) :
    ∃ t, (turnMachine loudness config vadConfig t₀ t₁).run s
        (script env (List.replicate (i + 1) 0)) = some t ∧
      Mirrored vadConfig t₀ .silence speech (32 * (i + 1)) t ∧
      ∀ taken ∈ (turnMachine loudness config vadConfig t₀ t₁).transitions s
        (script env (List.replicate (i + 1) 0)), taken.after.vad.state ≠ .idle := by
  induction i with
  | zero =>
      obtain ⟨t, step, after⟩ := start.quiet config t₁ env pauses
        (by simp) (by omega)
      rw [List.replicate_one, script_singleton]
      refine ⟨t, step, after, fun taken mem => ?_⟩
      obtain same | same := state_of_mem_feed step mem
      · simp [same, start.state_eq]
      · simp [same, after.state_eq]
  | succ i ih =>
      obtain ⟨s', run, before, inside⟩ := ih (by omega)
      obtain ⟨t, step, after⟩ := before.quiet config t₁ env pauses
        (by simp) (by omega)
      rw [List.replicate_succ', script_append, script_singleton]
      refine ⟨t, (Machine.run_append_eq_some _).mpr ⟨s', run, step⟩, after, fun taken mem => ?_⟩
      rw [Machine.transitions_append _ _ run] at mem
      obtain old | new := List.mem_append.mp mem
      · exact inside taken old
      · obtain same | same := state_of_mem_feed step new
        · simp [same, before.state_eq]
        · simp [same, after.state_eq]

/-- One burst of speech, as short as the configuration allows, and the silence
that ends it. -/
def segment (vadConfig : VadConfig) : List ℚ :=
  List.replicate ((vadConfig.minSpeechDurationMs.toNat - 1) / 32 + 1) 1 ++
    List.replicate ((vadConfig.minSilenceDurationMs.toNat - 1) / 32 + 1) 0

variable (t₀) in
/-- **A pause the pipeline sees.**  In the third class `segment` starts speech and
then keeps the VAD and the pipeline in `silence`, one quiet chunk short of its
end, with the silence still timed by `Start`. -/
theorem exists_pause (pauses : Pauses vadConfig) :
    ∃ front back r s t speech n, segment vadConfig = front ++ [1] ++ back ++ [0] ∧
      (turnMachine loudness config vadConfig t₀ t₁).run
        (turnMachine loudness config vadConfig t₀ t₁).init (script env front) = some r ∧
      r.vad.state = .idle ∧ r.pipeline.currentState = .idle ∧
      (turnMachine loudness config vadConfig t₀ t₁).run r (feed env 1) = some s ∧
      s.vad.state = .speech ∧
      (turnMachine loudness config vadConfig t₀ t₁).run s (script env back) = some t ∧
      (∀ taken ∈ (turnMachine loudness config vadConfig t₀ t₁).transitions s (script env back),
        taken.after.vad.state ≠ .idle) ∧
      Mirrored vadConfig t₀ .silence speech n t ∧
      vadConfig.minSilenceDurationMs.toNat ≤ n + 32 ∧ n + 32 ≤ 2 ^ 32 - 32 := by
  have speech_le := pauses.speech_le
  have silence_gt := pauses.silence_gt
  have silence_le := pauses.silence_le
  set i := (vadConfig.minSpeechDurationMs.toNat - 1) / 32 with hi
  set j := (vadConfig.minSilenceDurationMs.toNat - 1) / 32 - 1 with hj
  obtain ⟨r, idle, before⟩ := run_idle config t₀ t₁ env pauses i (by omega)
  obtain ⟨s, step, speaking⟩ := before.loud config t₁ env pauses
    (by omega)
  rw [if_pos (by omega)] at speaking
  obtain ⟨t, silence, paused, inside⟩ := run_silence config t₁ env pauses speaking j (by omega)
  refine ⟨List.replicate i 1, List.replicate (j + 1) 0, r, s, t, _, _, ?_, idle, before.state_eq,
    before.agree, step, speaking.state_eq, silence, inside, paused, by omega, by omega⟩
  have length : (vadConfig.minSilenceDurationMs.toNat - 1) / 32 = j + 1 := by omega
  rw [segment, ← hi, length, List.replicate_succ' (n := i), List.replicate_succ' (n := j + 1)]
  simp

/-- A chunk that opens a turn, the steps after it during which the VAD stays out of `idle`,
and the chunk that takes it from `silence` back there: it finds the pipeline in `silence`
too, with audio in its buffer and the silence timed by `Start`, and all it does is a SmartTurn
detection. -/
structure EndsInPause (config : TurnDetectorConfig) (t₀ : ℤ) (env : ChunkEnv ℚ)
    (spoke : Taken (TurnState ℚ ℚ) (TurnAction ℚ))
    (pause : List (Taken (TurnState ℚ ℚ) (TurnAction ℚ)))
    (last : Taken (TurnState ℚ ℚ) (TurnAction ℚ)) : Prop where
  spoke_action : spoke.action = .vadChunk env
  quiet : spoke.before.vad.state = .idle
  closed : spoke.before.pipeline.currentState = .idle
  speech : spoke.after.vad.state = .speech
  inside : ∀ taken ∈ pause, taken.after.vad.state ≠ .idle
  last_action : last.action = .vadChunk env
  silence : last.before.vad.state = .silence
  idle : last.after.vad.state = .idle
  waiting : last.before.pipeline.currentState = .silence
  nonempty : last.before.pipeline.turnBuffer.isEmpty = false
  timed : last.before.pipeline.silenceStartTime = t₀
  detected : ∃ q, Detection config { last.before.pipeline with vadAccumulator := [] } env q
    (emitted loudness config last)

/-- The quiet chunk that ends the pause: the pipeline, in `silence` like the VAD,
consults SmartTurn on a buffer that is not empty. -/
theorem Mirrored.offset (pauses : Pauses vadConfig) {speech n : ℕ} {s : TurnState ℚ ℚ}
    (before : Mirrored vadConfig t₀ .silence speech n s)
    (enough : vadConfig.minSilenceDurationMs.toNat ≤ n + 32) (small : n + 32 ≤ 2 ^ 32 - 32) :
    ∃ b t,
      (turnMachine loudness config vadConfig t₀ t₁).step s
        (.audio (List.replicate kChunkSize 0)) = some b ∧
      (turnMachine loudness config vadConfig t₀ t₁).step b (.vadChunk env) = some t ∧
      b.vad.state = .silence ∧ t.vad.state = .idle ∧
      b.pipeline.currentState = .silence ∧ b.pipeline.turnBuffer.isEmpty = false ∧
      b.pipeline.silenceStartTime = t₀ ∧
      ∃ q, Detection config { b.pipeline with vadAccumulator := [] } env q
        (emitted loudness config ⟨b, .vadChunk env, t⟩) := by
  have last := getLast?_replicate_chunk 0
  have size := length_replicate_chunk 0
  generalize List.replicate kChunkSize (0 : ℚ) = chunk at last size ⊢
  obtain ⟨context, processed⟩ := processChunk_loudness config before.drained size
    last env
  set vad : SileroVad ℚ ℚ := { s.vad with stateTensor := (0 : ℚ), contextBuffer := context }
  set p : VadTurnPipeline ℚ :=
    { s.pipeline with turnBuffer := s.pipeline.turnBuffer.append chunk, vadAccumulator := [] }
  have full : kChunkSize ≤ (s.bufferAudio chunk).pipeline.vadAccumulator.length := by
    simp [TurnState.bufferAudio, before.drained, size]
  have quiet : loudnessOf 0 < vad.config.threshold := by
    rw [show vad.config = vadConfig from before.config_eq, loudnessOf, if_neg (by norm_num)]
    exact pauses.threshold_pos
  have advanced : (vad.silenceDurationMs + 32).toNat = n + 32 := by
    have : vad.silenceDurationMs.toNat = n := before.silence_eq
    rw [toNat_add_chunk (by omega), this]
  have idle : (vad.updateState (loudnessOf 0)).state = .idle := by
    rw [SileroVad.updateState_of_lt quiet, if_neg (by simp [vad, before.state_eq]), if_pos]
    rw [UInt32.le_iff_toNat_le, advanced, show vad.config = vadConfig from before.config_eq]
    exact enough
  have silence : p.currentState = .silence := before.agree
  have nonempty : p.turnBuffer.isEmpty = false := by
    refine AudioTurnBuffer.isEmpty_append (fun none => ?_) _
    rw [none] at size
    cases size
  have reacted := reaction config p .idle env
  dsimp only at processed
  rw [idle] at processed
  refine ⟨s.bufferAudio chunk, _, rfl, turnStep_vadChunk.mpr ⟨full, rfl⟩, before.state_eq,
    ?_, silence, nonempty, before.silenceStart, (p.observe config .idle env).1, ?_⟩
  · rw [processed]
    exact idle
  have emits : emitted loudness config ⟨s.bufferAudio chunk, .vadChunk env,
      ((s.bufferAudio chunk).processChunk loudness config env).1⟩ =
        (p.observe config .idle env).2 := congrArg Prod.snd processed
  rw [emits]
  show Detection config p env _ _
  generalize (p.observe config .idle env).1 = q, (p.observe config .idle env).2 = outputs
    at reacted
  cases reacted with
  | quiet wrong => simp [silence] at wrong
  | mirrored _ busy => exact absurd rfl busy
  | backchannel wrong => simp [silence] at wrong
  | ended wrong => simp [silence] at wrong
  | paused _ detected => exact detected

variable (t₀) in
/-- **A pause that ends before the pipeline's eyes.**  On `segment` some chunk
opens a turn, and the last one takes the VAD from `silence` back to `idle` while the
pipeline, in `silence` too, only runs a SmartTurn detection against the silence timed by
`Start`. -/
theorem exists_offset (pauses : Pauses vadConfig) :
    ∃ s past spoke pause last,
      (turnMachine loudness config vadConfig t₀ t₁).run
        (turnMachine loudness config vadConfig t₀ t₁).init
          (script env (segment vadConfig)) = some s ∧
      (turnMachine loudness config vadConfig t₀ t₁).transitions
        (turnMachine loudness config vadConfig t₀ t₁).init
          (script env (segment vadConfig)) = past ++ spoke :: (pause ++ [last]) ∧
      EndsInPause config t₀ env spoke pause last := by
  set M := turnMachine loudness config vadConfig t₀ t₁
  obtain ⟨front, back, r, s, t, speech, n, hsegment, hfront, quiet, closed, hloud, speaking,
    hsilence, inside, paused, enough, small⟩ := exists_pause config t₀ t₁ env pauses
  obtain ⟨b, last, hbuffer, hchunk, silence, idle, waiting, nonempty, timed, detected⟩ :=
    paused.offset config t₁ env pauses enough small
  -- the chunk that leaves the VAD in speech
  obtain ⟨s₁, hs₁, hrest⟩ := M.run_cons_eq_some.mp hloud
  obtain ⟨s₂, hs₂, hlast⟩ := M.run_cons_eq_some.mp hrest
  obtain rfl : s₂ = s := by simpa using hlast
  obtain rfl : r.bufferAudio (List.replicate kChunkSize 1) = s₁ := Option.some.inj hs₁
  have hprefix : M.run M.init (script env (front ++ [1])) = some s₂ := by
    rw [script_append, script_singleton]
    exact M.run_append_eq_some.mpr ⟨r, hfront, hloud⟩
  have hrun : M.run M.init (script env (front ++ [1] ++ back)) = some t := by
    rw [script_append]
    exact M.run_append_eq_some.mpr ⟨s₂, hprefix, hsilence⟩
  have hoffset : M.run t (feed env 0) = some last := by
    rw [feed, M.run_cons_eq_some]
    exact ⟨b, hbuffer, M.run_cons_eq_some.mpr ⟨last, hchunk, rfl⟩⟩
  obtain rfl : t.bufferAudio (List.replicate kChunkSize 0) = b := Option.some.inj hbuffer
  rw [hsegment]
  set loud := r.bufferAudio (List.replicate kChunkSize 1) with hloudness
  have shut : loud.pipeline.currentState = .idle := by
    simp only [hloudness, TurnState.bufferAudio, closed]
  set soft := t.bufferAudio (List.replicate kChunkSize 0)
  refine ⟨last,
    M.transitions M.init (script env front) ++ [⟨r, .audio (List.replicate kChunkSize 1), loud⟩],
    ⟨loud, .vadChunk env, s₂⟩,
    M.transitions s₂ (script env back) ++ [⟨t, .audio (List.replicate kChunkSize 0), soft⟩],
    ⟨soft, .vadChunk env, last⟩, ?_, ?_,
    ⟨rfl, quiet, shut, speaking, ?_, rfl, silence, idle, waiting, nonempty, timed, detected⟩⟩
  · rw [script_append, script_singleton]
    exact M.run_append_eq_some.mpr ⟨t, hrun, hoffset⟩
  · rw [script_append, script_singleton, M.transitions_append _ hrun, script_append,
      M.transitions_append _ hprefix, script_append, script_singleton,
      M.transitions_append _ hfront, feed, M.transitions_cons _ hs₁, M.transitions_cons _ hs₂,
      feed, M.transitions_cons _ hbuffer, M.transitions_cons _ hchunk]
    simp [M]
  · intro taken mem
    obtain old | new := List.mem_append.mp mem
    · exact inside taken old
    · -- buffering leaves the VAD in silence
      rw [List.mem_singleton.mp new]
      simp only [soft, TurnState.bufferAudio, paused.state_eq]
      exact VadState.noConfusion

end Script

/-- Readings that stand still, a detector that is never sure, a stream attached. -/
def stillEnv (time : ℤ) : ChunkEnv ℚ where
  clock := ⟨time, time, time, time, time, time, 0, 0, 0⟩
  infer := fun _ => some 0
  streamAtSpeech := true
  streamAtTurn := true

theorem own_script {time : ℤ} {xs : List ℚ} :
    ∀ action ∈ script (stillEnv time) xs, action.Own := by
  intro action mem
  obtain ⟨x, -, mem⟩ := List.mem_flatMap.mp mem
  rcases List.mem_pair.mp mem with rfl | rfl
  · trivial
  · rfl

/-- A script on a clock that stands still is a sole user's run. -/
theorem soleRun_script {t₀ t₁ time : ℤ} (le : t₀ ≤ t₁) (later : t₁ ≤ time) {xs : List ℚ}
    {s : TurnState ℚ ℚ}
    (run : (turnMachine loudness config vadConfig t₀ t₁).run
      (turnMachine loudness config vadConfig t₀ t₁).init (script (stillEnv time) xs) = some s) :
    SoleRun loudness config vadConfig t₀ t₁ (script (stillEnv time) xs) s where
  unit := loudness_inUnit
  own := own_script
  clock := by
    have still : ∀ t ∈ (script (stillEnv time) xs).flatMap TurnAction.readings, t = time := by
      intro t mem
      obtain ⟨a, mem, reading⟩ := List.mem_flatMap.mp mem
      obtain ⟨x, -, mem⟩ := List.mem_flatMap.mp mem
      rcases List.mem_pair.mp mem with rfl | rfl
      · simp [TurnAction.readings] at reading
      · simpa [TurnAction.readings, ClockReadings.toList, stillEnv] using reading
    refine List.pairwise_cons.mpr ⟨?_, List.pairwise_cons.mpr ⟨?_, ?_⟩⟩
    · intro t mem
      rcases List.mem_cons.mp mem with rfl | mem
      · exact le
      · exact (still t mem) ▸ le.trans later
    · intro t mem
      exact (still t mem) ▸ later
    · exact List.Pairwise.imp_of_mem
        (fun ha hb _ => (still _ ha).trans (still _ hb).symm |>.le)
        (List.pairwise_of_forall fun _ _ => trivial)
  run := run

end Saasy.ListeningEngine
