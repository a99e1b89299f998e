import SaasyMediaEngine.Listening.Pauses

/-!
# The audio that SmartTurn sees

`ProcessAudio` appends a whole batch to the turn buffer before it takes the batch chunk by
chunk, and `HandleSpeechDetected` clears the buffer from inside that loop.  So the buffer does
not start with the chunk that triggered `speech_started`, but with the next call: that chunk,
and whatever followed it in its batch, are lost.

`TurnAudio` follows a run from outside: the resampled stream, how far it was taken in chunks,
and where the turn started.  Both buffers of the pipeline are stretches of that stream
(`Tracks`), and SmartTurn sees the whole turn only once what was lost would have been
discarded anyway (`rtake_drop_iff`).

The two cursors are counted in samples of the whole stream and not in seconds: how much of it has
been appended, and how much has been taken in chunks.  A batch moves the first at once and the
second by one chunk a step, and the difference is the accumulator.  A turn that starts remembers
both, the place in the stream where its first chunk began and the place from which the buffer
starts to fill.

The buffer keeps at most eight seconds, so two lists with different beginnings may still have the
same last eight seconds.  `rtake_drop_iff` says when: the place from which the buffer fills has been
left behind by so many samples that the beginning would not be in it any more, or nothing was lost.
-/

namespace Saasy.ListeningEngine

open Transition

namespace VadTurnPipeline

variable {Sample : Type*} {config : TurnDetectorConfig} {p q : VadTurnPipeline Sample}
  {env : ChunkEnv Sample} {v : VadState} {outputs : List (TurnOutput Sample)}

/-! ### The turn buffer over a chunk

A chunk changes the buffer in two ways only, both of which empty it: it starts a turn, or it ends
one. -/

theorem Detection.turnBuffer (detected : Detection config p env q outputs)
    (opened : q.currentState ≠ .idle) : q.turnBuffer = p.turnBuffer := by
  cases detected with
  | waiting => rfl
  | _ => exact absurd rfl opened

/-- A turn that goes on keeps its buffer. -/
theorem Reaction.turnBuffer (reacted : Reaction config p env v q outputs)
    (before : p.currentState ≠ .idle) (after : q.currentState ≠ .idle) :
    q.turnBuffer = p.turnBuffer := by
  cases reacted with
  | quiet idle => exact absurd idle before
  | started idle => exact absurd idle before
  | mirrored => rfl
  | backchannel => exact absurd rfl after
  | ended _ _ detected => exact detected.turnBuffer after
  | paused _ detected => exact detected.turnBuffer after

/-- A turn that starts finds its buffer cleared. -/
theorem Reaction.started_of_idle (reacted : Reaction config p env v q outputs)
    (before : p.currentState = .idle) (after : q.currentState ≠ .idle) :
    q.currentState = .speech ∧ q.turnBuffer.buffer = [] := by
  cases reacted with
  | quiet => exact absurd before after
  | started => exact ⟨rfl, rfl⟩
  | mirrored opened => exact absurd before opened
  | backchannel => exact absurd rfl after
  | ended speech => simp [before] at speech
  | paused silence => simp [before] at silence

theorem Detection.smartTurn (detected : Detection config p env q outputs) {buffer : List Sample}
    (mem : .smartTurn buffer ∈ outputs) : buffer = p.turnBuffer.buffer := by
  cases detected with
  | empty => cases mem
  | complete =>
      obtain ⟨⟨⟩⟩ | sent := List.mem_cons.mp mem
      · rfl
      · unfold send at sent
        split_ifs at sent <;> simp at sent
  | _ => simpa using mem

/-- SmartTurn is handed the buffer of a turn that was open. -/
theorem Reaction.smartTurn (reacted : Reaction config p env v q outputs) {buffer : List Sample}
    (mem : .smartTurn buffer ∈ outputs) :
    p.currentState ≠ .idle ∧ buffer = p.turnBuffer.buffer := by
  cases reacted with
  | quiet => cases mem
  | started =>
      unfold send at mem
      split_ifs at mem <;> simp at mem
  | mirrored => cases mem
  | backchannel => simp at mem
  | ended speech long detected =>
      refine ⟨by simp [speech], ?_⟩
      obtain sent | analysed := List.mem_append.mp mem
      · unfold send at sent
        split_ifs at sent <;> simp at sent
      · exact detected.smartTurn analysed
  | paused silence detected => exact ⟨by simp [silence], detected.smartTurn mem⟩

end VadTurnPipeline

open VadTurnPipeline

variable {Sample Rnn : Type*} {onnx : OnnxSession Sample Rnn} {config : TurnDetectorConfig}

variable (onnx config) in
/-- A chunk leaves the accumulator, and the pipeline reacts to it unless the VAD failed. -/
theorem processChunk_cases (s : TurnState Sample Rnn) (env : ChunkEnv Sample) :
    let p := { s.pipeline with vadAccumulator := s.pipeline.vadAccumulator.drop kChunkSize }
    let processed := s.processChunk onnx config env
    processed.1.pipeline = p ∧ processed.2 = [] ∨
      ∃ v, Reaction config p env v processed.1.pipeline processed.2 := by
  simp only [TurnState.processChunk, processVadChunk]
  split_ifs
  · exact .inl ⟨rfl, rfl⟩
  · exact .inr ⟨_, reaction config _ _ env⟩

/-! ### The stream and the turn in it

What a run has heard is counted from its beginning, and a turn is a place in that stream.  The two
buffers of the pipeline are functions of the stream and of places in it. -/

/-- What a run has heard, counted in samples of the resampled stream.  The turn is the last one
that was started, whether it is still open or not. -/
structure TurnAudio (Sample : Type*) where
  stream : List Sample
  /-- How much of it was taken in chunks. -/
  chunked : ℕ
  /-- The first sample of the chunk that triggered the last `speech_started`. -/
  turnStart : ℕ
  /-- How much had been appended when it did. -/
  appended : ℕ

namespace TurnAudio

/-- A chunk that takes the pipeline out of `idle`: `HandleSpeechDetected` is called. -/
def StartsTurn (t : Taken (TurnState Sample Rnn) (TurnAction Sample)) : Prop :=
  t.before.pipeline.currentState = .idle ∧ t.after.pipeline.currentState = .speech

instance (t : Taken (TurnState Sample Rnn) (TurnAction Sample)) : Decidable (StartsTurn t) :=
  inferInstanceAs (Decidable (_ ∧ _))

def after (audio : TurnAudio Sample) (t : Taken (TurnState Sample Rnn) (TurnAction Sample)) :
    TurnAudio Sample :=
  match t.action with
  | .audio resampled => { audio with stream := audio.stream ++ resampled }
  | .vadChunk _ =>
      { audio with
        chunked := audio.chunked + kChunkSize
        turnStart := if StartsTurn t then audio.chunked else audio.turnStart
        appended := if StartsTurn t then audio.stream.length else audio.appended }
  | .foreign _ => audio

/-- What was heard up to here. -/
def heard (past : List (Taken (TurnState Sample Rnn) (TurnAction Sample))) : TurnAudio Sample :=
  past.foldl after ⟨[], 0, 0, 0⟩

theorem heard_concat (past : List (Taken (TurnState Sample Rnn) (TurnAction Sample)))
    (t : Taken (TurnState Sample Rnn) (TurnAction Sample)) :
    heard (past ++ [t]) = (heard past).after t := by
  rw [heard, List.foldl_append]
  rfl

/-- The stream from the first sample of the turn on. -/
def turn (audio : TurnAudio Sample) : List Sample := audio.stream.drop audio.turnStart

/-- How much was appended after the call in which the turn started. -/
def sinceStart (audio : TurnAudio Sample) : ℕ := audio.stream.length - audio.appended

/-- **The two cursors.**  The accumulator is what is left to take of the stream, and the turn
buffer the last of what was appended after the turn had started. -/
structure Tracks (audio : TurnAudio Sample) (s : TurnState Sample Rnn) : Prop where
  accumulator : s.pipeline.vadAccumulator = audio.stream.drop audio.chunked
  chunked : audio.chunked ≤ audio.stream.length
  turn : s.pipeline.currentState ≠ .idle →
    audio.turnStart < audio.appended ∧ audio.appended ≤ audio.stream.length ∧
      s.pipeline.turnBuffer.buffer = (audio.stream.drop audio.appended).rtake kMaxSamples

variable {audio : TurnAudio Sample} {s : TurnState Sample Rnn}

/-- A batch is appended to both buffers. -/
theorem Tracks.bufferAudio (tracks : audio.Tracks s) {resampled : List Sample}
    (fits : resampled.length < 2 ^ 64) :
    ({ audio with stream := audio.stream ++ resampled } : TurnAudio Sample).Tracks
      (s.bufferAudio resampled) := by
  refine ⟨?_, ?_, fun opened => ?_⟩
  · show s.pipeline.vadAccumulator ++ resampled = (audio.stream ++ resampled).drop audio.chunked
    rw [List.drop_append_of_le_length tracks.chunked, tracks.accumulator]
  · exact tracks.chunked.trans (List.length_append ▸ Nat.le_add_right _ _)
  · obtain ⟨start, appended, kept⟩ := tracks.turn opened
    refine ⟨start, appended.trans (List.length_append ▸ Nat.le_add_right _ _), ?_⟩
    rw [List.drop_append_of_le_length appended]
    exact AudioTurnBuffer.append_buffer kept fits

/-- A chunk is taken, and may start a turn. -/
theorem Tracks.processChunk (tracks : audio.Tracks s) (env : ChunkEnv Sample)
    (full : kChunkSize ≤ s.pipeline.vadAccumulator.length) :
    (audio.after ⟨s, .vadChunk env, (s.processChunk onnx config env).1⟩).Tracks
      (s.processChunk onnx config env).1 := by
  have room : audio.chunked + kChunkSize ≤ audio.stream.length := by
    rw [tracks.accumulator, List.length_drop] at full
    have size : kChunkSize = 512 := rfl
    omega
  refine ⟨?_, room, fun opened => ?_⟩
  · rw [TurnState.processChunk_vadAccumulator, tracks.accumulator, List.drop_drop]
    rfl
  · -- whether the turn started now, or was open before
    have starts : StartsTurn (⟨s, .vadChunk env, (s.processChunk onnx config env).1⟩ :
        Taken (TurnState Sample Rnn) (TurnAction Sample)) ↔
          s.pipeline.currentState = .idle ∧
            (s.processChunk onnx config env).1.pipeline.currentState = .speech := Iff.rfl
    by_cases idle : s.pipeline.currentState = .idle
    · obtain ⟨same, -⟩ | ⟨v, reacted⟩ := processChunk_cases onnx config s env
      · rw [same] at opened
        exact absurd idle opened
      · obtain ⟨speech, cleared⟩ := reacted.started_of_idle idle opened
        simp only [after, if_pos (starts.mpr ⟨idle, speech⟩)]
        refine ⟨?_, le_rfl, ?_⟩
        · exact lt_of_lt_of_le (Nat.lt_add_of_pos_right (by decide)) room
        · rw [cleared, List.drop_length, List.rtake_nil]
    · simp only [after, if_neg fun start => idle (starts.mp start).1]
      obtain ⟨start, appended, kept⟩ := tracks.turn idle
      refine ⟨start, appended, ?_⟩
      obtain ⟨same, -⟩ | ⟨v, reacted⟩ := processChunk_cases onnx config s env
      · rw [same]
        exact kept
      · rw [reacted.turnBuffer idle opened]
        exact kept

theorem tracks_init [Zero Sample] [Zero Rnn] (vadConfig : VadConfig) (t₀ t₁ : ℤ) :
    (heard ([] : List (Taken (TurnState Sample Rnn) (TurnAction Sample)))).Tracks
      (⟨.create vadConfig, .start t₀ t₁⟩ : TurnState Sample Rnn) where
  accumulator := rfl
  chunked := le_rfl
  turn opened := absurd rfl opened

/-- A step of a run, on a batch whose size is a `size_t`. -/
theorem Tracks.step [Zero Sample] [Zero Rnn] {vadConfig : VadConfig} {t₀ t₁ : ℤ}
    {action : TurnAction Sample} {t : TurnState Sample Rnn} (tracks : audio.Tracks s)
    (fits : ∀ resampled, action = .audio resampled → resampled.length < 2 ^ 64)
    (step : (turnMachine onnx config vadConfig t₀ t₁).step s action = some t) :
    (audio.after ⟨s, action, t⟩).Tracks t := by
  cases action with
  | audio resampled =>
      obtain rfl := Option.some.inj step
      exact tracks.bufferAudio (fits resampled rfl)
  | vadChunk env =>
      obtain ⟨full, rfl⟩ := turnStep_vadChunk.mp step
      exact tracks.processChunk env full
  | foreign chunk =>
      obtain rfl := Option.some.inj step
      exact ⟨tracks.accumulator, tracks.chunked, tracks.turn⟩

/-- SmartTurn is handed what was appended after the turn had started. -/
theorem Tracks.smartTurn {env : ChunkEnv Sample} (tracks : audio.Tracks s) {buffer : List Sample}
    (mem : .smartTurn buffer ∈ (s.processChunk onnx config env).2) :
    audio.turnStart < audio.appended ∧ audio.appended ≤ audio.stream.length ∧
      buffer = (audio.stream.drop audio.appended).rtake kMaxSamples := by
  obtain ⟨-, none⟩ | ⟨v, reacted⟩ := processChunk_cases onnx config s env
  · rw [none] at mem
    cases mem
  · obtain ⟨opened, rfl⟩ := reacted.smartTurn mem
    exact tracks.turn opened

/-- **What was lost is missed** until it would have been discarded anyway: two ends of one stream
have the same last `n` elements exactly if the shorter has as many. -/
theorem rtake_drop_iff {n start appended : ℕ} {stream : List Sample} (less : start < appended)
    (le : appended ≤ stream.length) :
    (stream.drop appended).rtake n = (stream.drop start).rtake n ↔
      n ≤ stream.length - appended := by
  constructor
  · intro same
    have lengths := congrArg List.length same
    simp only [AudioTurnBuffer.length_rtake, List.length_drop] at lengths
    omega
  · intro long
    rw [List.rtake, List.rtake, List.drop_drop, List.drop_drop, List.length_drop, List.length_drop]
    congr 1
    omega

/-! ### The law

What the turn buffer misses of a turn are the chunk that starts it and what the same call had
appended behind it.  It misses them until it would have dropped them for its size, and no longer.
-/

/-- SmartTurn is handed the last eight seconds of the turn so far. -/
def SeesTurn (onnx : OnnxSession Sample Rnn) (config : TurnDetectorConfig)
    (past : List (Taken (TurnState Sample Rnn) (TurnAction Sample)))
    (t : Taken (TurnState Sample Rnn) (TurnAction Sample)) : Prop :=
  ∀ buffer, .smartTurn buffer ∈ emitted onnx config t →
    buffer = (heard past).turn.rtake kMaxSamples

/-- SmartTurn is only called once eight seconds were appended after the call of `ProcessAudio`
in which the turn started. -/
def Late (onnx : OnnxSession Sample Rnn) (config : TurnDetectorConfig)
    (past : List (Taken (TurnState Sample Rnn) (TurnAction Sample)))
    (t : Taken (TurnState Sample Rnn) (TurnAction Sample)) : Prop :=
  ∀ buffer, .smartTurn buffer ∈ emitted onnx config t → kMaxSamples ≤ (heard past).sinceStart

/-- A property of the steps of a run and of what came before them: it holds of each step together
with those that were taken before it. -/
def Throughout (M : Machine (TurnState Sample Rnn) (TurnAction Sample))
    (actions : List (TurnAction Sample))
    (property : List (Taken (TurnState Sample Rnn) (TurnAction Sample)) →
      Taken (TurnState Sample Rnn) (TurnAction Sample) → Prop) : Prop :=
  ∀ past t rest, M.transitions M.init actions = past ++ t :: rest → property past t

/-- **SmartTurn sees the whole turn exactly when** it is called so late that the samples lost
at its start would have been discarded anyway. -/
theorem seesTurn_iff [Zero Sample] [Zero Rnn] (onnx : OnnxSession Sample Rnn)
    (config : TurnDetectorConfig) (vadConfig : VadConfig) (t₀ t₁ : ℤ)
    (actions : List (TurnAction Sample))
    (fits : ∀ resampled, .audio resampled ∈ actions → resampled.length < 2 ^ 64) :
    Throughout (turnMachine onnx config vadConfig t₀ t₁) actions (SeesTurn onnx config) ↔
      Throughout (turnMachine onnx config vadConfig t₀ t₁) actions (Late onnx config) := by
  refine forall_congr' fun past => forall_congr' fun t => forall_congr' fun rest => ?_
  refine forall_congr' fun split => forall_congr' fun buffer => forall_congr' fun mem => ?_
  have tracks := ((turnMachine onnx config vadConfig t₀ t₁).history_of_split
    (fun action => ∀ resampled, action = .audio resampled → resampled.length < 2 ^ 64)
    (motive := fun past s => (heard past).Tracks s)
    (fun past s action t tracks fits step => heard_concat past _ ▸ tracks.step fits step)
    (tracks_init vadConfig t₀ t₁)
    (fun action mem resampled same => fits resampled (same ▸ mem)) split).1
  obtain ⟨s, action, t⟩ := t
  cases action with
  | vadChunk env =>
      obtain ⟨less, le, same⟩ := Tracks.smartTurn tracks mem
      rw [same, turn, sinceStart]
      exact rtake_drop_iff less le
  | _ => cases mem

/-! ### One turn

One call for each chunk, so that no more is lost than the chunk that starts the turn.  With larger
calls it is more. -/

/-- Half a second of speech by the clock, a detector that is sure, a stream attached. -/
def utteranceEnv : ChunkEnv ℚ where
  clock := ⟨0, 0, 0, 500000000, 0, 0, 0, 0, 0⟩
  infer := fun _ => some 1
  streamAtSpeech := true
  streamAtTurn := true

/-- Two loud chunks, then silence up to the end of the speech. -/
def utterance : List (TurnAction ℚ) := script utteranceEnv ([1, 1] ++ List.replicate 10 0)

theorem seesTurn_iff_utterance :
    Throughout (turnMachine loudness {} {} 0 0) utterance (SeesTurn loudness {}) ↔
      Throughout (turnMachine loudness {} {} 0 0) utterance (Late loudness {}) := by
  refine seesTurn_iff loudness {} {} 0 0 utterance fun resampled mem => ?_
  obtain ⟨x, -, fed⟩ := List.mem_flatMap.mp mem
  obtain ⟨⟨⟩⟩ | none := List.mem_cons.mp fed
  · rw [List.length_replicate]
    decide
  · simp at none

/-- The second of these chunks triggers `speech_started`, and SmartTurn is handed the ten that
follow it. -/
theorem onset_lost :
    ∃ past t buffer, (turnMachine loudness {} {} 0 0).transitions
        (turnMachine loudness {} {} 0 0).init utterance = past ++ [t] ∧
      .smartTurn buffer ∈ emitted loudness {} t ∧ buffer.length = 5120 ∧
      ((heard past).turn.rtake kMaxSamples).length = 5632 := by
  set steps := (turnMachine loudness {} {} 0 0).transitions
    (turnMachine loudness {} {} 0 0).init utterance with taken
  have last : steps.getLast?.map (fun t => (emitted loudness {} t).filterMap fun
      | .smartTurn buffer => some buffer.length
      | _ => none) = some [5120] := by
    rw [taken]
    decide +kernel
  have whole : ((heard steps.dropLast).turn.rtake kMaxSamples).length = 5632 := by
    rw [taken]
    decide +kernel
  obtain ⟨t, final, analysed⟩ := Option.map_eq_some_iff.mp last
  obtain ⟨past, split⟩ := List.getLast?_eq_some_iff.mp final
  have mem : 5120 ∈ (emitted loudness {} t).filterMap fun
      | .smartTurn buffer => some buffer.length
      | _ => none := analysed ▸ List.mem_singleton_self 5120
  obtain ⟨output, called, length⟩ := List.mem_filterMap.mp mem
  cases output with
  | smartTurn buffer =>
      rw [split, List.dropLast_concat] at whole
      exact ⟨past, t, buffer, split, called, Option.some.inj length, whole⟩
  | _ => cases length

end TurnAudio

end Saasy.ListeningEngine
