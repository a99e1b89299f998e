import SaasyMediaEngine.Listening.Hysteresis
import SaasyMediaEngine.Listening.VadChunks
import SaasyMediaEngine.Streaming.Windows

/-!
# Streaming is offline processing

The pipeline hands the VAD a recording piece by piece: it is cut into calls of `ProcessAudio` by
the network, into chunks by the accumulator, and the VAD itself carries the RNN state and the last
64 samples from one chunk to the next.  `offline` is what the model is meant to see instead: one
recording, zeros before it, and window after window of 576 samples, each 512 after the one before.

`offline_of_calls` says that the pieces do not show: whatever was heard before, a session leaves
the VAD in the state of one recording, what was heard before followed by the session's own
samples.  Only the chunks on which the inference fails are missing from it: `Process` catches the
exception and returns before it has touched the RNN state or the context, so the chunk that comes
next is inferred as if it had come at once.  `answered` says which ones are left.
-/

namespace Saasy.ListeningEngine

open Streaming

namespace SileroVad

variable {Sample Rnn : Type*} [Zero Sample] [Zero Rnn]

/-- The model on the first `k` windows of a recording: the probabilities, and the RNN state that
it is left with. -/
def infer (onnx : OnnxSession Sample Rnn) (recording : List Sample) : ℕ → Option (List ℚ × Rnn)
  | 0 => some ([], 0)
  | k + 1 =>
      (infer onnx recording k).bind fun answers =>
        (onnx (window 0 kContextSamples kChunkSize k recording) answers.2).map fun answer =>
          (answers.1 ++ [answer.1], answer.2)

/-- The VAD that has heard the whole chunks of a recording. -/
def offline (onnx : OnnxSession Sample Rnn) (config : VadConfig) (recording : List Sample) :
    Option (SileroVad Sample Rnn) :=
  let heard := recording.length / kChunkSize
  (infer onnx recording heard).map fun answers =>
    { (create config : SileroVad Sample Rnn).updateStates answers.1 with
      stateTensor := answers.2
      contextBuffer := overlap 0 kContextSamples (heard * kChunkSize) recording }

variable {onnx : OnnxSession Sample Rnn} {config : VadConfig}

omit [Zero Sample] [Zero Rnn] in
/-- `UpdateState` neither reads nor changes what the next inference takes. -/
theorem updateState_setInputs (vad : SileroVad Sample Rnn) (stateTensor : Rnn)
    (contextBuffer : List Sample) (p : ℚ) :
    { vad with stateTensor, contextBuffer }.updateState p =
      { vad.updateState p with stateTensor, contextBuffer } := by
  simp only [updateState]
  split_ifs <;> rfl

/-- The answers for windows that are past stay. -/
theorem infer_append {recording : List Sample} {k : ℕ}
    (inside : k * kChunkSize ≤ recording.length) (chunk : List Sample) :
    infer onnx (recording ++ chunk) k = infer onnx recording k := by
  induction k with
  | zero => rfl
  | succ k ih =>
      have earlier : k * kChunkSize ≤ recording.length :=
        (Nat.mul_le_mul_right _ k.le_succ).trans inside
      rw [infer, infer, ih earlier, window_append _ _ _ inside]

/-- The samples behind the last whole chunk are not heard. -/
theorem offline_append_short {recording rest : List Sample}
    (whole : kChunkSize ∣ recording.length) (short : rest.length < kChunkSize) :
    offline onnx config (recording ++ rest) = offline onnx config recording := by
  obtain ⟨k, whole⟩ := whole
  have positive : 0 < kChunkSize := by decide
  have heard : (recording ++ rest).length / kChunkSize = k := by
    rw [List.length_append, whole, Nat.mul_add_div positive, Nat.div_eq_of_lt short, Nat.add_zero]
  have inside : k * kChunkSize ≤ recording.length := by rw [whole, Nat.mul_comm]
  simp only [offline, heard, infer_append inside, overlap_append _ _ inside,
    whole, Nat.mul_div_cancel_left k positive]

/-- **Another chunk** of a recording is another call of `Process`, on the RNN state and the context
that the recording so far has left. -/
theorem offline_append_chunk {recording chunk : List Sample} {vad : SileroVad Sample Rnn}
    (whole : kChunkSize ∣ recording.length) (size : chunk.length = kChunkSize)
    (heard : offline onnx config recording = some vad) :
    offline onnx config (recording ++ chunk) =
      (onnx (vad.contextBuffer ++ chunk) vad.stateTensor).map fun _ =>
        (vad.process onnx chunk).2 := by
  obtain ⟨k, whole⟩ := whole
  have positive : 0 < kChunkSize := by decide
  have before : recording.length / kChunkSize = k := by
    rw [whole, Nat.mul_div_cancel_left k positive]
  have after : (recording ++ chunk).length / kChunkSize = k + 1 := by
    rw [List.length_append, whole, size, ← Nat.mul_succ, Nat.mul_div_cancel_left _ positive]
  have swapped : recording.length = k * kChunkSize := whole.trans (Nat.mul_comm ..)
  rw [offline, before, Option.map_eq_some_iff] at heard
  obtain ⟨answers, answered, rfl⟩ := heard
  rw [offline, after, infer, infer_append swapped.ge, answered,
    window_of_next _ _ _ swapped size, overlap_of_next _ _ _ swapped size]
  dsimp only
  rw [Option.bind_some]
  cases run : onnx (overlap 0 kContextSamples (k * kChunkSize) recording ++ chunk) answers.2 with
  | none => rfl
  | some answer =>
      have kept : (overlap 0 kContextSamples (k * kChunkSize) recording ++ chunk).length -
          kContextSamples = kChunkSize := by
        rw [List.length_append, length_overlap _ _ swapped.ge, size, Nat.add_sub_cancel_left]
      rw [process_of_some size run, kept, updateState_setInputs, updateState_setInputs]
      simp only [Option.map_some, updateStates_concat]

/-- One chunk after the other. -/
def processAll (onnx : OnnxSession Sample Rnn) (vad : SileroVad Sample Rnn)
    (chunks : List (List Sample)) : SileroVad Sample Rnn :=
  chunks.foldl (fun vad chunk => (vad.process onnx chunk).2) vad

/-- `Process` gets a probability for this chunk: it has the right size, and the inference does not
fail. -/
def Answers (onnx : OnnxSession Sample Rnn) (vad : SileroVad Sample Rnn) (chunk : List Sample) :
    Prop :=
  chunk.length = kChunkSize ∧ (onnx (vad.contextBuffer ++ chunk) vad.stateTensor).isSome

instance (vad : SileroVad Sample Rnn) : DecidablePred (vad.Answers onnx) :=
  fun _ => inferInstanceAs (Decidable (_ ∧ _))

/-- The chunks, one after the other, for which it does. -/
def answered (onnx : OnnxSession Sample Rnn) :
    SileroVad Sample Rnn → List (List Sample) → List (List Sample)
  | _, [] => []
  | vad, chunk :: chunks =>
      let later := answered onnx (vad.process onnx chunk).2 chunks
      if vad.Answers onnx chunk then chunk :: later else later

omit [Zero Sample] [Zero Rnn] in
theorem process_of_not_answers {vad : SileroVad Sample Rnn} {chunk : List Sample}
    (fails : ¬ vad.Answers onnx chunk) : vad.process onnx chunk = (-1, vad) := by
  unfold process
  split_ifs with size
  · rfl
  · have failed : ¬ (onnx (vad.contextBuffer ++ chunk) vad.stateTensor).isSome :=
      fun answer => fails ⟨not_not.mp size, answer⟩
    simp only [Option.not_isSome_iff_eq_none.mp failed]

omit [Zero Sample] [Zero Rnn] in
/-- A model that always answers is left no chunk. -/
theorem answered_of_isSome (answers : ∀ input rnn, (onnx input rnn).isSome)
    (vad : SileroVad Sample Rnn) (chunks : List (List Sample))
    (sizes : ∀ chunk ∈ chunks, chunk.length = kChunkSize) : vad.answered onnx chunks = chunks := by
  induction chunks generalizing vad with
  | nil => rfl
  | cons chunk chunks ih =>
      obtain ⟨size, sizes⟩ := List.forall_mem_cons.mp sizes
      rw [answered, if_pos ⟨size, answers _ _⟩, ih _ sizes]

/-- **The chunks that are answered make up the recording**, whatever else the VAD was handed in
between: a failed inference leaves no trace in it. -/
theorem offline_of_chunks {recording : List Sample} {vad : SileroVad Sample Rnn}
    (whole : kChunkSize ∣ recording.length) (heard : offline onnx config recording = some vad)
    (chunks : List (List Sample)) :
    kChunkSize ∣ (recording ++ (vad.answered onnx chunks).flatten).length ∧
      offline onnx config (recording ++ (vad.answered onnx chunks).flatten) =
        some (vad.processAll onnx chunks) := by
  induction chunks generalizing recording vad with
  | nil => simpa [answered, processAll] using ⟨whole, heard⟩
  | cons chunk chunks ih =>
      rw [processAll, List.foldl_cons, ← processAll, answered]
      split_ifs with answers
      · obtain ⟨size, answer⟩ := answers
        obtain ⟨answer, run⟩ := Option.isSome_iff_exists.mp answer
        have next := offline_append_chunk whole size heard
        rw [run, Option.map_some] at next
        have whole' : kChunkSize ∣ (recording ++ chunk).length := by
          rw [List.length_append, size]
          exact whole.add (dvd_refl _)
        rw [List.flatten_cons, ← List.append_assoc]
        exact ih whole' next
      · -- the chunk is dropped, and the VAD is as it was
        rw [process_of_not_answers answers]
        exact ih whole heard

end SileroVad

/-! ### What the calls of a session do to the VAD

Of the pipeline only the calls of `Process` matter here, and it makes one for each chunk of its
loop and no other.  So the VAD hears the stream as `Streaming.Chunks` cuts it. -/

namespace TurnState

variable {Sample Rnn : Type*} (onnx : OnnxSession Sample Rnn) (config : TurnDetectorConfig)

theorem handlers_processVadChunk_vad (s : TurnState Sample Rnn) (chunk : List Sample)
    (env : ChunkEnv Sample) :
    ((handlers onnx config).processVadChunk s chunk env).1.vad = (s.vad.process onnx chunk).2 := by
  simp only [handlers, VadTurnPipeline.processVadChunk]
  split_ifs <;> rfl

/-- The VAD is handed the chunks of the loop, and nothing else. -/
theorem foldl_processChunk_vad (envs : ℕ → ChunkEnv Sample) (chunks : List (List Sample))
    (done : Processed Sample (TurnState Sample Rnn)) :
    (chunks.foldl ((handlers onnx config).processChunk envs) done).pipeline.vad =
      done.pipeline.vad.processAll onnx chunks := by
  induction chunks generalizing done with
  | nil => rfl
  | cons chunk chunks ih =>
      rw [List.foldl_cons, ih, SileroVad.processAll, SileroVad.processAll, List.foldl_cons,
        ← handlers_processVadChunk_vad onnx config done.pipeline chunk (envs done.passed.length)]
      rfl

theorem processAudio_vad (p : OpenPipeline Sample (TurnState Sample Rnn))
    (call : AudioCall Sample) :
    let done := (handlers onnx config).processAudio p call
    done.pipeline.rest.vad = p.rest.vad.processAll onnx done.passed := by
  dsimp only [Handlers.processAudio]
  split_ifs with ignored
  · rfl
  · cases call.resampled with
    | none => rfl
    | some resampled =>
        dsimp only
        rw [drain_eq]
        dsimp only
        rw [foldl_processChunk_vad, Handlers.foldl_processChunk_passed]
        rfl

theorem processCalls_vad (p : OpenPipeline Sample (TurnState Sample Rnn))
    (calls : List (AudioCall Sample)) :
    let done := (handlers onnx config).processCalls p calls
    done.pipeline.rest.vad = p.rest.vad.processAll onnx done.passed := by
  induction calls using List.reverseRecOn with
  | nil => rfl
  | append_singleton calls call ih =>
      dsimp only at ih ⊢
      rw [Handlers.processCalls_concat]
      dsimp only
      rw [processAudio_vad, ih, SileroVad.processAll, SileroVad.processAll, SileroVad.processAll,
        List.foldl_append]

end TurnState

/-- **Streaming is offline processing.**  A session that starts on a VAD which has heard
`past`, in whichever calls its samples come, leaves it in the state of the recording that goes
on with the chunks of these samples for which `Process` gets an answer; and of the samples
themselves, where the model always answers. -/
theorem offline_of_calls {Sample Rnn : Type*} [Zero Sample] [Zero Rnn]
    (onnx : OnnxSession Sample Rnn) (turnConfig : TurnDetectorConfig) (config : VadConfig)
    (past : List Sample) (s : TurnState Sample Rnn) (whole : kChunkSize ∣ past.length)
    (heard : SileroVad.offline onnx config past = some s.vad)
    (running : s.pipeline.running = true) (empty : s.pipeline.vadAccumulator = [])
    (calls : List (AudioCall Sample)) :
    let final := (calls.foldl (fun s call => (s.processAudio onnx turnConfig call).1) s).vad
    let stream := calls.flatMap AudioCall.taken
    let kept := s.vad.answered onnx (chunks kChunkSize stream)
    SileroVad.offline onnx config (past ++ kept.flatten) = some final ∧
      ((∀ input rnn, (onnx input rnn).isSome) →
        SileroVad.offline onnx config (past ++ stream) = some final) := by
  intro final stream kept
  obtain ⟨passed, -, -⟩ := (TurnState.handlers onnx turnConfig).processCalls_spec
    (p := s.opened) running empty calls
  have vad : s.vad.processAll onnx (chunks kChunkSize stream) = final := by
    have last := s.processCalls_opened onnx turnConfig calls
    have done := TurnState.processCalls_vad onnx turnConfig s.opened calls
    dsimp only at done
    rw [passed, last] at done
    exact done.symm
  obtain ⟨whole', final'⟩ := SileroVad.offline_of_chunks whole heard (chunks kChunkSize stream)
  rw [vad] at final'
  refine ⟨final', fun answers => ?_⟩
  rw [SileroVad.answered_of_isSome answers _ _ (length_of_mem_chunks kChunkSize stream)]
    at whole' final'
  rw [← flatten_chunks_append_leftover kChunkSize stream, ← List.append_assoc,
    SileroVad.offline_append_short whole' (length_leftover_lt (by decide) stream), final']

/-- A model that is as sure as the first sample of the chunk is loud, and counts its calls; a
chunk that starts below zero makes it fail. -/
def firstSample : OnnxSession ℚ ℕ := fun input called =>
  if input.getD kContextSamples 0 < 0 then none
  else some (input.getD kContextSamples 0, called + 1)

/-- A call whose samples all have one value. -/
def constantCall (samples : ℕ) (value : ℚ) : AudioCall ℚ where
  audioPresent := true
  samples := samples
  resampled := some (List.replicate samples value)
  envs _ := ⟨⟨0, 0, 0, 0, 0, 0, 0, 0, 0⟩, fun _ => none, true, true⟩

/-- Three chunks and a half, on the VAD that another session has left behind a loud chunk; on the
second of the three the model fails. -/
theorem offline_of_calls_resumed :
    let past : List ℚ := List.replicate 512 1
    let s : TurnState ℚ ℕ := ⟨((SileroVad.create {}).process firstSample past).2, .start 0 0⟩
    let calls := [constantCall 300 0, constantCall 212 0, constantCall 512 (-1),
      constantCall 712 1]
    SileroVad.offline firstSample {}
        (past ++ [List.replicate 512 0, List.replicate 512 1].flatten) =
      some (calls.foldl (fun s call => (s.processAudio firstSample {} call).1) s).vad := by
  intro past s calls
  have size : past.length = kChunkSize := List.length_replicate
  have fresh : SileroVad.offline firstSample {} [] = some (.create {}) := rfl
  have answer : firstSample ((SileroVad.create {} : SileroVad ℚ ℕ).contextBuffer ++ past)
      (SileroVad.create {} : SileroVad ℚ ℕ).stateTensor = some (1, 1) := by
    decide +kernel
  have heard : SileroVad.offline firstSample {} past = some s.vad := by
    rw [← List.nil_append past, SileroVad.offline_append_chunk (dvd_zero _) size fresh, answer,
      Option.map_some]
  have kept : s.vad.answered firstSample (chunks kChunkSize (calls.flatMap AudioCall.taken)) =
      [List.replicate 512 0, List.replicate 512 1] := by
    decide +kernel
  rw [← kept]
  exact (offline_of_calls firstSample {} {} past s (dvd_of_eq size.symm) heard rfl rfl calls).1

end Saasy.ListeningEngine
