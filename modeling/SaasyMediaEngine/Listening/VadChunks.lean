import SaasyMediaEngine.Listening.TurnMachine
import SaasyMediaEngine.Streaming.Chunks

/-!
# The chunks that the VAD is handed

`ProcessAudio` cuts the resampled stream into chunks of 512 samples, and keeps what is short of
one for the next call.  `OpenPipeline` is a pipeline of which only `running_` and the accumulator
are known; what `Append` and `ProcessVadChunk` do to everything else is a parameter, `Handlers`.
Whatever they do, the chunks are those of the stream.

`processAudio_opened` says that the pipeline of `TurnMachine` is one of these.

Leaving `ProcessVadChunk` open is what makes the statement worth having: no state of the VAD or of
the pipeline, no failed inference and no clock can shift the chunks or make one of them come twice.
The accumulator holds less than a chunk between two calls, `processAudio_spec` keeps it so, and how
a stream is cut into chunks with something left over is `Streaming.Chunks`, which knows nothing of
audio.
-/

namespace Saasy.ListeningEngine

open Streaming

/-- A pipeline with everything left open that `ProcessVadChunk` may change: its own state, the turn
buffer, the VAD. -/
structure OpenPipeline (Sample Rest : Type*) where
  running : Bool
  vadAccumulator : List Sample
  rest : Rest

/-- What is called from `ProcessAudio`, on everything else.  Neither can see or change the
accumulator. -/
structure Handlers (Sample Rest : Type*) where
  /-- `turn_buffer_->Append`. -/
  append : Rest → List Sample → Rest
  processVadChunk : Rest → List Sample → ChunkEnv Sample → Rest × List (TurnOutput Sample)

/-- What `ProcessAudio` has done: the chunks that it passed to `ProcessVadChunk`, and what that
did to the outside. -/
structure Processed (Sample Pipeline : Type*) where
  pipeline : Pipeline
  passed : List (List Sample)
  outputs : List (TurnOutput Sample)

/-- The samples that a call hands to the pipeline, if it gets past its guards. -/
def AudioCall.taken {Sample : Type*} (call : AudioCall Sample) : List Sample :=
  if !call.audioPresent || call.samples = 0 then [] else call.resampled.getD []

namespace Handlers

variable {Sample Rest : Type*} (h : Handlers Sample Rest)

/-- The loop body of `ProcessAudio`, on the chunk that was taken off the accumulator. -/
def processChunk (envs : ℕ → ChunkEnv Sample) (done : Processed Sample Rest)
    (chunk : List Sample) : Processed Sample Rest :=
  let (rest, outputs) := h.processVadChunk done.pipeline chunk (envs done.passed.length)
  ⟨rest, done.passed ++ [chunk], done.outputs ++ outputs⟩

/-- `VadTurnPipeline::ProcessAudio`. -/
def processAudio (p : OpenPipeline Sample Rest) (call : AudioCall Sample) :
    Processed Sample (OpenPipeline Sample Rest) :=
  if !p.running || !call.audioPresent || call.samples = 0 then ⟨p, [], []⟩
  else
    match call.resampled with
    | none => ⟨p, [], []⟩
    | some resampled =>
        let (done, vadAccumulator) := drain kChunkSize (h.processChunk call.envs)
          ⟨h.append p.rest resampled, [], []⟩ (p.vadAccumulator ++ resampled)
        ⟨{ p with vadAccumulator, rest := done.pipeline }, done.passed, done.outputs⟩

/-- One call after the other. -/
def processCalls (p : OpenPipeline Sample Rest) (calls : List (AudioCall Sample)) :
    Processed Sample (OpenPipeline Sample Rest) :=
  calls.foldl
    (fun done call =>
      let next := h.processAudio done.pipeline call
      ⟨next.pipeline, done.passed ++ next.passed, done.outputs ++ next.outputs⟩)
    ⟨p, [], []⟩

/-- The loop passes on the chunks it takes. -/
theorem foldl_processChunk_passed (envs : ℕ → ChunkEnv Sample) (chunks : List (List Sample))
    (done : Processed Sample Rest) :
    (chunks.foldl (h.processChunk envs) done).passed = done.passed ++ chunks := by
  induction chunks generalizing done with
  | nil => exact (List.append_nil _).symm
  | cons chunk chunks ih =>
      rw [List.foldl_cons, ih]
      exact List.append_assoc done.passed [chunk] chunks

theorem processChunk_of_handled {envs : ℕ → ChunkEnv Sample} {done : Processed Sample Rest}
    {chunk : List Sample} {rest : Rest} {outputs : List (TurnOutput Sample)}
    (handled : h.processVadChunk done.pipeline chunk (envs done.passed.length) =
      (rest, outputs)) :
    h.processChunk envs done chunk = ⟨rest, done.passed ++ [chunk], done.outputs ++ outputs⟩ := by
  rw [processChunk, handled]

variable {p : OpenPipeline Sample Rest}

/-- **One call**, on a pipeline that holds less than a chunk: the chunks are those of what it held
and what it is given, and the rest is kept for the next call. -/
theorem processAudio_spec (running : p.running = true)
    (short : p.vadAccumulator.length < kChunkSize) (call : AudioCall Sample) :
    let done := h.processAudio p call
    done.passed = chunks kChunkSize (p.vadAccumulator ++ call.taken) ∧
      done.pipeline.vadAccumulator = leftover kChunkSize (p.vadAccumulator ++ call.taken) ∧
      done.pipeline.running = true := by
  simp only [processAudio, AudioCall.taken, running, Bool.not_true, Bool.false_or]
  split_ifs with ignored
  · rw [List.append_nil, chunks_of_short short, leftover_of_short short]
    exact ⟨rfl, rfl, running⟩
  · cases call.resampled with
    | none =>
        rw [Option.getD_none, List.append_nil, chunks_of_short short, leftover_of_short short]
        exact ⟨rfl, rfl, running⟩
    | some resampled =>
        rw [Option.getD_some]
        dsimp only
        rw [drain_eq]
        exact ⟨h.foldl_processChunk_passed _ _ _, rfl, rfl⟩

theorem processCalls_concat (p : OpenPipeline Sample Rest) (calls : List (AudioCall Sample))
    (call : AudioCall Sample) :
    h.processCalls p (calls ++ [call]) =
      ⟨(h.processAudio (h.processCalls p calls).pipeline call).pipeline,
        (h.processCalls p calls).passed ++
          (h.processAudio (h.processCalls p calls).pipeline call).passed,
        (h.processCalls p calls).outputs ++
          (h.processAudio (h.processCalls p calls).pipeline call).outputs⟩ :=
  List.foldl_append

/-- **Every call**, from an empty accumulator on: the chunks so far are those of the stream so far.
-/
theorem processCalls_spec (running : p.running = true) (empty : p.vadAccumulator = [])
    (calls : List (AudioCall Sample)) :
    let done := h.processCalls p calls
    let stream := calls.flatMap AudioCall.taken
    done.passed = chunks kChunkSize stream ∧
      done.pipeline.vadAccumulator = leftover kChunkSize stream ∧
      done.pipeline.running = true := by
  have positive : 0 < kChunkSize := by decide
  induction calls using List.reverseRecOn with
  | nil =>
      exact ⟨(chunks_of_short positive).symm, empty.trans (leftover_of_short positive).symm,
        running⟩
  | append_singleton calls call ih =>
      obtain ⟨passed, accumulator, still⟩ := ih
      have short : (h.processCalls p calls).pipeline.vadAccumulator.length < kChunkSize := by
        rw [accumulator]
        exact length_leftover_lt positive _
      obtain ⟨passed', accumulator', still'⟩ := h.processAudio_spec still short call
      rw [accumulator] at passed' accumulator'
      rw [processCalls_concat]
      simp only [List.flatMap_append, List.flatMap_singleton]
      rw [chunks_append, leftover_append]
      exact ⟨congrArg₂ _ passed passed', accumulator', still'⟩

end Handlers

/-- The constructor followed by `Start`. -/
def OpenPipeline.start {Sample Rest : Type*} (rest : Rest) : OpenPipeline Sample Rest :=
  ⟨true, [], rest⟩

/-! ### The pipeline of the session

Its members are those of an open pipeline with the accumulator set apart, and its handlers what
`ProcessVadChunk` does.  The lemmas say that it never looks at the accumulator, for each function
that it calls. -/

namespace VadTurnPipeline

variable {Sample Rnn : Type*}

theorem triggerSmartTurnDetection_setAccumulator (config : TurnDetectorConfig)
    (p : VadTurnPipeline Sample) (env : ChunkEnv Sample) (accumulator : List Sample) :
    triggerSmartTurnDetection config { p with vadAccumulator := accumulator } env =
      ({ (triggerSmartTurnDetection config p env).1 with vadAccumulator := accumulator },
        (triggerSmartTurnDetection config p env).2) := by
  simp only [triggerSmartTurnDetection]
  split_ifs <;> rfl

theorem handleSilenceDetected_setAccumulator (config : TurnDetectorConfig)
    (p : VadTurnPipeline Sample) (env : ChunkEnv Sample) (accumulator : List Sample) :
    handleSilenceDetected config { p with vadAccumulator := accumulator } env =
      ({ (handleSilenceDetected config p env).1 with vadAccumulator := accumulator },
        (handleSilenceDetected config p env).2) := by
  simp only [handleSilenceDetected]
  split_ifs with speech short
  · rfl
  · have detected := triggerSmartTurnDetection_setAccumulator config
      { p with silenceStartTime := env.clock.silenceStart, currentState := .silence } env
      accumulator
    exact congrArg (fun result => (result.1,
      send env.streamAtSpeech (.speechEnded env.clock.speechEndedMs) ++ result.2)) detected
  · exact triggerSmartTurnDetection_setAccumulator config { p with currentState := .silence } env
      accumulator

theorem observe_setAccumulator (config : TurnDetectorConfig) (p : VadTurnPipeline Sample)
    (vadState : VadState) (env : ChunkEnv Sample) (accumulator : List Sample) :
    observe config { p with vadAccumulator := accumulator } vadState env =
      ({ (observe config p vadState env).1 with vadAccumulator := accumulator },
        (observe config p vadState env).2) := by
  simp only [observe, handleSilenceDetected_setAccumulator, handleSpeechDetected]
  split_ifs <;> rfl

/-- `ProcessVadChunk` neither reads nor changes the accumulator. -/
theorem processVadChunk_setAccumulator (onnx : OnnxSession Sample Rnn)
    (config : TurnDetectorConfig) (vad : SileroVad Sample Rnn) (p : VadTurnPipeline Sample)
    (chunk : List Sample) (env : ChunkEnv Sample) (accumulator : List Sample) :
    processVadChunk onnx config vad { p with vadAccumulator := accumulator } chunk env =
      ((processVadChunk onnx config vad p chunk env).1,
        { (processVadChunk onnx config vad p chunk env).2.1 with vadAccumulator := accumulator },
        (processVadChunk onnx config vad p chunk env).2.2) := by
  simp only [processVadChunk, observe_setAccumulator]
  split_ifs <;> rfl

theorem triggerSmartTurnDetection_running (config : TurnDetectorConfig)
    (p : VadTurnPipeline Sample) (env : ChunkEnv Sample) :
    (triggerSmartTurnDetection config p env).1.running = p.running := by
  simp only [triggerSmartTurnDetection]
  split_ifs <;> rfl

theorem processVadChunk_running (onnx : OnnxSession Sample Rnn) (config : TurnDetectorConfig)
    (vad : SileroVad Sample Rnn) (p : VadTurnPipeline Sample) (chunk : List Sample)
    (env : ChunkEnv Sample) :
    (processVadChunk onnx config vad p chunk env).2.1.running = p.running := by
  simp only [processVadChunk, observe, handleSpeechDetected, handleSilenceDetected]
  split_ifs <;> simp [triggerSmartTurnDetection_running]

end VadTurnPipeline

namespace TurnState

variable {Sample Rnn : Type*} (onnx : OnnxSession Sample Rnn) (config : TurnDetectorConfig)

/-- The pipeline, with its accumulator apart from the rest. -/
def opened (s : TurnState Sample Rnn) : OpenPipeline Sample (TurnState Sample Rnn) where
  running := s.pipeline.running
  vadAccumulator := s.pipeline.vadAccumulator
  rest := { s with pipeline := { s.pipeline with vadAccumulator := [] } }

/-- What `ProcessAudio` calls. -/
def handlers : Handlers Sample (TurnState Sample Rnn) where
  append s samples :=
    { s with pipeline := { s.pipeline with turnBuffer := s.pipeline.turnBuffer.append samples } }
  processVadChunk s chunk env :=
    let (vad, pipeline, outputs) :=
      VadTurnPipeline.processVadChunk onnx config s.vad s.pipeline chunk env
    (⟨vad, pipeline⟩, outputs)

theorem processChunk_running (s : TurnState Sample Rnn) (env : ChunkEnv Sample) :
    (s.processChunk onnx config env).1.pipeline.running = s.pipeline.running :=
  VadTurnPipeline.processVadChunk_running ..

theorem processChunks_running (s : TurnState Sample Rnn) (envs : ℕ → ChunkEnv Sample) :
    (s.processChunks onnx config envs).1.pipeline.running = s.pipeline.running := by
  fun_induction processChunks onnx config s envs with
  | case1 s envs long rest ih => exact ih.trans (processChunk_running onnx config s (envs 0))
  | case2 s envs short => rfl

/-- A chunk of the loop, on the rest of the pipeline. -/
theorem handlers_processChunk (s : TurnState Sample Rnn) (env : ChunkEnv Sample) :
    (handlers onnx config).processVadChunk s.opened.rest
        (s.pipeline.vadAccumulator.take kChunkSize) env =
      ((s.processChunk onnx config env).1.opened.rest, (s.processChunk onnx config env).2) := by
  have kept (accumulator : List Sample) := VadTurnPipeline.processVadChunk_setAccumulator onnx
    config s.vad s.pipeline (s.pipeline.vadAccumulator.take kChunkSize) env accumulator
  simp only [handlers, opened, processChunk]
  rw [kept [], kept (s.pipeline.vadAccumulator.drop kChunkSize)]

/-- The loop of `ProcessAudio` drains the accumulator. -/
theorem processChunks_eq_drain (s : TurnState Sample Rnn) (envs : ℕ → ChunkEnv Sample)
    (passed : List (List Sample)) (outputs : List (TurnOutput Sample))
    {envs' : ℕ → ChunkEnv Sample} (same : ∀ i, envs' (passed.length + i) = envs i) :
    ∃ taken, drain kChunkSize ((handlers onnx config).processChunk envs')
        ⟨s.opened.rest, passed, outputs⟩ s.pipeline.vadAccumulator =
      (⟨(s.processChunks onnx config envs).1.opened.rest, passed ++ taken,
          outputs ++ (s.processChunks onnx config envs).2⟩,
        (s.processChunks onnx config envs).1.pipeline.vadAccumulator) := by
  have positive : 0 < kChunkSize := by decide
  induction s, envs using processChunks.induct onnx config generalizing passed outputs with
  | case1 s envs long ih =>
      have later : ∀ i, envs' ((passed ++ [s.pipeline.vadAccumulator.take kChunkSize]).length + i) =
          envs (i + 1) := by
        intro i
        rw [List.length_append, List.length_singleton, Nat.add_assoc, Nat.add_comm 1 i, same]
      obtain ⟨taken, drained⟩ := ih _ (outputs ++ (s.processChunk onnx config (envs 0)).2) later
      refine ⟨s.pipeline.vadAccumulator.take kChunkSize :: taken, ?_⟩
      have first : (handlers onnx config).processChunk envs' ⟨s.opened.rest, passed, outputs⟩
          (s.pipeline.vadAccumulator.take kChunkSize) =
            ⟨(s.processChunk onnx config (envs 0)).1.opened.rest,
              passed ++ [s.pipeline.vadAccumulator.take kChunkSize],
              outputs ++ (s.processChunk onnx config (envs 0)).2⟩ := by
        refine Handlers.processChunk_of_handled _ ?_
        rw [show envs' passed.length = envs 0 from same 0]
        exact handlers_processChunk onnx config s (envs 0)
      rw [processChunk_vadAccumulator] at drained
      rw [processChunks, if_pos long, drain, if_pos ⟨positive, long⟩, first, drained,
        List.append_assoc, List.append_assoc]
      rfl
  | case2 s envs short =>
      refine ⟨[], ?_⟩
      rw [drain, if_neg fun whole => short whole.2, processChunks, if_neg short, List.append_nil,
        List.append_nil]

/-- **The pipeline of the session** is an open one with its own handlers, so what is proved of all
open pipelines is true of it. -/
theorem processAudio_opened (s : TurnState Sample Rnn) (call : AudioCall Sample) :
    ((handlers onnx config).processAudio s.opened call).pipeline =
        (s.processAudio onnx config call).1.opened ∧
      ((handlers onnx config).processAudio s.opened call).outputs =
        (s.processAudio onnx config call).2 := by
  rw [Handlers.processAudio, processAudio, show s.opened.running = s.pipeline.running from rfl]
  by_cases ignored : (!s.pipeline.running || !call.audioPresent || decide (call.samples = 0)) = true
  · rw [if_pos ignored, if_pos ignored]
    exact ⟨rfl, rfl⟩
  · rw [if_neg ignored, if_neg ignored]
    cases call.resampled with
    | none => exact ⟨rfl, rfl⟩
    | some resampled =>
        have same (i : ℕ) : call.envs (([] : List (List Sample)).length + i) = call.envs i :=
          congrArg call.envs (Nat.zero_add i)
        obtain ⟨taken, drained⟩ := (s.bufferAudio resampled).processChunks_eq_drain onnx config
          call.envs [] [] same
        have running := (s.bufferAudio resampled).processChunks_running onnx config call.envs
        have start : (handlers onnx config).append s.opened.rest resampled =
          (s.bufferAudio resampled).opened.rest := rfl
        dsimp only
        rw [start, show s.opened.vadAccumulator ++ resampled =
          (s.bufferAudio resampled).pipeline.vadAccumulator from rfl, drained]
        refine ⟨?_, rfl⟩
        rw [opened, running]
        rfl

theorem processCalls_opened (s : TurnState Sample Rnn) (calls : List (AudioCall Sample)) :
    ((handlers onnx config).processCalls s.opened calls).pipeline =
      (calls.foldl (fun s call => (s.processAudio onnx config call).1) s).opened := by
  induction calls using List.reverseRecOn with
  | nil => rfl
  | append_singleton calls call ih =>
      rw [Handlers.processCalls_concat, ih, List.foldl_append]
      exact (processAudio_opened onnx config _ call).1

end TurnState

/-! ### The law

Two sequences of calls with the same stream between them give the same chunks, so in particular one
call with all of it does. -/

/-- **Chunking loses nothing**, whatever the handlers do: the chunks and the accumulator make up
the stream, and any other way of cutting that stream into calls gives the same chunks. -/
theorem chunks_of_calls {Sample Rest : Type*} (h : Handlers Sample Rest) (rest : Rest)
    (calls : List (AudioCall Sample)) :
    let done := h.processCalls (.start rest) calls
    let stream := calls.flatMap AudioCall.taken
    done.passed.flatten ++ done.pipeline.vadAccumulator = stream ∧
      (∀ chunk ∈ done.passed, chunk.length = 512) ∧
      done.pipeline.vadAccumulator.length < 512 ∧
      ∀ {Rest' : Type*} (h' : Handlers Sample Rest') (rest' : Rest')
        (calls' : List (AudioCall Sample)), calls'.flatMap AudioCall.taken = stream →
          let done' := h'.processCalls (.start rest') calls'
          done'.passed = done.passed ∧
            done'.pipeline.vadAccumulator = done.pipeline.vadAccumulator := by
  intro done stream
  obtain ⟨passed, accumulator, -⟩ := h.processCalls_spec (p := .start rest) rfl rfl calls
  refine ⟨?_, ?_, ?_, ?_⟩
  · rw [passed, accumulator]
    exact flatten_chunks_append_leftover kChunkSize stream
  · rw [passed]
    exact length_of_mem_chunks kChunkSize stream
  · rw [accumulator]
    exact length_leftover_lt (by decide) stream
  · intro Rest' h' rest' calls' same
    obtain ⟨passed', accumulator', -⟩ := h'.processCalls_spec (p := .start rest') rfl rfl calls'
    rw [same] at passed' accumulator'
    exact ⟨passed'.trans passed.symm, accumulator'.trans accumulator.symm⟩

end Saasy.ListeningEngine
