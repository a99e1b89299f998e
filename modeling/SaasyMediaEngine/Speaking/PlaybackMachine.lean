import SaasyMediaEngine.Speaking.CustomAudioDevice
import SaasyMediaEngine.Transition.Machine

/-!
# The threads around the audio device

Three threads share the audio device of a speaking session: the media thread pushes
chunks (`MediaStream::HandleMediaFrame`), the command thread calls
`SpeechGenerationComplete` and `FlushAudioBuffer`, and the capture thread runs its
loop, whose iteration has two critical sections with the delivery between them.
`StartRecording` and `StopRecording` start and end the capture thread.

`playback` takes one critical section, atomic store or queue operation of one of
them per step, in any order; its start state is that of a constructed `Session`.
Next to the device the state records what happened to every sample, and `Accounted`
says that nothing is ever lost from these records: each sample that was pushed is in
the queue, in the ring, in the frame the capture thread holds, or was delivered,
dropped by the latency cap, or flushed.

`Moved` is the inversion of a step, with one constructor for each of the ways that differ in what
they do to the audio; most of them do nothing to it (`SameAudio`), and `Moved.audio` leaves five
cases for the invariants of the audio: nothing, a push, a flush, a drain and a delivery.

The records are there to be spoken of: whether a step is possible and what it does to the device do
not depend on them.  A completion is recorded with how many chunks had been pushed by then, which is
what it means, and a firing keeps that number, so that it can be asked what it stood for.
-/

namespace Saasy.SpeakingEngine

open Transition

/-- `saasy::shared::v1::MediaKind`, as far as it is told apart: audio, video, and whatever else a
message may hold. -/
inductive MediaKind where
  | audio
  | video
  | other
  deriving DecidableEq

/-- A `v1::MediaFrame`, as far as the engine looks at it. -/
structure MediaFrame where
  frameData : List UInt8
  kind : MediaKind
  deviceProducerId : String
  deriving DecidableEq

/-- `MediaStream::kMaxFrameSize`. -/
def kMaxFrameSize : ℕ := 1024 * 1024

/-- `MediaStream::ValidateMediaFrame`. -/
def validateMediaFrame (frame : MediaFrame) : Bool :=
  decide (frame.frameData.length ≤ kMaxFrameSize) && !frame.frameData.isEmpty &&
    (frame.kind == .audio || frame.kind == .video) && frame.deviceProducerId != ""

/-- Where the capture thread is.  The frame that it has taken off the ring is in its hand from the
first critical section to the delivery. -/
inductive CapturePhase where
  /-- The loop was left, or never entered. -/
  | stopped
  /-- Before the test of `recording_`. -/
  | looping
  /-- Asleep until the next deadline. -/
  | sleeping
  /-- Between the first critical section and the delivery. -/
  | assembled (frame : List Sample)
  /-- Between the delivery and the completion check. -/
  | checking
  /-- Between the check and the call of the callback; `armed` chunks had been pushed
  when the flag it found was set. -/
  | firing (armed : ℕ)
  deriving DecidableEq

/-- The frame the capture thread holds. -/
def CapturePhase.frame : CapturePhase → List Sample
  | .assembled frame => frame
  | _ => []

structure PlaybackState where
  adm : CustomAudioDeviceModule
  capture : CapturePhase
  /-- The chunks that were pushed, oldest first. -/
  pushed : List PcmChunk
  /-- The frames that were delivered, oldest first. -/
  delivered : List (List Sample)
  /-- What the latency cap dropped. -/
  dropped : List Origin
  /-- What the flushes discarded. -/
  flushed : List Origin
  /-- The calls of `SpeechGenerationComplete`. -/
  completions : ℕ
  /-- How many chunks had been pushed at the last of them. -/
  armedAt : ℕ
  /-- The calls of the playback completion callback. -/
  fired : ℕ

namespace PlaybackState

/-- A constructed `Session`, its WebRTC factory and track created. -/
def created : PlaybackState where
  adm := CustomAudioDeviceModule.create.init.initRecording.startRecording.1
    |>.setPlaybackCompletionCallback
  capture := .looping
  pushed := []
  delivered := []
  dropped := []
  flushed := []
  completions := 0
  armedAt := 0
  fired := 0

/-- A successful push of a chunk. -/
def pushChunk (s : PlaybackState) (chunk : PcmChunk) : PlaybackState :=
  { s with
    adm := { s.adm with audioQueue := s.adm.audioQueue ++ [chunk] }
    pushed := s.pushed ++ [chunk] }

/-- `MediaStream::HandleMediaFrame`, in a session with the given
`audio_producer_id`. -/
def handleMediaFrame (audioProducerId : String) (frame : MediaFrame) (s : PlaybackState) :
    PlaybackState :=
  if !validateMediaFrame frame then s
  else if audioProducerId ≠ "" ∧ frame.deviceProducerId ≠ audioProducerId then s
  else if frame.frameData.length % 2 ≠ 0 then s
  else
    let chunk := ⟨s.pushed.length, frame.frameData⟩
    match s.adm.push chunk with
    | some adm => { s with adm, pushed := s.pushed ++ [chunk] }
    | none => s

/-- `SpeechGenerationCompleteCommand::Execute`. -/
def speechGenerationComplete (s : PlaybackState) : PlaybackState :=
  { s with
    adm := s.adm.completeSpeechGeneration
    completions := s.completions + 1
    armedAt := s.pushed.length }

/-- `FlushAudioCommand::Execute`, with a record of what it discards: the queue, and the ring behind
what the fade keeps. -/
def flushAudio (fadeDurationMs : UInt32) (s : PlaybackState) : PlaybackState :=
  let adm := s.adm.flushAudioBuffer fadeDurationMs
  let discarded :=
    if s.adm.recording then
      s.adm.ringSamples.drop adm.ringSamples.length ++
        s.adm.audioQueue.flatMap PcmChunk.samples
    else []
  { s with adm, flushed := s.flushed ++ origins discarded }

/-- The first critical section of the capture loop. -/
def drain (s : PlaybackState) : PlaybackState :=
  { s with
    adm := s.adm.drainCapAssemble.2
    capture := .assembled s.adm.drainCapAssemble.1
    dropped := s.dropped ++ origins s.adm.drainQueue.overCap }

/-- The completion check. -/
def check (s : PlaybackState) : PlaybackState :=
  { s with
    adm := s.adm.checkCompletion.2
    capture := if s.adm.checkCompletion.1 then .firing s.armedAt else .looping }

end PlaybackState

inductive PlaybackAction where
  | mediaFrame (audioProducerId : String) (frame : MediaFrame)
  | speechGenerationComplete
  | flushAudio (fadeDurationMs : UInt32)
  | startRecording
  | stopRecording
  | loopTest
  | drain
  | deliver
  | check
  | fire
  deriving DecidableEq

namespace PlaybackState

/-- One step of one of the threads, `none` while its thread is elsewhere. -/
def step (s : PlaybackState) : PlaybackAction → Option PlaybackState
  | .mediaFrame audioProducerId frame => some (s.handleMediaFrame audioProducerId frame)
  | .speechGenerationComplete => some s.speechGenerationComplete
  | .flushAudio fadeDurationMs => some (s.flushAudio fadeDurationMs)
  -- `StopRecording` joins the thread, so that a new one only starts once it is gone
  | .startRecording =>
      if s.adm.recording ∨ s.capture = .stopped then
        some { s with
          adm := s.adm.startRecording.1
          capture := if s.adm.startRecording.2 then .looping else s.capture }
      else none
  | .stopRecording => some { s with adm := s.adm.stopRecording }
  | .loopTest =>
      if s.capture = .looping then
        some { s with capture := if s.adm.recording then .sleeping else .stopped }
      else none
  | .drain => if s.capture = .sleeping then some s.drain else none
  | .deliver =>
      match s.capture with
      | .assembled frame =>
          some { s with capture := .checking, delivered := s.delivered ++ [frame] }
      | _ => none
  | .check => if s.capture = .checking then some s.check else none
  | .fire =>
      match s.capture with
      | .firing _ => some { s with capture := .looping, fired := s.fired + 1 }
      | _ => none

end PlaybackState

/-- The threads of one session, interleaved, from the end of its construction on, when the capture
thread is running and the callback is set. -/
def playback : Machine PlaybackState PlaybackAction where
  init := .created
  step := PlaybackState.step

namespace PlaybackState

variable {s t : PlaybackState} {action : PlaybackAction}

/-! ### What the steps do

A list of the steps with their guards, and a shorter one by what they do to the samples.  Most
steps move none. -/

/-- The ring cut down to what a flush keeps of it, and the queue emptied. -/
def flushedTo (ring : List Sample) (s : PlaybackState) : PlaybackState :=
  { s with
    adm := { s.adm with audioQueue := [], ringSamples := ring }
    flushed := s.flushed ++ origins (s.adm.ringSamples.drop ring.length ++
      s.adm.audioQueue.flatMap PcmChunk.samples) }

/-- **What a step can do**, with one constructor for each way it can go, and what is known in it.
The invariants of playback are proved by cases on it, or on the five cases of `Moved.audio`. -/
inductive Moved (s : PlaybackState) : PlaybackAction → PlaybackState → Prop
  | frameDropped (audioProducerId : String) (frame : MediaFrame) :
      s.Moved (.mediaFrame audioProducerId frame) s
  | framePushed (audioProducerId : String) (frame : MediaFrame) (chunk : PcmChunk)
      (valid : chunk.valid = true) (serial : chunk.serial = s.pushed.length) :
      s.Moved (.mediaFrame audioProducerId frame) (s.pushChunk chunk)
  | completes : s.Moved .speechGenerationComplete s.speechGenerationComplete
  | flushIgnored (fadeDurationMs : UInt32) (idle : s.adm.recording = false) :
      s.Moved (.flushAudio fadeDurationMs) s
  | flushes (fadeDurationMs : UInt32) (ring : List Sample) (recording : s.adm.recording = true)
      (shorter : ring.length ≤ s.adm.ringSamples.length)
      (kept : origins ring = origins (s.adm.ringSamples.take ring.length))
      (unfaded : fadeDurationMs = 0 → ring = []) :
      s.Moved (.flushAudio fadeDurationMs) (s.flushedTo ring)
  | startIgnored : s.Moved .startRecording s
  | starts (stopped : s.capture = .stopped) : s.Moved .startRecording
      { s with adm := { s.adm with recording := true }, capture := .looping }
  | stops : s.Moved .stopRecording { s with adm := s.adm.stopRecording }
  | sleeps (looping : s.capture = .looping) (recording : s.adm.recording = true) :
      s.Moved .loopTest { s with capture := .sleeping }
  | ends (looping : s.capture = .looping) (idle : s.adm.recording = false) :
      s.Moved .loopTest { s with capture := .stopped }
  | drains (sleeping : s.capture = .sleeping) : s.Moved .drain s.drain
  | delivers (frame : List Sample) (assembled : s.capture = .assembled frame) :
      s.Moved .deliver { s with capture := .checking, delivered := s.delivered ++ [frame] }
  | waits (checking : s.capture = .checking) : s.Moved .check { s with capture := .looping }
  | arms (checking : s.capture = .checking) (complete : s.adm.speechGenerationComplete = true)
      (empty : s.adm.ringSamples = []) : s.Moved .check
      { s with
        adm := { s.adm with speechGenerationComplete := false }, capture := .firing s.armedAt }
  | unheard (checking : s.capture = .checking)
      (unset : s.adm.playbackCompletionCallback = false) : s.Moved .check
      { s with adm := { s.adm with speechGenerationComplete := false }, capture := .looping }
  | fires (armed : ℕ) (firing : s.capture = .firing armed) :
      s.Moved .fire { s with capture := .looping, fired := s.fired + 1 }

theorem mediaFrame_moved (audioProducerId : String) (frame : MediaFrame) (s : PlaybackState) :
    s.Moved (.mediaFrame audioProducerId frame) (s.handleMediaFrame audioProducerId frame) := by
  unfold handleMediaFrame CustomAudioDeviceModule.push
  split_ifs with invalid _ odd room
  · exact .frameDropped _ _
  · exact .frameDropped _ _
  · exact .frameDropped _ _
  · refine .framePushed _ _ ⟨s.pushed.length, frame.frameData⟩ ?_ rfl
    simp only [validateMediaFrame, Bool.not_eq_true', Bool.and_eq_false_iff, not_or,
      Bool.not_eq_false] at invalid
    simpa [PcmChunk.valid, invalid.1.1.2] using odd
  · exact .frameDropped _ _

theorem flushAudio_moved (fadeDurationMs : UInt32) (s : PlaybackState) :
    s.Moved (.flushAudio fadeDurationMs) (s.flushAudio fadeDurationMs) := by
  obtain ⟨idle, same⟩ | ⟨recording, ring, flushed, shorter, kept, unfaded⟩ :=
    s.adm.flushAudioBuffer_cases fadeDurationMs
  · have unchanged : s.flushAudio fadeDurationMs = s := by
      simp [flushAudio, idle, same, origins]
    rw [unchanged]
    exact .flushIgnored fadeDurationMs idle
  · have cut : s.flushAudio fadeDurationMs = s.flushedTo ring := by
      simp [flushAudio, flushedTo, recording, flushed]
    rw [cut]
    exact .flushes fadeDurationMs ring recording shorter kept unfaded

theorem check_moved (checking : s.capture = .checking) : s.Moved .check s.check := by
  unfold check CustomAudioDeviceModule.checkCompletion
  by_cases complete : (s.adm.speechGenerationComplete && s.adm.ringSamples.isEmpty) = true
  · obtain ⟨flag, empty⟩ := Bool.and_eq_true_iff.mp complete
    rw [if_pos complete]
    cases callback : s.adm.playbackCompletionCallback with
    | true => simpa [callback] using Moved.arms checking flag (List.isEmpty_iff.mp empty)
    | false => simpa [callback] using Moved.unheard checking callback
  · rw [if_neg complete]
    exact .waits checking

theorem step_moved (step : s.step action = some t) : s.Moved action t := by
  cases action with
  | mediaFrame audioProducerId frame =>
      obtain rfl := Option.some.inj step
      exact mediaFrame_moved audioProducerId frame s
  | speechGenerationComplete =>
      obtain rfl := Option.some.inj step
      exact .completes
  | flushAudio fadeDurationMs =>
      obtain rfl := Option.some.inj step
      exact flushAudio_moved fadeDurationMs s
  | startRecording =>
      obtain ⟨enabled, ⟨⟩⟩ := Option.ite_none_right_eq_some.mp step
      obtain idle | ⟨recording, starts⟩ := s.adm.startRecording_cases
      · rw [idle]
        exact .startIgnored
      · rw [starts]
        exact .starts (enabled.resolve_left (by simp [recording]))
  | stopRecording =>
      obtain rfl := Option.some.inj step
      exact .stops
  | loopTest =>
      obtain ⟨looping, ⟨⟩⟩ := Option.ite_none_right_eq_some.mp step
      split_ifs with recording
      · exact .sleeps looping recording
      · exact .ends looping (eq_false_of_ne_true recording)
  | drain =>
      obtain ⟨sleeping, ⟨⟩⟩ := Option.ite_none_right_eq_some.mp step
      exact .drains sleeping
  | deliver =>
      cases phase : s.capture <;> simp only [PlaybackState.step, phase] at step <;> cases step
      exact .delivers _ phase
  | check =>
      obtain ⟨checking, ⟨⟩⟩ := Option.ite_none_right_eq_some.mp step
      exact check_moved checking
  | fire =>
      cases phase : s.capture <;> simp only [PlaybackState.step, phase] at step <;> cases step
      exact .fires _ phase

/-- A step that moves no sample: queue, ring and frame are as before, and so are all the records of
samples. -/
structure SameAudio (s t : PlaybackState) : Prop where
  queue : t.adm.audioQueue = s.adm.audioQueue
  ring : t.adm.ringSamples = s.adm.ringSamples
  frame : t.capture.frame = s.capture.frame
  pushed : t.pushed = s.pushed
  delivered : t.delivered = s.delivered
  dropped : t.dropped = s.dropped
  flushed : t.flushed = s.flushed

/-- Samples move in four kinds of steps only. -/
theorem Moved.audio (moved : s.Moved action t) :
    SameAudio s t ∨
      (∃ chunk : PcmChunk, chunk.valid ∧ chunk.serial = s.pushed.length ∧
        t = s.pushChunk chunk) ∨
      (∃ ring, ring.length ≤ s.adm.ringSamples.length ∧
        origins ring = origins (s.adm.ringSamples.take ring.length) ∧ t = s.flushedTo ring) ∨
      (s.capture = .sleeping ∧ t = s.drain) ∨
      (∃ frame, s.capture = .assembled frame ∧
        t = { s with capture := .checking, delivered := s.delivered ++ [frame] }) := by
  cases moved with
  | framePushed _ _ chunk valid serial => exact .inr (.inl ⟨chunk, valid, serial, rfl⟩)
  | flushes _ ring _ shorter kept => exact .inr (.inr (.inl ⟨ring, shorter, kept, rfl⟩))
  | drains sleeping => exact .inr (.inr (.inr (.inl ⟨sleeping, rfl⟩)))
  | delivers frame assembled => exact .inr (.inr (.inr (.inr ⟨frame, assembled, rfl⟩)))
  | frameDropped | completes | flushIgnored | startIgnored | stops =>
      exact .inl (by constructor <;> rfl)
  -- where the capture thread moves, it held no frame and holds none
  | starts phase | sleeps phase | ends phase | waits phase | arms phase | unheard phase
  | fires _ phase =>
      exact .inl ⟨rfl, rfl, by rw [phase]; rfl, rfl, rfl, rfl, rfl⟩

/-! ### Where the samples are

A chunk that was pushed is in the queue as a whole, or its samples are in the ring, in hand, or
settled.  The invariant keeps account of each of them by its origin. -/

/-- What the ring and the capture thread hold. -/
def inHand (s : PlaybackState) : List Origin :=
  origins s.adm.ringSamples ++ origins s.capture.frame

/-- What was delivered, dropped by the cap, or flushed. -/
def settled (s : PlaybackState) : List Origin :=
  origins s.delivered.flatten ++ s.dropped ++ s.flushed

structure Accounted (s : PlaybackState) : Prop where
  queue_valid : ∀ chunk ∈ s.adm.audioQueue, chunk.valid
  ring_le : s.adm.ringSamples.length ≤ hardCapSamples
  everywhere : ∀ chunk ∈ s.pushed, chunk ∈ s.adm.audioQueue ∨
    ∀ o ∈ origins chunk.samples, o ∈ s.inHand ∨ o ∈ s.settled

theorem accounted_created : created.Accounted := by
  constructor <;> simp [created, CustomAudioDeviceModule.create, CustomAudioDeviceModule.init,
    CustomAudioDeviceModule.initRecording, CustomAudioDeviceModule.startRecording,
    CustomAudioDeviceModule.setPlaybackCompletionCallback]

/-- A step that only moves samples between the hands and the records loses none. -/
theorem Accounted.of_moved (accounted : s.Accounted)
    (queue_valid : ∀ chunk ∈ t.adm.audioQueue, chunk.valid)
    (ring_le : t.adm.ringSamples.length ≤ hardCapSamples) (pushed : t.pushed = s.pushed)
    (queued : ∀ chunk ∈ s.adm.audioQueue, chunk ∈ t.adm.audioQueue ∨
      ∀ o ∈ origins chunk.samples, o ∈ t.inHand ∨ o ∈ t.settled)
    (held : ∀ o ∈ s.inHand, o ∈ t.inHand ∨ o ∈ t.settled)
    (kept : s.settled ⊆ t.settled) : t.Accounted := by
  refine ⟨queue_valid, ring_le, fun chunk hchunk => ?_⟩
  rw [pushed] at hchunk
  rcases accounted.everywhere chunk hchunk with hqueue | hsamples
  · exact queued chunk hqueue
  · refine .inr fun o ho => ?_
    rcases hsamples o ho with hhand | hsettled
    · exact held o hhand
    · exact .inr (kept hsettled)

theorem SameAudio.accounted (same : SameAudio s t) (accounted : s.Accounted) :
    t.Accounted := by
  have hand : t.inHand = s.inHand := by rw [inHand, inHand, same.ring, same.frame]
  have settled : t.settled = s.settled := by
    rw [PlaybackState.settled, PlaybackState.settled, same.delivered, same.dropped,
      same.flushed]
  refine accounted.of_moved ?_ ?_ same.pushed (fun chunk hchunk => .inl ?_) ?_ ?_
  · rw [same.queue]
    exact accounted.queue_valid
  · rw [same.ring]
    exact accounted.ring_le
  · rwa [same.queue]
  · exact fun o ho => .inl (hand ▸ ho)
  · exact settled ▸ List.Subset.refl _

theorem Accounted.pushChunk (accounted : s.Accounted) {chunk : PcmChunk}
    (valid : chunk.valid) : (s.pushChunk chunk).Accounted := by
  refine ⟨fun c hc => ?_, accounted.ring_le, fun c hc => ?_⟩
  · rcases List.mem_append.mp hc with old | new
    · exact accounted.queue_valid c old
    · exact List.mem_singleton.mp new ▸ valid
  · rcases List.mem_append.mp hc with old | new
    · exact (accounted.everywhere c old).imp (List.mem_append_left _) id
    · exact .inl (List.mem_append_right _ new)

theorem Accounted.flushedTo (accounted : s.Accounted) {ring : List Sample}
    (shorter : ring.length ≤ s.adm.ringSamples.length)
    (kept : origins ring = origins (s.adm.ringSamples.take ring.length)) :
    (s.flushedTo ring).Accounted := by
  refine accounted.of_moved (by simp [PlaybackState.flushedTo])
    (shorter.trans accounted.ring_le) rfl
    (fun chunk hchunk => .inr fun o ho => .inr ?_) (fun o ho => ?_) ?_
  · -- a chunk that was waiting in the queue is flushed whole
    obtain ⟨sample, hsample, horigin⟩ := List.mem_filterMap.mp ho
    refine List.mem_append_right _ (List.mem_append_right _ (List.mem_filterMap.mpr ?_))
    exact ⟨sample, List.mem_append_right _ (List.mem_flatMap.mpr ⟨chunk, hchunk, hsample⟩),
      horigin⟩
  · -- the ring is kept up to the end of the fade
    rcases List.mem_append.mp ho with hring | hframe
    · rw [← List.take_append_drop ring.length s.adm.ringSamples,
        CustomAudioDeviceModule.origins_append, List.mem_append, ← kept] at hring
      rcases hring with kept | gone
      · exact .inl (List.mem_append_left _ kept)
      · refine .inr (List.mem_append_right _ (List.mem_append_right _ ?_))
        rw [CustomAudioDeviceModule.origins_append]
        exact List.mem_append_left _ gone
    · exact .inl (List.mem_append_right _ hframe)
  · intro o ho
    simp only [PlaybackState.flushedTo, settled, List.mem_append] at ho ⊢
    tauto

theorem Accounted.drain (accounted : s.Accounted) (sleeping : s.capture = .sleeping) :
    s.drain.Accounted := by
  obtain ⟨ring, underruns, hadm, hring⟩ := s.adm.drainCapAssemble_cases
  have conserved := s.adm.origins_drainCapAssemble
  -- what was in the ring or came out of the queue is somewhere after the step
  have moved : ∀ o ∈ origins s.adm.ringSamples ++
      origins ((s.adm.audioQueue.filter PcmChunk.valid).flatMap PcmChunk.samples),
      o ∈ s.drain.inHand ∨ o ∈ s.drain.settled := by
    intro o ho
    rw [conserved, List.mem_append, List.mem_append] at ho
    rcases ho with excess | frame | ring
    · exact .inr (List.mem_append_left _
        (List.mem_append_right _ (List.mem_append_right _ excess)))
    · exact .inl (List.mem_append_right _ frame)
    · exact .inl (List.mem_append_left _ ring)
  refine accounted.of_moved ?_ ?_ rfl (fun chunk hchunk => .inr fun o ho => moved o ?_)
    (fun o ho => moved o ?_) ?_
  · simp [PlaybackState.drain, hadm]
  · simpa [PlaybackState.drain, hadm] using hring
  · obtain ⟨sample, hsample, horigin⟩ := List.mem_filterMap.mp ho
    refine List.mem_append_right _ (List.mem_filterMap.mpr ⟨sample, ?_, horigin⟩)
    exact List.mem_flatMap.mpr
      ⟨chunk, List.mem_filter.mpr ⟨hchunk, accounted.queue_valid chunk hchunk⟩, hsample⟩
  · rw [inHand, sleeping] at ho
    -- a sleeping thread holds no frame
    simpa [CapturePhase.frame, origins] using Or.inl ho
  · intro o ho
    rw [settled, List.mem_append, List.mem_append] at ho
    rcases ho with (delivered | dropped) | flushed
    · exact List.mem_append_left _ (List.mem_append_left _ delivered)
    · exact List.mem_append_left _ (List.mem_append_right _ (List.mem_append_left _ dropped))
    · exact List.mem_append_right _ flushed

theorem Accounted.deliver (accounted : s.Accounted) {frame : List Sample}
    (assembled : s.capture = .assembled frame) :
    { s with capture := .checking, delivered := s.delivered ++ [frame] }.Accounted := by
  refine accounted.of_moved accounted.queue_valid accounted.ring_le rfl
    (fun chunk hchunk => .inl hchunk) (fun o ho => ?_) (fun o ho => ?_)
  · rw [inHand, assembled] at ho
    simp only [CapturePhase.frame, inHand, settled, List.flatten_append, List.flatten_singleton,
      CustomAudioDeviceModule.origins_append, List.mem_append] at ho ⊢
    tauto
  · simp only [settled, List.flatten_append, List.flatten_singleton,
      CustomAudioDeviceModule.origins_append, List.mem_append] at ho ⊢
    tauto

/-- Every step keeps account of every sample. -/
theorem Accounted.moved (accounted : s.Accounted) (moved : s.Moved action t) :
    t.Accounted := by
  obtain same | ⟨chunk, valid, -, rfl⟩ | ⟨ring, shorter, kept, rfl⟩ | ⟨sleeping, rfl⟩ |
    ⟨frame, assembled, rfl⟩ := moved.audio
  · exact same.accounted accounted
  · exact accounted.pushChunk valid
  · exact accounted.flushedTo shorter kept
  · exact accounted.drain sleeping
  · exact accounted.deliver assembled

/-- In every reachable state each sample that was pushed is accounted for. -/
theorem accounted_of_reachable (reached : playback.Reachable s) : s.Accounted :=
  playback.invariant accounted_created
    (fun _ _ _ accounted step => accounted.moved (step_moved step)) reached

end PlaybackState

end Saasy.SpeakingEngine
