import SaasyMediaEngine.Speaking.PlaybackMachine

/-!
# Flushing what was queued

A flush takes effect wherever the audio waits: it empties the queue and, without a
fade, the ring, and at most the frame the capture thread already holds goes out
after it.  But `FlushAudioBuffer` returns at once while nothing is recorded, and
`FlushAudioCommand` reports success all the same: what is in the ring or the queue
at that time is delivered once recording starts again.

`Silenced` relates a flush to a later delivery, and `silenced_of_heard` proves it for
the runs whose flushes find the device recording, or nothing to discard.

What was pushed before a flush is told from what came later by the numbers of the chunks.  `Behind`
is the invariant of everything after the flush: the queue and the ring hold later chunks only, and
the frame is later too, or it is the frame that the capture thread held at the flush and has not
delivered yet.  A later flush that is ignored, or that fades, keeps it as well; nothing brings back
a sample that has left.
-/

namespace Saasy.SpeakingEngine

open Transition

/-- Samples know the number of their chunk. -/
theorem PcmChunk.chunk_of_mem_samples {chunk : PcmChunk} {o : Origin}
    (ho : o ∈ origins chunk.samples) : o.chunk = chunk.serial := by
  obtain ⟨sample, hsample, horigin⟩ := List.mem_filterMap.mp ho
  obtain ⟨x, -, rfl⟩ := List.mem_map.mp hsample
  exact congrArg Origin.chunk (Option.some.inj horigin).symm

namespace PlaybackState

variable {flush s t : PlaybackState} {action : PlaybackAction}

/-- No sample is left that had been pushed when the flush was called, but for those of
the frame the capture thread held then and still holds. -/
structure Behind (flush s : PlaybackState) : Prop where
  pushed : flush.pushed.length ≤ s.pushed.length
  queue : ∀ chunk ∈ s.adm.audioQueue, flush.pushed.length ≤ chunk.serial
  ring : ∀ o ∈ origins s.adm.ringSamples, flush.pushed.length ≤ o.chunk
  frame : (∀ o ∈ origins s.capture.frame, flush.pushed.length ≤ o.chunk) ∨
    (s.capture.frame = flush.capture.frame ∧ s.delivered = flush.delivered)

/-- A flush without a fade that is not ignored, or has nothing to discard. -/
def Heard (s : PlaybackState) (action : PlaybackAction) : Prop :=
  action = .flushAudio 0 →
    s.adm.recording = true ∨ (s.adm.ringSamples = [] ∧ s.adm.audioQueue = [])

instance : Decidable (Heard s action) := inferInstanceAs (Decidable (_ → _))

theorem behind_of_heard (heard : Heard s (.flushAudio 0))
    (moved : s.Moved (.flushAudio 0) t) : Behind s t := by
  cases moved with
  | flushIgnored _ idle =>
      obtain ⟨ring, queue⟩ := (heard rfl).resolve_left (by simp [idle])
      exact ⟨Nat.le_refl _, by simp [queue], by simp [ring, origins], .inr ⟨rfl, rfl⟩⟩
  | flushes _ ring _ _ _ unfaded =>
      obtain rfl := unfaded rfl
      exact ⟨Nat.le_refl _, by simp [flushedTo], by simp [flushedTo, origins],
        .inr ⟨rfl, rfl⟩⟩

/-- Nothing of before the flush comes back. -/
theorem Behind.moved (behind : Behind flush s) (moved : s.Moved action t) :
    Behind flush t := by
  obtain same | ⟨chunk, -, serial, rfl⟩ | ⟨ring, -, kept, rfl⟩ | ⟨-, rfl⟩ |
    ⟨frame, -, rfl⟩ := moved.audio
  · obtain ⟨queue, ring, frame, pushed, delivered, -, -⟩ := same
    exact ⟨pushed ▸ behind.pushed, queue ▸ behind.queue, ring ▸ behind.ring,
      by rw [frame, delivered]; exact behind.frame⟩
  · refine ⟨behind.pushed.trans ?_, fun c hc => ?_, behind.ring, behind.frame⟩
    · simp [PlaybackState.pushChunk]
    · rcases List.mem_append.mp hc with old | new
      · exact behind.queue c old
      · rw [List.mem_singleton.mp new, serial]
        exact behind.pushed
  · refine ⟨behind.pushed, by simp [flushedTo], fun o ho => behind.ring o ?_, behind.frame⟩
    have ho : o ∈ origins (s.adm.ringSamples.take ring.length) := kept ▸ ho
    exact ((List.take_sublist _ _).filterMap _).subset ho
  · obtain ⟨ring, underruns, hadm, -⟩ := s.adm.drainCapAssemble_cases
    -- the new frame and the new ring come out of the old ring and the queue
    have recent : ∀ o ∈ origins s.adm.drainQueue.overCap ++ (origins s.adm.drainCapAssemble.1 ++
        origins s.adm.drainCapAssemble.2.ringSamples), flush.pushed.length ≤ o.chunk := by
      intro o ho
      rw [← s.adm.origins_drainCapAssemble, List.mem_append] at ho
      rcases ho with old | drained
      · exact behind.ring o old
      · obtain ⟨sample, hsample, horigin⟩ := List.mem_filterMap.mp drained
        obtain ⟨chunk, hchunk, hsample⟩ := List.mem_flatMap.mp hsample
        rw [PcmChunk.chunk_of_mem_samples (List.mem_filterMap.mpr ⟨sample, hsample, horigin⟩)]
        exact behind.queue chunk (List.mem_of_mem_filter hchunk)
    refine ⟨behind.pushed, ?_, fun o ho => recent o ?_, .inl fun o ho => recent o ?_⟩
    · simp [PlaybackState.drain, hadm]
    · exact List.mem_append_right _ (List.mem_append_right _ ho)
    · exact List.mem_append_right _ (List.mem_append_left _ ho)
  · exact ⟨behind.pushed, behind.queue, behind.ring, .inl fun o ho => absurd ho List.not_mem_nil⟩

/-- A frame has 480 samples. -/
theorem length_frame_le_of_moved (le : s.capture.frame.length ≤ kSamplesPer10ms)
    (moved : s.Moved action t) : t.capture.frame.length ≤ kSamplesPer10ms := by
  obtain same | ⟨chunk, -, -, rfl⟩ | ⟨ring, -, -, rfl⟩ | ⟨-, rfl⟩ | ⟨frame, -, rfl⟩ :=
    moved.audio
  · rw [same.frame]
    exact le
  · exact le
  · exact le
  · show s.adm.drainQueue.enforceCap.assembleOne10msFrame.1.length ≤ kSamplesPer10ms
    obtain ⟨-, hframe⟩ | ⟨-, hframe⟩ := s.adm.drainQueue.enforceCap.assemble_cases <;> rw [hframe]
    · exact List.length_take_le ..
    · rw [List.length_replicate]
  · exact Nat.zero_le _

/-- After a flush without a fade a later delivery has no sample that had been pushed
when the flush was called, unless it is of the one frame that was assembled then. -/
def Silenced (flush later : Taken PlaybackState PlaybackAction) : Prop :=
  flush.action = .flushAudio 0 → later.action = .deliver →
    (∀ o ∈ origins later.before.capture.frame, flush.before.pushed.length ≤ o.chunk) ∨
      (later.before.capture.frame = flush.before.capture.frame ∧
        later.before.capture.frame.length ≤ kSamplesPer10ms ∧
        later.before.delivered = flush.before.delivered)

instance (flush later : Taken PlaybackState PlaybackAction) : Decidable (Silenced flush later) :=
  inferInstanceAs (Decidable (_ → _ → _ ∨ _ ∧ _ ∧ _))

/-- **A flush silences what was pushed before it**, if it finds the device recording or nothing to
discard: of the samples that had been pushed, only those of the frame in hand are delivered
afterwards. -/
theorem silenced_of_heard (actions : List PlaybackAction)
    (heard : playback.Meets Heard created actions) :
    (playback.transitions created actions).Pairwise Silenced := by
  refine playback.pairwise_of_meets
    (fun flush s => flush.action = .flushAudio 0 → Behind flush.before s)
    (motive := fun s => s.capture.frame.length ≤ kSamplesPer10ms)
    ?_ ?_ ?_ ?_ (Nat.zero_le _) heard
  · exact fun _ _ _ le _ step => length_frame_le_of_moved le (step_moved step)
  · rintro s action t - heard step rfl
    exact behind_of_heard heard (step_moved step)
  · exact fun _ _ _ _ behind step isFlush => (behind isFlush).moved (step_moved step)
  · intro first s action t le behind _ isFlush _
    obtain later | ⟨frame, delivered⟩ := (behind isFlush).frame
    · exact .inl later
    · exact .inr ⟨frame, le, delivered⟩

/-- A barge-in while a frame is in hand: that frame goes out, and silence after it. -/
theorem silenced_barge_in :
    let frame : MediaFrame := ⟨List.replicate 1920 0, .audio, "p"⟩
    let actions : List PlaybackAction :=
      [.mediaFrame "p" frame, .loopTest, .drain, .mediaFrame "p" frame, .flushAudio 0, .deliver,
        .check, .loopTest, .drain, .deliver]
    (∃ s ∈ playback.run created actions,
      s.delivered.map List.length = [480, 480] ∧ (s.delivered.map origins).getLast? = some []) ∧
      (playback.transitions created actions).Pairwise Silenced := by
  intro frame actions
  refine ⟨by decide +kernel, silenced_of_heard actions ?_⟩
  show ∀ taken ∈ playback.transitions created actions, Heard taken.before taken.action
  decide +kernel

/-- A flush between `StopRecording` and `StartRecording` discards nothing. -/
theorem flush_not_heard :
    let frame : MediaFrame := ⟨List.replicate 960 0, .audio, "p"⟩
    let actions : List PlaybackAction :=
      [.stopRecording, .loopTest, .mediaFrame "p" frame, .flushAudio 0, .startRecording,
        .loopTest, .drain, .deliver]
    ¬ (playback.transitions created actions).Pairwise Silenced := by
  decide +kernel

end PlaybackState

end Saasy.SpeakingEngine
