import SaasyMediaEngine.Speaking.PlaybackMachine

/-!
# Announcing that playback is complete

The completion check fires when the flag is set and the ring is empty.  It looks
neither at the queue nor at what was pushed since the queue was last drained, and
the flag is set without the lock: a chunk that is pushed between an iteration's
first critical section and its second, followed by `SpeechGenerationComplete`, is
still in the queue when the callback fires.

`PlayedOut` is what a firing claims.  As long as no `SpeechGenerationComplete` falls
into that window with an empty ring and a chunk in the queue (`SeesQueue`), every
firing is on time; and there are never more firings than calls, whatever happens.

The invariant `OnCourse` has two windows.  Between the critical sections of an iteration with an
empty ring, all chunks in the queue are newer than the last completion, so that the check would fire
for chunks that are through; and between the check and the callback, what it stands for has been
played out.  A push keeps both, because a chunk that is pushed later has a later number.  Only
`SpeechGenerationComplete` itself can break the first, by making an old chunk part of what the
next firing stands for, and that is the step which `SeesQueue` excludes.

The count needs no condition: the flag is cleared where the callback is called for.
-/

namespace Saasy.SpeakingEngine

open Transition

/-- Between the two critical sections of an iteration. -/
def CapturePhase.deciding : CapturePhase → Bool
  | .assembled _ | .checking => true
  | _ => false

/-- How many chunks had been pushed when the completion about to fire was armed. -/
def CapturePhase.armed : CapturePhase → Option ℕ
  | .firing armed => some armed
  | _ => none

namespace PlaybackState

variable {s t : PlaybackState} {action : PlaybackAction} {armed : ℕ}

/-- The first `armed` chunks that were pushed are out of the queue, and each of their
samples was delivered, dropped by the cap, or flushed. -/
def PlayedOut (armed : ℕ) (s : PlaybackState) : Prop :=
  ∀ chunk ∈ s.pushed, chunk.serial < armed →
    chunk ∉ s.adm.audioQueue ∧ ∀ o ∈ origins chunk.samples, o ∈ s.settled

instance : Decidable (s.PlayedOut armed) :=
  inferInstanceAs (Decidable (∀ chunk ∈ s.pushed, _ → _ ∧ _))

/-- The step is not `SpeechGenerationComplete` between the critical sections of an
iteration, the ring empty and a chunk in the queue. -/
def SeesQueue (s : PlaybackState) (action : PlaybackAction) : Prop :=
  action = .speechGenerationComplete → s.capture.deciding → s.adm.ringSamples = [] →
    s.adm.audioQueue = []

instance : Decidable (SeesQueue s action) :=
  inferInstanceAs (Decidable (_ → _ → _ → _))

/-- A firing comes after everything its completion stands for. -/
def OnTime (taken : Taken PlaybackState PlaybackAction) : Prop :=
  taken.action = .fire →
    ∀ armed ∈ taken.before.capture.armed, taken.before.PlayedOut armed

instance (taken : Taken PlaybackState PlaybackAction) : Decidable (OnTime taken) :=
  inferInstanceAs (Decidable (_ → ∀ armed ∈ taken.before.capture.armed, _))

/-! ### Firings are on time

The check is made after the first critical section, on flags that may have been set since.  The
invariant speaks of this window: if the ring is empty there, whatever is still in the queue was
pushed after the completion was armed. -/

/-- What is played out stays so while the queue only loses chunks. -/
theorem PlayedOut.mono (played : s.PlayedOut armed) (pushed : t.pushed = s.pushed)
    (queue : t.adm.audioQueue ⊆ s.adm.audioQueue) (settled : s.settled ⊆ t.settled) :
    t.PlayedOut armed := by
  intro chunk hchunk serial
  obtain ⟨gone, samples⟩ := played chunk (pushed ▸ hchunk) serial
  exact ⟨fun queued => gone (queue queued), fun o ho => settled (samples o ho)⟩

/-- A chunk that is pushed later has a later number. -/
theorem PlayedOut.pushChunk (played : s.PlayedOut armed) (armed_le : armed ≤ s.pushed.length)
    {chunk : PcmChunk} (serial : chunk.serial = s.pushed.length) :
    (s.pushChunk chunk).PlayedOut armed := by
  intro c hc early
  have old : c ≠ chunk := by
    rintro rfl
    omega
  rcases List.mem_append.mp hc with hc | hc
  · obtain ⟨gone, samples⟩ := played c hc early
    refine ⟨fun queued => ?_, samples⟩
    rcases List.mem_append.mp queued with queued | new
    · exact gone queued
    · exact old (List.mem_singleton.mp new)
  · exact absurd (List.mem_singleton.mp hc) old

/-- The invariant of the runs in which each completion sees the queue.  It speaks of the check
before it is made and of the callback before it is called. -/
structure OnCourse (s : PlaybackState) : Prop where
  accounted : s.Accounted
  armed_le : s.armedAt ≤ s.pushed.length
  /-- Where the next check is going to fire, only later chunks are queued. -/
  window : s.capture.deciding → s.adm.ringSamples = [] →
    ∀ chunk ∈ s.adm.audioQueue, s.armedAt ≤ chunk.serial
  firing : ∀ armed ∈ s.capture.armed, armed ≤ s.pushed.length ∧ s.PlayedOut armed

theorem onCourse_created : created.OnCourse where
  accounted := accounted_created
  armed_le := Nat.le_refl _
  window := nofun
  firing := nofun

/-- A state outside both windows only has to keep account. -/
theorem OnCourse.of_outside (accounted : t.Accounted) (armed_le : t.armedAt ≤ t.pushed.length)
    (deciding : t.capture.deciding = false) (unarmed : t.capture.armed = none) :
    t.OnCourse where
  accounted := accounted
  armed_le := armed_le
  window := by simp [deciding]
  firing := by simp [unarmed]

theorem OnCourse.pushChunk (inv : s.OnCourse) {chunk : PcmChunk} (valid : chunk.valid)
    (serial : chunk.serial = s.pushed.length) : (s.pushChunk chunk).OnCourse where
  accounted := inv.accounted.pushChunk valid
  armed_le := by
    refine inv.armed_le.trans ?_
    simp [PlaybackState.pushChunk]
  window := by
    intro deciding empty c hc
    rcases List.mem_append.mp hc with old | new
    · exact inv.window deciding empty c old
    · obtain rfl := List.mem_singleton.mp new
      exact serial ▸ inv.armed_le
  firing := by
    intro armed harmed
    obtain ⟨le, played⟩ := inv.firing armed harmed
    refine ⟨le.trans ?_, played.pushChunk le serial⟩
    simp [PlaybackState.pushChunk]

theorem OnCourse.speechGenerationComplete (inv : s.OnCourse)
    (sees : SeesQueue s .speechGenerationComplete) : s.speechGenerationComplete.OnCourse where
  accounted := ⟨inv.accounted.queue_valid, inv.accounted.ring_le, inv.accounted.everywhere⟩
  armed_le := Nat.le_refl _
  window := by
    intro deciding empty chunk hchunk
    have none : s.adm.audioQueue = [] := sees rfl deciding empty
    exact absurd hchunk (by simp [PlaybackState.speechGenerationComplete,
      CustomAudioDeviceModule.completeSpeechGeneration, none])
  firing := inv.firing

theorem OnCourse.flushedTo (inv : s.OnCourse) {ring : List Sample}
    (accounted : (s.flushedTo ring).Accounted) : (s.flushedTo ring).OnCourse where
  accounted := accounted
  armed_le := inv.armed_le
  window := by
    intro _ _ chunk hchunk
    cases hchunk
  firing := by
    intro armed harmed
    obtain ⟨le, played⟩ := inv.firing armed harmed
    refine ⟨le, played.mono rfl (List.nil_subset _) ?_⟩
    intro o ho
    simp only [PlaybackState.flushedTo, settled, List.mem_append] at ho ⊢
    tauto

/-- **The check.**  When it fires, the ring is empty, the thread holds no frame, and
the window says that the chunks it stands for are out of the queue. -/
theorem OnCourse.playedOut (inv : s.OnCourse) (checking : s.capture = .checking)
    (empty : s.adm.ringSamples = []) : s.PlayedOut s.armedAt := by
  intro chunk hchunk early
  have gone : chunk ∉ s.adm.audioQueue := fun queued =>
    absurd (inv.window (by rw [checking]; rfl) empty chunk queued) (not_le.mpr early)
  refine ⟨gone, fun o ho => ?_⟩
  rcases (inv.accounted.everywhere chunk hchunk).resolve_left gone o ho with hand | settled
  · -- nothing is in hand: the ring is empty and the frame was delivered
    simp [inHand, empty, checking, CapturePhase.frame, origins] at hand
  · exact settled

theorem OnCourse.moved (inv : s.OnCourse) (sees : SeesQueue s action)
    (moved : s.Moved action t) : t.OnCourse := by
  have accounted := inv.accounted.moved moved
  cases moved with
  | frameDropped | flushIgnored | startIgnored => exact inv
  | framePushed _ _ chunk valid serial => exact inv.pushChunk valid serial
  | completes => exact inv.speechGenerationComplete sees
  | flushes => exact inv.flushedTo accounted
  | stops => exact ⟨accounted, inv.armed_le, inv.window, inv.firing⟩
  | drains =>
      obtain ⟨ring, underruns, hadm, -⟩ := s.adm.drainCapAssemble_cases
      -- the queue has just been emptied
      refine ⟨accounted, inv.armed_le, fun _ _ chunk hchunk => ?_, fun armed harmed => ?_⟩
      · have none : s.drain.adm.audioQueue = [] := congrArg _ hadm
        exact absurd hchunk (by simp [none])
      · cases harmed
  | delivers frame assembled =>
      refine ⟨accounted, inv.armed_le, fun _ => inv.window (by rw [assembled]; rfl), ?_⟩
      intro armed harmed
      cases harmed
  | arms checking _ empty =>
      have played := inv.playedOut checking empty
      refine ⟨accounted, inv.armed_le, fun deciding => ?_, fun armed harmed => ?_⟩
      · cases deciding
      · obtain rfl := Option.some.inj harmed
        exact ⟨inv.armed_le, played⟩
  | starts | sleeps | ends | waits | unheard | fires =>
      exact .of_outside accounted inv.armed_le rfl rfl

/-! ### No more firings than calls

A call arms one completion, and a firing uses it up.  An announcement may get lost in this way,
when two calls come before one firing, but none is invented. -/

/-- The firings, and those that may still come of the calls so far. -/
def owed (s : PlaybackState) : ℕ :=
  s.fired + (if s.adm.speechGenerationComplete then 1 else 0) +
    (if s.capture.armed.isSome then 1 else 0)

theorem fired_le_owed (s : PlaybackState) : s.fired ≤ s.owed := by
  rw [owed, Nat.add_assoc]
  exact Nat.le_add_right ..

theorem owed_le_of_moved (le : s.owed ≤ s.completions) (moved : s.Moved action t) :
    t.owed ≤ t.completions := by
  cases moved with
  | frameDropped | flushIgnored | startIgnored | framePushed | flushes | stops => exact le
  | completes =>
      -- a call owes one firing more, unless the flag was still set
      have more : s.speechGenerationComplete.owed ≤ s.owed + 1 := by
        show s.fired + 1 + (if s.capture.armed.isSome then 1 else 0) ≤ s.owed + 1
        unfold owed
        omega
      exact more.trans (Nat.succ_le_succ le)
  | drains sleeping =>
      obtain ⟨ring, underruns, hadm, -⟩ := s.adm.drainCapAssemble_cases
      simpa [owed, PlaybackState.drain, hadm, sleeping, CapturePhase.armed] using le
  | arms checking complete =>
      -- the check trades the flag for a firing
      simpa [owed, checking, complete, CapturePhase.armed] using le
  | unheard checking =>
      refine le.trans' ?_
      simp only [owed, checking, CapturePhase.armed]
      split_ifs <;> simp_all
  | fires armed firing =>
      refine le.trans' (le_of_eq ?_)
      simp only [owed, firing, CapturePhase.armed]
      split_ifs <;> simp_all
  | starts phase | sleeps phase | ends phase | waits phase | delivers _ phase =>
      simpa [owed, phase, CapturePhase.armed] using le

/-- **Firings are on time as long as each completion sees the queue**, and there are never more of
them than completions, whether they see it or not. -/
theorem onTime_of_seesQueue (actions : List PlaybackAction)
    (sees : playback.Meets SeesQueue created actions) :
    (∀ taken ∈ playback.transitions created actions, OnTime taken) ∧
      ∀ s, playback.run created actions = some s → s.fired ≤ s.completions := by
  constructor
  · intro taken htaken _ armed harmed
    obtain ⟨inv, -⟩ := playback.transitions_of_meets (motive := OnCourse)
      (fun _ _ _ inv sees step => inv.moved sees (step_moved step)) onCourse_created sees taken
      htaken
    exact (inv.firing armed harmed).2
  · intro s run
    have start : created.owed ≤ created.completions := Nat.le_refl 0
    have le := playback.invariant_of_run (motive := fun s => s.owed ≤ s.completions)
      (fun _ _ _ le step => owed_le_of_moved le (step_moved step)) start run
    exact s.fired_le_owed.trans le

/-- An utterance of one chunk, played out before its completion fires. -/
theorem onTime_one_utterance :
    let frame : MediaFrame := ⟨List.replicate 960 0, .audio, "p"⟩
    let actions : List PlaybackAction :=
      [.mediaFrame "p" frame, .loopTest, .speechGenerationComplete, .drain, .deliver, .check,
        .fire]
    (∃ s ∈ playback.run created actions, s.fired = 1) ∧
      ∀ taken ∈ playback.transitions created actions, OnTime taken := by
  intro frame actions
  refine ⟨by decide +kernel, (onTime_of_seesQueue actions ?_).1⟩
  show ∀ taken ∈ playback.transitions created actions, SeesQueue taken.before taken.action
  decide +kernel

/-- An utterance that arrives whole between the two critical sections of one iteration is
announced as played while it is still in the queue. -/
theorem completion_before_playback :
    let actions : List PlaybackAction :=
      [.loopTest, .drain, .mediaFrame "p" ⟨[0, 0], .audio, "p"⟩, .speechGenerationComplete,
        .deliver, .check, .fire]
    ∃ taken ∈ playback.transitions created actions, ¬ OnTime taken := by
  decide +kernel

end PlaybackState

end Saasy.SpeakingEngine
