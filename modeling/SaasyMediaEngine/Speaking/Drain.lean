import Mathlib.Algebra.Order.Floor.Div
import SaasyMediaEngine.Speaking.PlaybackMachine

/-!
# Draining the ring

With recording on, what is left to play should leave the ring at 480 samples per
iteration of the capture loop, and the completion callback should follow.  It does
when whole frames are left.  `AssembleOne10msFrame` takes a frame only if the ring
holds one, and the completion check asks for an empty ring: the last few samples of
an utterance that does not end on a 10 ms boundary stay, and the callback waits for
audio that pads them.

`DrainsCompletely` states both halves for a state at the top of the loop, and
`drainsCompletely_iff` says for which of the reachable ones it holds.

The states are those that the threads can reach, and the law speaks of what happens from there if
only the capture thread moves: `tick` is a run of the machine with no other step in between.  An
iteration keeps the number of samples left modulo 480 (`Ticked.mod_pending`), which gives one
direction, and with a whole frame left it takes one (`Ticked.length_pending`), which gives the
other.  The last check is part of it: the completion that was waiting fires in the iteration that
leaves the ring empty.
-/

namespace Saasy.SpeakingEngine

open Transition

namespace CustomAudioDeviceModule

/-- What the next iteration finds in the ring: the samples left to play. -/
def pending (adm : CustomAudioDeviceModule) : List Sample :=
  adm.drainQueue.enforceCap.ringSamples

/-- With nothing in the queue that is the ring. -/
theorem pending_of_empty {adm : CustomAudioDeviceModule} (empty : adm.audioQueue = [])
    (ring_le : adm.ringSamples.length ≤ hardCapSamples) : adm.pending = adm.ringSamples := by
  rw [pending, drainQueue_of_empty empty, enforceCap_of_le ring_le]

/-- Completing speech generation leaves the audio alone. -/
theorem pending_completeSpeechGeneration (adm : CustomAudioDeviceModule) :
    adm.completeSpeechGeneration.pending = adm.pending := by
  rw [pending, enforceCap_eq, pending, enforceCap_eq]
  rfl

/-- The ring after one iteration. -/
def leftover (samples : List Sample) : List Sample :=
  if kSamplesPer10ms ≤ samples.length then samples.drop kSamplesPer10ms else samples

theorem drainCapAssemble_leftover (adm : CustomAudioDeviceModule) :
    ∃ underruns, adm.drainCapAssemble.2 =
      { adm with
        audioQueue := [], ringSamples := leftover adm.pending, underruns := underruns } := by
  have capped := enforceCap_eq adm.drainQueue
  obtain ⟨enough, hframe⟩ | ⟨short, hframe⟩ := assemble_cases adm.drainQueue.enforceCap
  · refine ⟨adm.underruns, ?_⟩
    rw [drainCapAssemble, hframe, leftover, pending, if_pos enough, capped]
    rfl
  · refine ⟨adm.underruns + 1, ?_⟩
    rw [drainCapAssemble, hframe, leftover, pending, if_neg (not_le.mpr short), capped]
    rfl

/-- A partial frame is never taken, so an iteration keeps the rest modulo 480. -/
theorem length_leftover_mod (samples : List Sample) :
    (leftover samples).length % kSamplesPer10ms = samples.length % kSamplesPer10ms := by
  unfold leftover
  split_ifs with enough
  · rw [List.length_drop, ← Nat.mod_eq_sub_mod enough]
  · rfl

theorem length_leftover_of_le {samples : List Sample}
    (enough : kSamplesPer10ms ≤ samples.length) :
    (leftover samples).length = samples.length - kSamplesPer10ms := by
  rw [leftover, if_pos enough, List.length_drop]

end CustomAudioDeviceModule

namespace PlaybackState

variable {s t : PlaybackState}

/-- One iteration of the capture loop, no other thread moving. -/
def tick (s : PlaybackState) : Option PlaybackState := do
  let s ← playback.run s [.loopTest, .drain, .deliver, .check]
  match s.capture with
  | .firing _ => s.step .fire
  | _ => some s

def ticks : ℕ → PlaybackState → Option PlaybackState
  | 0, s => some s
  | n + 1, s => s.tick.bind (ticks n)

/-- An iteration is a run of the threads. -/
theorem tick_run (tick : s.tick = some t) : ∃ actions, playback.run s actions = some t := by
  obtain ⟨r, run, last⟩ := Option.bind_eq_some_iff.mp tick
  cases phase : r.capture with
  | firing armed =>
      simp only [phase] at last
      exact ⟨_, playback.run_concat (a := .fire) run last⟩
  | _ =>
      simp only [phase] at last
      cases last
      exact ⟨_, run⟩

/-- What an iteration does, from the top of the loop. -/
theorem tick_eq (looping : s.capture = .looping) (recording : s.adm.recording = true) :
    s.tick = some { s with
      adm := s.adm.captureTick.2.2
      delivered := s.delivered ++ [s.adm.captureTick.1]
      dropped := s.dropped ++ origins s.adm.drainQueue.overCap
      fired := s.fired + if s.adm.captureTick.2.1 then 1 else 0 } := by
  have run : playback.run s [.loopTest, .drain, .deliver, .check] =
      some { s with
        adm := s.adm.captureTick.2.2
        capture := if s.adm.captureTick.2.1 then .firing s.armedAt else .looping
        delivered := s.delivered ++ [s.adm.captureTick.1]
        dropped := s.dropped ++ origins s.adm.drainQueue.overCap } := by
    simp only [Machine.run_cons, Machine.run_nil, playback, PlaybackState.step, looping,
      recording, if_true, Option.bind_some]
    rfl
  rw [tick, run, Option.bind_eq_bind, Option.bind_some]
  cases fires : s.adm.captureTick.2.1
  · obtain ⟨adm, capture, pushed, delivered, dropped, flushed, completions, armedAt, fired⟩ := s
    obtain rfl : capture = .looping := looping
    simp
  · simp only [if_true, PlaybackState.step]
    rw [looping]

/-- What matters of an iteration from the top of the loop: it is back there, the queue is empty,
the ring is what a frame has left of the samples that were to be played, and the completion fires
if that is nothing. -/
structure Ticked (s t : PlaybackState) : Prop where
  looping : t.capture = .looping
  recording : t.adm.recording = true
  queue : t.adm.audioQueue = []
  ring : t.adm.ringSamples = CustomAudioDeviceModule.leftover s.adm.pending
  callback : t.adm.playbackCompletionCallback = s.adm.playbackCompletionCallback
  waits : t.adm.ringSamples ≠ [] →
    t.adm.speechGenerationComplete = s.adm.speechGenerationComplete ∧ t.fired = s.fired
  fires : t.adm.ringSamples = [] → s.adm.speechGenerationComplete = true →
    s.adm.playbackCompletionCallback = true → t.fired = s.fired + 1

theorem exists_ticked (looping : s.capture = .looping) (recording : s.adm.recording = true) :
    ∃ t, s.tick = some t ∧ Ticked s t := by
  refine ⟨_, tick_eq looping recording, ?_⟩
  obtain ⟨underruns, hadm⟩ := s.adm.drainCapAssemble_leftover
  have tick : s.adm.captureTick =
      (s.adm.drainCapAssemble.1, CustomAudioDeviceModule.checkCompletion
        { s.adm with
          audioQueue := []
          ringSamples := CustomAudioDeviceModule.leftover s.adm.pending
          underruns := underruns }) := by
    rw [CustomAudioDeviceModule.captureTick, hadm]
  by_cases complete : (s.adm.speechGenerationComplete &&
      (CustomAudioDeviceModule.leftover s.adm.pending).isEmpty) = true
  · simp only [tick, CustomAudioDeviceModule.checkCompletion, if_pos complete]
    simp only [Bool.and_eq_true, List.isEmpty_iff] at complete
    exact ⟨looping, recording, rfl, rfl, rfl, fun more => absurd complete.2 more,
      fun _ _ callback => by simp [callback]⟩
  · simp only [tick, CustomAudioDeviceModule.checkCompletion, if_neg complete]
    refine ⟨looping, recording, rfl, rfl, rfl, fun _ => ⟨rfl, rfl⟩, fun done flag => ?_⟩
    have empty : (CustomAudioDeviceModule.leftover s.adm.pending).isEmpty = true :=
      List.isEmpty_iff.mpr done
    exact absurd (by rw [flag, empty]; rfl) complete

/-- The ring is within the cap after an iteration, and nothing is queued: the next one
finds what this one left. -/
theorem Ticked.pending (ticked : Ticked s t) : t.adm.pending = t.adm.ringSamples := by
  refine CustomAudioDeviceModule.pending_of_empty ticked.queue ?_
  have capped : s.adm.pending.length ≤ hardCapSamples :=
    CustomAudioDeviceModule.length_enforceCap_le _
  rw [ticked.ring, CustomAudioDeviceModule.leftover]
  split_ifs
  · rw [List.length_drop]
    omega
  · exact capped

/-! ### Whole frames are played

With whole frames left each iteration takes exactly one, so their number is a ranking that goes
down by one. -/

/-- **Step.** With at least a frame left, an iteration takes one, so that a whole number of frames
is one less after it. -/
theorem Ticked.length_pending (ticked : Ticked s t)
    (enough : kSamplesPer10ms ≤ s.adm.pending.length) :
    t.adm.ringSamples.length = s.adm.pending.length - kSamplesPer10ms := by
  rw [ticked.ring, CustomAudioDeviceModule.length_leftover_of_le enough]

/-- **Run.**  `n + 1` whole frames are gone after `n + 1` iterations, and the completion
that was waiting for that has fired. -/
theorem ticks_of_frames {n : ℕ} (looping : s.capture = .looping)
    (recording : s.adm.recording = true)
    (complete : s.adm.speechGenerationComplete = true)
    (callback : s.adm.playbackCompletionCallback = true)
    (frames : s.adm.pending.length = kSamplesPer10ms * (n + 1)) :
    ∃ t, s.ticks (n + 1) = some t ∧ t.adm.ringSamples = [] ∧ s.fired < t.fired := by
  induction n generalizing s with
  | zero =>
      obtain ⟨r, tick, ticked⟩ := exists_ticked looping recording
      have length := ticked.length_pending frames.ge
      have done : r.adm.ringSamples = [] := by
        rw [← List.length_eq_zero_iff, length, frames]
        rfl
      refine ⟨r, by rw [ticks, tick]; rfl, done, ?_⟩
      rw [ticked.fires done complete callback]
      exact Nat.lt_succ_self _
  | succ n ih =>
      obtain ⟨r, tick, ticked⟩ := exists_ticked looping recording
      have length : r.adm.ringSamples.length = kSamplesPer10ms * (n + 1) := by
        rw [ticked.length_pending (by rw [frames]; exact Nat.le_mul_of_pos_right _ (by omega)),
          frames, Nat.mul_succ, Nat.add_sub_cancel]
      -- there is more to come, so the completion keeps waiting
      have more : r.adm.ringSamples ≠ [] := by
        refine List.ne_nil_of_length_pos ?_
        rw [length]
        exact Nat.mul_pos (by decide) n.succ_pos
      obtain ⟨flag, fired⟩ := ticked.waits more
      rw [ticks, tick, Option.bind_some, ← fired]
      exact ih ticked.looping ticked.recording (flag.trans complete)
        (ticked.callback.trans callback) (by rw [ticked.pending, length])

/-! ### Partial frames stay

An iteration takes a whole frame or nothing, so what is left modulo a frame never changes.  Nothing
in the loop pads the last frame with silence. -/

/-- **Step.** An iteration keeps what is left modulo a frame, whether it takes a frame or delivers
silence. -/
theorem Ticked.mod_pending (ticked : Ticked s t) :
    t.adm.pending.length % kSamplesPer10ms = s.adm.pending.length % kSamplesPer10ms := by
  rw [ticked.pending, ticked.ring, CustomAudioDeviceModule.length_leftover_mod]

/-- **Run.** If some iterations leave nothing, whole frames were left: what is left modulo a frame
was zero then, and has been ever since. -/
theorem dvd_of_ticks {n : ℕ} (looping : s.capture = .looping)
    (recording : s.adm.recording = true) (run : s.ticks (n + 1) = some t)
    (done : t.adm.ringSamples = []) : kSamplesPer10ms ∣ s.adm.pending.length := by
  rw [Nat.dvd_iff_mod_eq_zero]
  induction n generalizing s with
  | zero =>
      obtain ⟨r, tick, ticked⟩ := exists_ticked looping recording
      rw [ticks, tick] at run
      obtain rfl : r = t := Option.some.inj run
      rw [← ticked.mod_pending, ticked.pending, done]
      exact Nat.zero_mod _
  | succ n ih =>
      obtain ⟨r, tick, ticked⟩ := exists_ticked looping recording
      rw [ticks, tick, Option.bind_some] at run
      rw [← ticked.mod_pending]
      exact ih ticked.looping ticked.recording run

/-- The callback waits for ever: with a partial frame left, no number of iterations
fires it. -/
theorem fired_eq_of_partial {n : ℕ} (looping : s.capture = .looping)
    (recording : s.adm.recording = true)
    (incomplete : s.adm.pending.length % kSamplesPer10ms ≠ 0) (run : s.ticks n = some t) :
    t.fired = s.fired := by
  induction n generalizing s with
  | zero =>
      obtain rfl := Option.some.inj run
      rfl
  | succ n ih =>
      obtain ⟨r, tick, ticked⟩ := exists_ticked looping recording
      rw [ticks, tick, Option.bind_some] at run
      rw [← ticked.mod_pending] at incomplete
      have more : r.adm.ringSamples ≠ [] := by
        intro done
        rw [ticked.pending, done] at incomplete
        exact incomplete (Nat.zero_mod _)
      rw [ih ticked.looping ticked.recording incomplete run]
      exact (ticked.waits more).2

/-! ### Complete draining

Both parts put together: the number of samples left decides, and it is known before the first
iteration. -/

/-- From the top of the loop: an iteration that finds nothing in the queue makes a
ring that is not empty shorter; and once speech generation is complete, with no
further push, as many iterations as the samples left need leave the ring empty, the
callback having fired. -/
structure DrainsCompletely (s : PlaybackState) : Prop where
  shrinks : s.adm.audioQueue = [] → s.adm.ringSamples ≠ [] →
    ∃ t, s.tick = some t ∧ t.adm.ringSamples.length < s.adm.ringSamples.length
  drains : ∃ t,
    s.speechGenerationComplete.ticks (s.adm.pending.length ⌈/⌉ kSamplesPer10ms) = some t ∧
      t.adm.ringSamples = [] ∧ s.fired < t.fired

/-- The callback of the session is set for good. -/
theorem callback_of_reachable (reached : playback.Reachable s) :
    s.adm.playbackCompletionCallback = true := by
  refine playback.invariant (motive := fun s => s.adm.playbackCompletionCallback = true)
    rfl ?_ reached
  intro s action t set step
  rw [← set]
  cases step_moved step with
  | drains =>
      obtain ⟨ring, underruns, hadm, -⟩ := s.adm.drainCapAssemble_cases
      show s.adm.drainCapAssemble.2.playbackCompletionCallback = _
      rw [hadm]
  | _ => rfl

theorem DrainsCompletely.frames (looping : s.capture = .looping)
    (recording : s.adm.recording = true) (drains : s.DrainsCompletely) :
    s.adm.pending ≠ [] ∧ kSamplesPer10ms ∣ s.adm.pending.length := by
  obtain ⟨t, run, done, fired⟩ := drains.drains
  -- in no iteration at all the callback cannot have fired
  have left : s.adm.pending ≠ [] := by
    intro nothing
    rw [nothing, List.length_nil, zero_ceilDiv] at run
    obtain rfl := Option.some.inj run
    exact lt_irrefl _ fired
  obtain ⟨n, hn⟩ := Nat.exists_eq_add_one_of_ne_zero (n := s.adm.pending.length ⌈/⌉ kSamplesPer10ms)
    (by
      rw [← Nat.pos_iff_ne_zero, ← not_le, ceilDiv_le_iff_le_mul (by decide), Nat.mul_zero]
      exact not_le.mpr (List.length_pos_iff.mpr left))
  rw [hn] at run
  have dvd := dvd_of_ticks (s := s.speechGenerationComplete) looping recording run done
  exact ⟨left, s.adm.pending_completeSpeechGeneration ▸ dvd⟩

/-- **Playback drains completely from exactly the states in which a positive number of whole frames
is left to play.** An utterance that ends in the middle of a frame leaves its last samples in the
ring, and is not announced. -/
theorem drainsCompletely_iff (reached : playback.Reachable s) (looping : s.capture = .looping)
    (recording : s.adm.recording = true) :
    s.DrainsCompletely ↔ s.adm.pending ≠ [] ∧ kSamplesPer10ms ∣ s.adm.pending.length := by
  refine ⟨DrainsCompletely.frames looping recording, fun ⟨left, n, hn⟩ => ?_⟩
  have callback := callback_of_reachable reached
  obtain ⟨m, rfl⟩ : ∃ m, n = m + 1 := by
    refine Nat.exists_eq_add_one_of_ne_zero ?_
    rintro rfl
    exact left (List.length_eq_zero_iff.mp hn)
  constructor
  · intro empty _
    have pending := CustomAudioDeviceModule.pending_of_empty empty
      (accounted_of_reachable reached).ring_le
    obtain ⟨t, tick, ticked⟩ := exists_ticked looping recording
    refine ⟨t, tick, ?_⟩
    have enough : kSamplesPer10ms ≤ s.adm.pending.length := by
      rw [hn]
      exact Nat.le_mul_of_pos_right _ m.succ_pos
    rw [ticked.length_pending enough, ← pending]
    exact Nat.sub_lt (Nat.pos_of_ne_zero fun h => left (List.length_eq_zero_iff.mp h)) (by decide)
  · rw [hn, ← smul_eq_mul, smul_ceilDiv (by decide)]
    refine ticks_of_frames (s := s.speechGenerationComplete) looping recording rfl callback ?_
    exact s.adm.pending_completeSpeechGeneration.symm ▸ hn

/-- With nothing left to play, one iteration fires the callback. -/
theorem fires_of_nothing_left (reached : playback.Reachable s) (looping : s.capture = .looping)
    (recording : s.adm.recording = true) (nothing : s.adm.pending = []) :
    ∃ t, s.speechGenerationComplete.tick = some t ∧ t.adm.ringSamples = [] ∧
      t.fired = s.fired + 1 := by
  have callback := callback_of_reachable reached
  obtain ⟨t, tick, ticked⟩ :=
    exists_ticked (s := s.speechGenerationComplete) looping recording
  have done : t.adm.ringSamples = [] := by
    rw [ticked.ring]
    show CustomAudioDeviceModule.leftover s.adm.completeSpeechGeneration.pending = []
    rw [CustomAudioDeviceModule.pending_completeSpeechGeneration, nothing]
    rfl
  exact ⟨t, tick, done, ticked.fires done rfl callback⟩

/-- A chunk of `n` samples, pushed in the start state. -/
def startingWith (n : ℕ) : PlaybackState := created.pushChunk ⟨0, List.replicate (2 * n) 0⟩

section StartingWith

variable {n : ℕ} (positive : 0 < n) (short : n ≤ hardCapSamples)

include positive short in
theorem reachable_startingWith : playback.Reachable (startingWith n) := by
  let frame : MediaFrame := ⟨List.replicate (2 * n) 0, .audio, "microphone"⟩
  refine ⟨[.mediaFrame "" frame], ?_⟩
  have small : 2 * n ≤ kMaxFrameSize := by
    rw [hardCapSamples_eq] at short
    rw [kMaxFrameSize]
    omega
  have valid : validateMediaFrame frame = true := by
    simp [frame, validateMediaFrame, small, positive.ne']
  have even : frame.frameData.length % 2 = 0 := by simp [frame]
  rw [Machine.run_cons]
  show (some (handleMediaFrame "" frame created)).bind _ = _
  simp only [handleMediaFrame, valid, even]
  rfl

include positive short in
theorem length_pending_startingWith : (startingWith n).adm.pending.length = n := by
  have drained : (startingWith n).adm.drainQueue.ringSamples =
      PcmChunk.samples ⟨0, List.replicate (2 * n) 0⟩ := by
    have valid : PcmChunk.valid ⟨0, List.replicate (2 * n) 0⟩ = true := by
      simp [PcmChunk.valid, positive.ne']
    show [] ++ ([(⟨0, List.replicate (2 * n) 0⟩ : PcmChunk)].filter PcmChunk.valid).flatMap
      PcmChunk.samples = _
    rw [List.filter_cons_of_pos valid]
    simp
  have length : (startingWith n).adm.drainQueue.ringSamples.length = n := by
    rw [drained, PcmChunk.length_samples, List.length_replicate,
      Nat.mul_div_cancel_left n Nat.two_pos]
  rw [CustomAudioDeviceModule.pending,
    CustomAudioDeviceModule.enforceCap_of_le (length.trans_le short), length]

end StartingWith

/-- A chunk of 10 ms drains completely. -/
theorem drainsCompletely_of_10ms : (startingWith kSamplesPer10ms).DrainsCompletely := by
  have positive : 0 < kSamplesPer10ms := by decide
  have short : kSamplesPer10ms ≤ hardCapSamples := by decide
  have length := length_pending_startingWith positive short
  refine (drainsCompletely_iff (reachable_startingWith positive short) rfl rfl).mpr ⟨?_, ?_⟩
  · exact List.ne_nil_of_length_pos (length.symm ▸ positive)
  · rw [length]

/-- A chunk of 5 ms does not: playback does not drain completely from every reachable
state with recording on. -/
theorem not_drainsCompletely :
    ¬ ∀ s, playback.Reachable s → s.capture = .looping → s.adm.recording = true →
      s.DrainsCompletely := by
  intro drains
  have positive : 0 < 240 := by decide
  have short : 240 ≤ hardCapSamples := by decide
  have whole := (drains _ (reachable_startingWith positive short) rfl rfl).frames rfl rfl
  rw [length_pending_startingWith positive short] at whole
  exact absurd whole.2 (by decide)

end PlaybackState

end Saasy.SpeakingEngine
