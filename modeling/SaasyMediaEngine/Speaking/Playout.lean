import Mathlib.Data.List.Flatten
import SaasyMediaEngine.Speaking.PlaybackMachine

/-!
# What is played, and in which order

As long as nothing is flushed, the samples of the accepted chunks pass through the queue and
the ring in one line.  An iteration of the capture loop takes from its front: first what the
latency cap drops, then the frame it delivers.  `accepted_eq` writes the whole line as what
the iterations took, step by step, and what is still waiting; that the delivered samples are
in order, that none comes twice and that only the cap loses any is read off that equation.

The silence of an underrun was never accepted, and is left out of what is heard.

The cap and the frame take from the same end, the front, and the pushes come in at the other; that
is all there is to order.  `InLine` carries the equation along a run, with the history of the steps
as its witness, so that what each of them took stays visible, and the theorem about a run is a
statement about sublists of the accepted stream.

A flush takes from the other end, and fades what it leaves; runs with one are the subject of
`Speaking.Flush`.
-/

namespace Saasy.SpeakingEngine

open Transition

/-- The samples that are not the silence of an underrun. -/
def audible (samples : List Sample) : List Sample := samples.filter (·.origin.isSome)

theorem audible_eq_self {samples : List Sample} (heard : ∀ x ∈ samples, x.origin.isSome = true) :
    audible samples = samples :=
  List.filter_eq_self.mpr heard

theorem PcmChunk.isSome_of_mem_samples {chunk : PcmChunk} {x : Sample} (mem : x ∈ chunk.samples) :
    x.origin.isSome = true := by
  obtain ⟨_, -, rfl⟩ := List.mem_map.mp mem
  rfl

namespace CustomAudioDeviceModule

/-- The cap takes the oldest samples. -/
theorem overCap_append (adm : CustomAudioDeviceModule) :
    adm.overCap ++ adm.enforceCap.ringSamples = adm.ringSamples := by
  rw [enforceCap_eq, overCap, List.take_append_drop]

/-- It takes some only off a ring that is too long, and leaves it as long as it may be. -/
theorem length_enforceCap_of_overCap (adm : CustomAudioDeviceModule) (some : adm.overCap ≠ []) :
    hardCapSamples < adm.ringSamples.length ∧
      adm.enforceCap.ringSamples.length = hardCapSamples := by
  have excess : hardCapSamples < adm.ringSamples.length := by
    by_contra small
    exact some (by rw [overCap, Nat.sub_eq_zero_of_le (not_lt.mp small), List.take_zero])
  refine ⟨excess, ?_⟩
  rw [enforceCap_eq, List.length_drop]
  omega

/-- A frame is off the front of the ring, or silence. -/
theorem audible_assemble {adm : CustomAudioDeviceModule}
    (heard : ∀ x ∈ adm.ringSamples, x.origin.isSome = true) :
    audible adm.assembleOne10msFrame.1 ++ adm.assembleOne10msFrame.2.ringSamples =
      adm.ringSamples := by
  obtain ⟨-, hframe⟩ | ⟨-, hframe⟩ := assemble_cases adm <;> rw [hframe]
  · have front : audible (adm.ringSamples.take kSamplesPer10ms) =
        adm.ringSamples.take kSamplesPer10ms :=
      audible_eq_self fun x mem => heard x (List.mem_of_mem_take mem)
    rw [front, List.take_append_drop]
  · simp [audible]

theorem length_assemble (adm : CustomAudioDeviceModule) :
    adm.assembleOne10msFrame.1.length = kSamplesPer10ms := by
  obtain ⟨enough, hframe⟩ | ⟨-, hframe⟩ := assemble_cases adm <;> rw [hframe]
  · rw [List.length_take, min_eq_left enough]
  · rw [List.length_replicate]

/-- **What an iteration takes off the line**: what the cap drops, and the frame, in this order and
off the front. -/
theorem drainQueue_eq (adm : CustomAudioDeviceModule)
    (heard : ∀ x ∈ adm.drainQueue.ringSamples, x.origin.isSome = true) :
    adm.drainQueue.ringSamples = adm.drainQueue.overCap ++
      (audible adm.drainCapAssemble.1 ++ adm.drainCapAssemble.2.ringSamples) := by
  have kept : ∀ x ∈ adm.drainQueue.enforceCap.ringSamples, x.origin.isSome = true := by
    intro x mem
    refine heard x ?_
    rw [← overCap_append]
    exact List.mem_append_right _ mem
  rw [drainCapAssemble, audible_assemble kept, overCap_append]

end CustomAudioDeviceModule

namespace PlaybackState

variable {s t : PlaybackState} {action : PlaybackAction}

/-- The stream of the accepted samples. -/
def accepted (s : PlaybackState) : List Sample := s.pushed.flatMap PcmChunk.samples

/-- The samples that wait, in the ring and behind it in the queue. -/
def held (s : PlaybackState) : List Sample :=
  s.adm.ringSamples ++ s.adm.audioQueue.flatMap PcmChunk.samples

/-- What the cap drops in a step. -/
def capped (t : Taken PlaybackState PlaybackAction) : List Sample :=
  match t.action with
  | .drain => t.before.adm.drainQueue.overCap
  | _ => []

/-- What a step takes off the ring to be played. -/
def assembled (t : Taken PlaybackState PlaybackAction) : List Sample :=
  match t.action with
  | .drain => audible t.before.adm.drainCapAssemble.1
  | _ => []

/-- **The line**: what each step dropped and played, and what waits; what was played is what
was delivered, and the frame that is about to be. -/
structure InLine (history : List (Taken PlaybackState PlaybackAction)) (s : PlaybackState) :
    Prop where
  accepted_eq : s.accepted = history.flatMap (fun t => capped t ++ assembled t) ++ s.held
  delivered_eq : audible s.delivered.flatten ++ audible s.capture.frame =
    history.flatMap assembled
  frames : ∀ frame ∈ s.delivered, frame.length = kSamplesPer10ms
  frame : ∀ frame, s.capture = .assembled frame → frame.length = kSamplesPer10ms

theorem inLine_created : InLine [] created where
  accepted_eq := rfl
  delivered_eq := rfl
  frames _ mem := by cases mem
  frame _ phase := by cases phase

variable {past : List (Taken PlaybackState PlaybackAction)}

/-- A step that moves no sample. -/
theorem InLine.same (line : InLine past s) (same : SameAudio s t) (idle : action ≠ .drain)
    (phase : ∀ frame, t.capture = .assembled frame → s.capture = .assembled frame) :
    InLine (past ++ [⟨s, action, t⟩]) t := by
  have none : capped ⟨s, action, t⟩ = [] ∧ assembled ⟨s, action, t⟩ = [] := by
    cases action with
    | drain => exact absurd rfl idle
    | _ => exact ⟨rfl, rfl⟩
  refine ⟨?_, ?_, ?_, fun frame assembled => line.frame frame (phase frame assembled)⟩
  · rw [accepted, same.pushed, held, same.ring, same.queue, List.flatMap_append,
      List.flatMap_singleton, none.1, none.2, List.append_nil, List.append_nil]
    exact line.accepted_eq
  · rw [same.delivered, same.frame, line.delivered_eq, List.flatMap_append,
      List.flatMap_singleton, none.2, List.append_nil]
  · rw [same.delivered]
    exact line.frames

/-- A chunk goes to the end of the line. -/
theorem InLine.push (line : InLine past s) (chunk : PcmChunk) (audioProducerId : String)
    (frame : MediaFrame) :
    InLine (past ++ [⟨s, .mediaFrame audioProducerId frame, s.pushChunk chunk⟩])
      (s.pushChunk chunk) where
  accepted_eq := by
    have before := line.accepted_eq
    simp only [accepted, held, pushChunk, List.flatMap_append, List.flatMap_singleton, capped,
      assembled, List.append_nil] at before ⊢
    rw [before]
    simp only [List.append_assoc]
  delivered_eq := by
    rw [List.flatMap_append]
    exact line.delivered_eq.trans (List.append_nil _).symm
  frames := line.frames
  frame := line.frame

/-- What waits when an iteration begins. -/
theorem ringSamples_drainQueue (accounted : s.Accounted) :
    s.adm.drainQueue.ringSamples = s.held := by
  have valid : s.adm.audioQueue.filter PcmChunk.valid = s.adm.audioQueue :=
    List.filter_eq_self.mpr accounted.queue_valid
  rw [CustomAudioDeviceModule.drainQueue, held, valid]

theorem InLine.isSome_of_mem_held (line : InLine past s) {x : Sample} (mem : x ∈ s.held) :
    x.origin.isSome = true := by
  have mem : x ∈ s.accepted := by
    rw [line.accepted_eq]
    exact List.mem_append_right _ mem
  obtain ⟨chunk, -, mem⟩ := List.mem_flatMap.mp mem
  exact PcmChunk.isSome_of_mem_samples mem

/-- **An iteration takes from the front of the line**, and what it takes is what its step is said
to have taken. -/
theorem InLine.drain (line : InLine past s) (accounted : s.Accounted)
    (sleeping : s.capture = .sleeping) : InLine (past ++ [⟨s, .drain, s.drain⟩]) s.drain := by
  have waits := ringSamples_drainQueue accounted
  have taken := s.adm.drainQueue_eq fun x mem =>
    line.isSome_of_mem_held (waits ▸ mem)
  obtain ⟨ring, underruns, hadm, -⟩ := s.adm.drainCapAssemble_cases
  have left : s.drain.held = s.adm.drainCapAssemble.2.ringSamples := by
    simp [PlaybackState.drain, held, hadm]
  refine ⟨?_, ?_, line.frames, ?_⟩
  · rw [List.flatMap_append, List.flatMap_singleton, left]
    show s.accepted = _
    rw [line.accepted_eq, ← waits, taken]
    simp only [capped, assembled, List.append_assoc]
  · have before := line.delivered_eq
    rw [sleeping] at before
    rw [List.flatMap_append, List.flatMap_singleton, ← before]
    show audible s.delivered.flatten ++ audible s.adm.drainCapAssemble.1 = _
    simp [CapturePhase.frame, audible, assembled]
  · rintro frame ⟨⟩
    exact CustomAudioDeviceModule.length_assemble _

/-- The frame is delivered behind the others. -/
theorem InLine.deliver (line : InLine past s) {frame : List Sample}
    (phase : s.capture = .assembled frame) :
    let t := { s with capture := .checking, delivered := s.delivered ++ [frame] }
    InLine (past ++ [⟨s, .deliver, t⟩]) t := by
  refine ⟨?_, ?_, ?_, nofun⟩
  · rw [List.flatMap_append]
    exact line.accepted_eq.trans (by simp [capped, assembled, held])
  · have before := line.delivered_eq
    rw [phase] at before
    rw [List.flatMap_append, ← before]
    simp [CapturePhase.frame, audible, assembled]
  · intro other mem
    obtain old | new := List.mem_append.mp mem
    · exact line.frames other old
    · rw [List.mem_singleton.mp new]
      exact line.frame frame phase

/-- **One step** other than a flush: a push lengthens the line, an iteration shortens it, and a
delivery moves the frame from hand to ear. -/
theorem InLine.moved (line : InLine past s) (accounted : s.Accounted)
    (unflushed : ∀ fadeDurationMs, action ≠ .flushAudio fadeDurationMs)
    (moved : s.Moved action t) : InLine (past ++ [⟨s, action, t⟩]) t := by
  cases moved with
  | framePushed audioProducerId frame chunk => exact line.push chunk audioProducerId frame
  | flushes fadeDurationMs => exact absurd rfl (unflushed fadeDurationMs)
  | drains sleeping => exact line.drain accounted sleeping
  | delivers frame phase => exact line.deliver phase
  | frameDropped | completes | flushIgnored | startIgnored | stops =>
      exact line.same (by constructor <;> rfl) (by simp) fun _ phase => phase
  -- where the capture thread moves, it held no frame and holds none
  | starts phase | sleeps phase | ends phase | waits phase | arms phase | unheard phase
  | fires _ phase =>
      exact line.same ⟨rfl, rfl, by rw [phase]; rfl, rfl, rfl, rfl, rfl⟩ (by simp) nofun

/-! ### What follows from the line

The laws of a step and of a run, both read off the invariant: the line says of each accepted sample
where it is. -/

/-- What a step owes the listener: the cap takes the oldest samples, and only off a line that is
too long; the ring is within the cap; and a delivery is one frame of 10 ms. -/
structure TickLaw (t : Taken PlaybackState PlaybackAction) : Prop where
  cap : capped t ≠ [] → hardCapSamples < t.before.held.length ∧
    ∃ kept, t.before.held = capped t ++ kept ∧ kept.length = hardCapSamples
  ring_le : t.after.adm.ringSamples.length ≤ hardCapSamples
  deliver : t.action = .deliver →
    ∃ frame, t.after.delivered = t.before.delivered ++ [frame] ∧ frame.length = kSamplesPer10ms

theorem InLine.tickLaw (line : InLine past s) (before : s.Accounted) (after : t.Accounted)
    (moved : s.Moved action t) : TickLaw ⟨s, action, t⟩ where
  cap some := by
    cases action with
    | drain =>
        obtain ⟨excess, length⟩ :=
          s.adm.drainQueue.length_enforceCap_of_overCap some
        rw [ringSamples_drainQueue before] at excess
        refine ⟨excess, s.adm.drainQueue.enforceCap.ringSamples, ?_, length⟩
        rw [← ringSamples_drainQueue before]
        exact (CustomAudioDeviceModule.overCap_append s.adm.drainQueue).symm
    | _ => exact absurd rfl some
  ring_le := after.ring_le
  deliver isDeliver := by
    cases moved with
    | delivers frame phase => exact ⟨frame, rfl, line.frame frame phase⟩
    | _ => cases isDeliver

/-- **In order, once, and all but what the cap took**: everything heard so far is in the front
part of the accepted stream, and what waits is the rest. -/
structure PlayedInOrder (history : List (Taken PlaybackState PlaybackAction)) (s : PlaybackState) :
    Prop where
  line : InLine history s
  waits : ∃ front, s.accepted = front ++ s.held ∧ (audible s.delivered.flatten).Sublist front
  ticks : ∀ t ∈ history, TickLaw t

/-- The part of the stream that has been taken holds what was delivered, in order. -/
theorem InLine.waits (line : InLine past s) :
    ∃ front, s.accepted = front ++ s.held ∧ (audible s.delivered.flatten).Sublist front := by
  refine ⟨_, line.accepted_eq, ?_⟩
  have played : (past.flatMap assembled).Sublist
      (past.flatMap fun t => capped t ++ assembled t) :=
    List.Sublist.flatMap_right _ fun t _ => List.sublist_append_right (capped t) (assembled t)
  rw [← line.delivered_eq] at played
  exact (List.sublist_append_left _ _).trans played

/-- **Accepted audio is played in order**, in every run without a flush: nothing twice, nothing
lost but what the cap took, and the rest is still waiting. -/
theorem playedInOrder_of_run (actions : List PlaybackAction) (s : PlaybackState)
    (unflushed : ∀ fadeDurationMs, .flushAudio fadeDurationMs ∉ actions)
    (reached : playback.run created actions = some s) :
    PlayedInOrder (playback.transitions created actions) s := by
  have history := playback.history_invariant
    (motive := fun past s =>
      (∀ fadeDurationMs, .flushAudio fadeDurationMs ∉ past.map Taken.action) →
        InLine past s ∧ s.Accounted ∧ ∀ t ∈ past, TickLaw t)
    ?_ (fun _ => ⟨inLine_created, accounted_created, List.forall_mem_nil _⟩) reached
  · rw [List.nil_append, playback.map_action_transitions reached] at history
    obtain ⟨line, -, ticks⟩ := history unflushed
    exact ⟨line, line.waits, ticks⟩
  · intro past s action t ih step unflushed
    simp only [List.map_append, List.map_singleton, List.mem_append, List.mem_singleton,
      not_or] at unflushed
    obtain ⟨line, accounted, ticks⟩ := ih fun fadeDurationMs => (unflushed fadeDurationMs).1
    have moved := step_moved step
    have after := accounted.moved moved
    have idle : ∀ fadeDurationMs, action ≠ .flushAudio fadeDurationMs :=
      fun fadeDurationMs flush => (unflushed fadeDurationMs).2 flush.symm
    refine ⟨line.moved accounted idle moved, after, fun taken mem => ?_⟩
    obtain old | new := List.mem_append.mp mem
    · exact ticks taken old
    · rw [List.mem_singleton.mp new]
      exact line.tickLaw accounted after moved

/-- A chunk of 208 ms, of which the first 8 ms are over the cap and the next 10 ms are played. -/
theorem playedInOrder_of_run_capped :
    let actions := [.mediaFrame "p" ⟨List.replicate 20000 0, .audio, "p"⟩, .loopTest, .drain,
      .deliver]
    ∃ s, playback.run created actions = some s ∧
      (s.dropped.length = 400 ∧ s.delivered.length = 1) ∧
      PlayedInOrder (playback.transitions created actions) s := by
  intro actions
  have counted : (playback.run created actions).any fun s =>
      s.dropped.length == 400 && s.delivered.length == 1 := by
    decide +kernel
  obtain ⟨s, reached, counted⟩ := (Option.any_eq_true ..).mp counted
  refine ⟨s, reached, by simpa using counted, playedInOrder_of_run actions s ?_ reached⟩
  simp only [actions, List.mem_cons, reduceCtorEq, List.not_mem_nil, or_self, not_false_eq_true,
    implies_true]

end PlaybackState

end Saasy.SpeakingEngine
