import SaasyMediaEngine.Listening.MediaPath

/-!
# What a payload says about its bytes

The queue of the sink and the pre-roll ring are shared by the tracks of all consumers, and
neither keeps the consumer; the ring does not keep the format either.  A frame that is
forwarded goes out under the first id of the consumer map and with its own format, the ring
under that id and as 48 kHz mono.

So a payload describes its bytes as long as no other consumer is heard.  `FirstSpeaks` says so
of the steps from outside: a track whose frame the sink takes is one of the first consumer, and
speaks 48 kHz mono; and a command that puts another consumer first in the map finds nothing
that an earlier one said still on its way.  What is on its way is `unsent`: the queue, the
frame in the hand of the forwarding thread, the ring, and the copy of it in the hand of the
VAD thread.  A byte stays there from its `OnData` to the call of `GetFirstConsumerId`, which may
be many steps and several commands later, and `Kept` is what all of these steps keep of it.

A payload is labelled once and is not looked at again, so `Labelled` follows it from there into
the write.  The two invariants are carried side by side: a step of `Labelled` that names the
consumer needs `Kept` of the bytes it names.
-/

namespace Saasy.ListeningEngine

open Transition Wire

/-- The format a frame came with is that of its bytes. -/
def AudioFrame.Uniform (frame : AudioFrame TrackByte) : Prop :=
  ∀ b ∈ frame.data, b.sampleRate = frame.sampleRate ∧ b.channels = frame.channels

/-- Under this id the frame describes its bytes: a track of that consumer delivered all of them,
in the format of the frame. -/
def Describes (owners : List (ℕ × String)) (deviceConsumerId : String)
    (frame : AudioFrame TrackByte) : Prop :=
  ∀ b ∈ frame.data, (b.track, deviceConsumerId) ∈ owners ∧
    b.sampleRate = frame.sampleRate ∧ b.channels = frame.channels

theorem Describes.mono {owners owners' : List (ℕ × String)} {deviceConsumerId : String}
    {frame : AudioFrame TrackByte} (describes : Describes owners deviceConsumerId frame)
    (subset : owners ⊆ owners') : Describes owners' deviceConsumerId frame :=
  fun b mem => ⟨subset (describes b mem).1, (describes b mem).2⟩

theorem TrackData.uniform_frame (data : TrackData) (track : ℕ) : (data.frame track).Uniform := by
  intro b mem
  obtain ⟨value, -, rfl⟩ := List.mem_map.mp mem
  exact ⟨rfl, rfl⟩

/-! ### The bytes on their way

Everything that was delivered and may still be given the id of a consumer: the frame that the
forwarding thread holds, the copy that the VAD thread holds, the ring, and the queue of the sink.
A step may move bytes from one of these to another, and only `OnData` adds to them. -/

/-- `OnData` gets to `audio_queue_.push`, and there is room. -/
def AudioTrackSink.Takes (data : TrackData) (sink : AudioTrackSink) : Prop :=
  sink.running = true ∧ data.numberOfChannels ≠ 2 ∧ sink.audioQueue.length < kAudioQueueCapacity

instance (data : TrackData) (sink : AudioTrackSink) : Decidable (sink.Takes data) :=
  inferInstanceAs (Decidable (_ ∧ _ ∧ _))

/-- **A track delivers a frame**: at most, it is queued, behind those that wait, and each of its
bytes knows the track. -/
theorem AudioTrackSink.audioQueue_onData (track : ℕ) (data : TrackData) (sink : AudioTrackSink) :
    (sink.onData track data).audioQueue =
      sink.audioQueue ++ if sink.Takes data then [data.frame track] else [] := by
  unfold onData push Takes
  split_ifs with stopped stereo room takes <;> simp_all

/-- What the forwarding thread took from the queue and has not labelled. -/
def ForwarderPhase.unlabelled : ForwarderPhase → List TrackByte
  | .popped frame | .appended frame | .passed frame => frame.data
  | .looping | .fetching | .sending _ | .exited => []

/-- What the VAD thread took from the ring and has not labelled. -/
def VadPhase.unlabelled : VadPhase → List TrackByte
  | .copied preRollData => preRollData
  | .idle | .sending _ | .opening => []

namespace MediaPath

variable {s t : MediaPath} {action : MediaAction}

/-- The bytes that were delivered and may still go out under the id of a consumer that is first
later. -/
def unsent (s : MediaPath) : List TrackByte :=
  s.sink.audioQueue.flatMap (·.data) ++ s.forwarder.unlabelled ++
    (s.media.preRollBuffer.contents ++ s.vad.unlabelled)

/-- The bytes that a step adds to them. -/
def delivered (s : MediaPath) : MediaAction → List TrackByte
  | .onData track data => if s.sink.Takes data then (data.frame track).data else []
  | .control _ | .discard | .forward _ | .turnEvent _ | .vad _ _ => []

/-- What `GetFirstConsumerId` returns once a step of the command thread is done. -/
def firstAfter (s : MediaPath) (action : TeardownAction) : String :=
  match s.control.op? action with
  | some op =>
      firstConsumerId { s with
        control := { s.control with session := op.apply s.control.session } }
  | none => s.firstConsumerId

/-- Only the first consumer is heard, and only as the ring goes out.  A frame that the sink takes
is 48 kHz mono, and if there is a consumer, of a track of the first one; and a command that
changes which is the first one does so while nothing but its own bytes are on their way. -/
def FirstSpeaks (s : MediaPath) : MediaAction → Prop
  | .onData track data =>
      s.sink.Takes data → (data.sampleRate = 48000 ∧ data.numberOfChannels = 1) ∧
        (s.firstConsumerId ≠ "" → (track, s.firstConsumerId) ∈ s.owners)
  | .control action =>
      s.firstAfter action ≠ s.firstConsumerId → s.firstAfter action ≠ "" →
        ∀ b ∈ s.unsent, (b.track, s.firstAfter action) ∈ s.owners
  | .discard | .forward _ | .turnEvent _ | .vad _ _ => True

instance (s : MediaPath) : DecidablePred s.FirstSpeaks
  | .onData track data => inferInstanceAs (Decidable (s.sink.Takes data →
      (data.sampleRate = 48000 ∧ data.numberOfChannels = 1) ∧
        (s.firstConsumerId ≠ "" → (track, s.firstConsumerId) ∈ s.owners)))
  | .control action => inferInstanceAs (Decidable (s.firstAfter action ≠ s.firstConsumerId →
      s.firstAfter action ≠ "" → ∀ b ∈ s.unsent, (b.track, s.firstAfter action) ∈ s.owners))
  | .discard | .forward _ | .turnEvent _ | .vad _ _ => .isTrue trivial

theorem mem_unsent_of_forwarder {b : TrackByte} (mem : b ∈ s.forwarder.unlabelled) : b ∈ s.unsent :=
  List.mem_append_left _ (List.mem_append_right _ mem)

theorem mem_unsent_of_vad {b : TrackByte} (mem : b ∈ s.vad.unlabelled) : b ∈ s.unsent :=
  List.mem_append_right _ (List.mem_append_right _ mem)

theorem mem_unsent_of_ring {b : TrackByte} (mem : b ∈ s.media.preRollBuffer.contents) :
    b ∈ s.unsent :=
  List.mem_append_right _ (List.mem_append_left _ mem)

theorem mem_unsent_of_queue {frame : AudioFrame TrackByte} {b : TrackByte}
    (queued : frame ∈ s.sink.audioQueue) (mem : b ∈ frame.data) : b ∈ s.unsent :=
  List.mem_append_left _ (List.mem_append_left _ (List.mem_flatMap_of_mem queued mem))

theorem unsent_subset {bs : List TrackByte} (queue : ∀ frame ∈ s.sink.audioQueue, frame.data ⊆ bs)
    (forwarder : s.forwarder.unlabelled ⊆ bs) (ring : s.media.preRollBuffer.contents ⊆ bs)
    (vad : s.vad.unlabelled ⊆ bs) : s.unsent ⊆ bs := by
  intro b mem
  simp only [unsent, List.mem_append, List.mem_flatMap] at mem
  obtain (⟨frame, queued, byte⟩ | held) | old | copied := mem
  · exact queue frame queued byte
  · exact forwarder held
  · exact ring old
  · exact vad copied

/-- **No byte comes from nowhere**: what is on its way after a step was so before, or was just
delivered. -/
theorem unsent_subset_of_moved [Double.UndefinedCast] (moved : s.Moved action t) :
    t.unsent ⊆ s.unsent ++ s.delivered action := by
  have kept : s.unsent ⊆ s.unsent ++ s.delivered action := List.subset_append_left _ _
  have queue : ∀ frame ∈ s.sink.audioQueue, frame.data ⊆ s.unsent ++ s.delivered action :=
    fun frame queued _ mem => kept (mem_unsent_of_queue queued mem)
  have forwarder : s.forwarder.unlabelled ⊆ s.unsent ++ s.delivered action :=
    fun _ mem => kept (mem_unsent_of_forwarder mem)
  have ring : s.media.preRollBuffer.contents ⊆ s.unsent ++ s.delivered action :=
    fun _ mem => kept (mem_unsent_of_ring mem)
  have vad : s.vad.unlabelled ⊆ s.unsent ++ s.delivered action :=
    fun _ mem => kept (mem_unsent_of_vad mem)
  cases moved with
  | controls | endsTurn | ignores => exact kept
  | @hears track data =>
      refine unsent_subset (fun frame queued => ?_) forwarder ring vad
      simp only [AudioTrackSink.audioQueue_onData, List.mem_append, List.mem_ite_nil_right,
        List.mem_singleton] at queued
      obtain old | ⟨takes, rfl⟩ := queued
      · exact queue frame old
      · rw [delivered, if_pos takes]
        exact List.subset_append_right _ _
  | discards =>
      exact unsent_subset (fun frame queued => queue frame (List.mem_of_mem_tail queued))
        forwarder ring vad
  | loops =>
      refine unsent_subset queue ?_ ring vad
      dsimp only
      split_ifs <;> exact List.nil_subset _
  | waits => exact unsent_subset queue (List.nil_subset _) ring vad
  | pops _ queued =>
      rw [queued] at queue
      obtain ⟨frame, rest⟩ := List.forall_mem_cons.mp queue
      exact unsent_subset rest frame ring vad
  | appends popped =>
      rw [popped] at forwarder
      obtain ⟨older, split⟩ := CircularBuffer.pushBack_suffix List.suffix_rfl _
      refine unsent_subset queue forwarder (fun b mem => ?_) vad
      obtain old | new := List.mem_append.mp (split ▸ List.mem_append_right older mem)
      · exact ring old
      · exact forwarder new
  | testsGate appended =>
      rw [appended] at forwarder
      refine unsent_subset queue ?_ ring vad
      dsimp only
      split_ifs
      · exact forwarder
      · exact List.nil_subset _
  | addresses =>
      refine unsent_subset queue ?_ ring vad
      dsimp only
      split_ifs <;> exact List.nil_subset _
  | @forwards _ _ _ next _ sends =>
      refine unsent_subset queue ?_ (sends.preRollBuffer_eq ▸ ring) vad
      cases next <;> exact List.nil_subset _
  | findsNothing => exact unsent_subset queue forwarder ring (List.nil_subset _)
  | copies => exact unsent_subset queue forwarder ring ring
  | addressesPreRoll =>
      refine unsent_subset queue forwarder ring ?_
      dsimp only
      split_ifs <;> exact List.nil_subset _
  | @flushes _ _ _ _ next _ sends =>
      refine unsent_subset queue forwarder (sends.preRollBuffer_eq ▸ ring) ?_
      cases next <;> exact List.nil_subset _
  | opensGate => exact unsent_subset queue forwarder ring (List.nil_subset _)

/-- **The first consumer changes** only where a command registers one: `Cleanup` leaves the map
alone or clears it. -/
theorem firstConsumerId_of_control [Double.UndefinedCast] {action : TeardownAction}
    {control : Teardown} (stepped : s.control.step action = some control)
    (consumer : firstConsumerId { s with control } ≠ "") :
    firstConsumerId { s with control } = s.firstAfter action := by
  cases Teardown.step_moved stepped with
  | pushes | pops | sleeps => rfl
  | checks thread | finishes thread | looks thread | emits thread | performs thread =>
      simp only [firstAfter, Teardown.op?, thread, Program.next?]
      rfl
  | @cleans first _ t left performed =>
      cases first with
      | closeConsumers =>
          cases performed
          exact absurd rfl consumer
      | join =>
          simp only [Teardown.perform] at performed
          split at performed
          case h_1 =>
            cases performed
            rfl
          case h_2 => cases performed
      | _ =>
          cases performed
          rfl

theorem firstConsumerId_of_moved [Double.UndefinedCast] (moved : s.Moved action t)
    (consumer : t.firstConsumerId ≠ "") (changed : t.firstConsumerId ≠ s.firstConsumerId) :
    ∃ command, action = .control command ∧ t.firstConsumerId = s.firstAfter command := by
  cases moved with
  | controls stepped => exact ⟨_, rfl, firstConsumerId_of_control stepped consumer⟩
  | _ => exact absurd rfl changed

theorem owners_subset_of_moved [Double.UndefinedCast] (moved : s.Moved action t) :
    s.owners ⊆ t.owners := by
  cases moved with
  | controls => exact List.subset_append_left _ _
  | _ => exact List.Subset.refl _

/-- The invariant: all bytes on their way are 48 kHz mono, and if there is a consumer, a track of
the first one delivered them. -/
structure Kept (s : MediaPath) : Prop where
  plain : ∀ b ∈ s.unsent, b.sampleRate = 48000 ∧ b.channels = 1
  owned : s.firstConsumerId ≠ "" → ∀ b ∈ s.unsent, (b.track, s.firstConsumerId) ∈ s.owners

/-- A byte that is delivered is one the condition speaks of. -/
theorem FirstSpeaks.delivered (speaks : s.FirstSpeaks action) {b : TrackByte}
    (mem : b ∈ s.delivered action) : (b.sampleRate = 48000 ∧ b.channels = 1) ∧
      (s.firstConsumerId ≠ "" → (b.track, s.firstConsumerId) ∈ s.owners) := by
  cases action with
  | onData track data =>
      obtain ⟨takes, mem⟩ := List.mem_ite_nil_right.mp mem
      obtain ⟨value, -, rfl⟩ := List.mem_map.mp mem
      obtain ⟨⟨sampleRate, channels⟩, owned⟩ := speaks takes
      exact ⟨⟨congrArg Int32.toUInt32 sampleRate, congrArg UInt64.toUInt32 channels⟩, owned⟩
  | _ => cases mem

/-- **One step** of anybody keeps it: a step that delivers or that changes the first consumer meets
the condition, and no other brings in a byte. -/
theorem Kept.moved [Double.UndefinedCast] (kept : s.Kept) (speaks : s.FirstSpeaks action)
    (moved : s.Moved action t) : t.Kept where
  plain b mem := by
    obtain old | new := List.mem_append.mp (unsent_subset_of_moved moved mem)
    · exact kept.plain b old
    · exact (speaks.delivered new).1
  owned consumer b mem := by
    have onItsWay := List.mem_append.mp (unsent_subset_of_moved moved mem)
    by_cases same : t.firstConsumerId = s.firstConsumerId
    · rw [same] at consumer ⊢
      refine owners_subset_of_moved moved ?_
      obtain old | new := onItsWay
      · exact kept.owned consumer b old
      · exact (speaks.delivered new).2 consumer
    · obtain ⟨command, rfl, first⟩ := firstConsumerId_of_moved moved consumer same
      rw [first] at consumer same ⊢
      refine owners_subset_of_moved moved (speaks same consumer b ?_)
      exact onItsWay.resolve_right List.not_mem_nil

end MediaPath

/-! ### The payloads

A frame is labelled where its thread asks for the first consumer.  From there on the label and the
bytes go together, so it is enough that they agree at that moment; the ring holds bytes without a
format, which is why it is labelled as 48 kHz mono. -/

/-- What a thread is about to send describes its bytes. -/
def SendPhase.Describing (owners : List (ℕ × String)) : SendPhase → Prop
  | .checking deviceConsumerId frame => Describes owners deviceConsumerId frame
  | .locking payload | .writing payload =>
      Describes owners payload.deviceConsumerId payload.frame

theorem SendPhase.Describing.mono {owners owners' : List (ℕ × String)} {phase : SendPhase}
    (describing : phase.Describing owners) (subset : owners ⊆ owners') :
    phase.Describing owners' := by
  cases phase <;> exact Describes.mono describing subset

theorem SendPhase.Describing.inWrite {owners : List (ℕ × String)} {phase : SendPhase}
    (describing : phase.Describing owners) :
    ∀ payload ∈ phase.inWrite, Describes owners payload.deviceConsumerId payload.frame := by
  cases phase with
  | writing payload =>
      intro _ mem
      rw [List.mem_singleton.mp mem]
      exact describing
  | _ => exact nofun

namespace ForwarderPhase

/-- The frame the forwarding thread holds has one format, and once it is about to be sent,
describes its bytes. -/
def Labelled (owners : List (ℕ × String)) : ForwarderPhase → Prop
  | .popped frame | .appended frame | .passed frame => frame.Uniform
  | .sending phase => phase.Describing owners
  | .looping | .fetching | .exited => True

theorem Labelled.mono {owners owners' : List (ℕ × String)} {phase : ForwarderPhase}
    (labelled : phase.Labelled owners) (subset : owners ⊆ owners') :
    phase.Labelled owners' := by
  cases phase with
  | sending phase => exact SendPhase.Describing.mono labelled subset
  | _ => exact labelled

end ForwarderPhase

namespace VadPhase

/-- What the VAD thread is about to send describes its bytes. -/
def Labelled (owners : List (ℕ × String)) : VadPhase → Prop
  | .sending phase => phase.Describing owners
  | .idle | .copied _ | .opening => True

theorem Labelled.mono {owners owners' : List (ℕ × String)} {phase : VadPhase}
    (labelled : phase.Labelled owners) (subset : owners ⊆ owners') :
    phase.Labelled owners' := by
  cases phase with
  | sending phase => exact SendPhase.Describing.mono labelled subset
  | _ => exact labelled

end VadPhase

namespace MediaPath

variable {s t : MediaPath}

/-- The invariant: so does every payload on its way there, and every frame that a thread takes to
`SendMediaFrame` together with the id it was given.  A frame in the queue knows its format. -/
structure Labelled (s : MediaPath) : Prop where
  queue : ∀ frame ∈ s.sink.audioQueue, frame.Uniform
  forwarder : s.forwarder.Labelled s.owners
  vad : s.vad.Labelled s.owners
  written : ∀ payload ∈ s.media.written,
    Describes s.owners payload.deviceConsumerId payload.frame

/-- A step in `SendMediaFrame` keeps what it says. -/
theorem Sends.describing {phase : SendPhase} {media : MediaStream TrackByte}
    {next : Option SendPhase} (sends : s.Sends phase media next)
    (describing : phase.Describing s.owners) (written : ∀ payload ∈ s.media.written,
      Describes s.owners payload.deviceConsumerId payload.frame) :
    (∀ phase ∈ next, phase.Describing s.owners) ∧
      ∀ payload ∈ media.written, Describes s.owners payload.deviceConsumerId payload.frame := by
  cases sends with
  | drops _ _ same _ | fails _ same _ => exact ⟨nofun, same ▸ written⟩
  | prepares payload same _ =>
      refine ⟨?_, same ▸ written⟩
      rintro _ ⟨⟩
      exact describing
  | locks payload =>
      refine ⟨?_, written⟩
      rintro _ ⟨⟩
      exact describing
  | writes payload more _ =>
      refine ⟨nofun, fun other mem => ?_⟩
      obtain old | new := List.mem_append.mp (more ▸ mem)
      · exact written other old
      · rw [List.mem_singleton.mp new]
        exact describing

theorem Labelled.hears {track : ℕ} {data : TrackData} (labelled : s.Labelled) :
    Labelled { s with sink := s.sink.onData track data } := by
  refine ⟨fun frame mem => ?_, labelled.forwarder, labelled.vad, labelled.written⟩
  simp only [AudioTrackSink.onData, AudioTrackSink.push] at mem
  split_ifs at mem
  · exact labelled.queue frame mem
  · exact labelled.queue frame mem
  · obtain old | new := List.mem_append.mp mem
    · exact labelled.queue frame old
    · rw [List.mem_singleton.mp new]
      exact data.uniform_frame track
  · exact labelled.queue frame mem

/-- **One step** of anybody.  The two that ask for the first consumer hold nothing but its
bytes then. -/
theorem Labelled.moved [Double.UndefinedCast] {action : MediaAction} (labelled : s.Labelled)
    (kept : s.Kept) (moved : s.Moved action t) : t.Labelled := by
  obtain ⟨queue, forwarder, vad, written⟩ := labelled
  cases moved with
  | @controls action =>
      have subset : s.owners ⊆ s.owners ++ (s.owner? action).toList := List.subset_append_left _ _
      exact ⟨queue, forwarder.mono subset, vad.mono subset,
        fun payload mem => (written payload mem).mono subset⟩
  | hears data => exact Labelled.hears ⟨queue, forwarder, vad, written⟩
  | discards =>
      exact ⟨fun frame mem => queue frame (List.mem_of_mem_tail mem), forwarder, vad, written⟩
  | loops =>
      refine ⟨queue, ?_, vad, written⟩
      dsimp only
      split_ifs <;> trivial
  | waits => exact ⟨queue, trivial, vad, written⟩
  | pops _ queued =>
      rw [queued] at queue
      obtain ⟨uniform, queue⟩ := List.forall_mem_cons.mp queue
      exact ⟨queue, uniform, vad, written⟩
  | appends popped =>
      rw [popped] at forwarder
      exact ⟨queue, forwarder, vad, written⟩
  | testsGate appended =>
      rw [appended] at forwarder
      refine ⟨queue, ?_, vad, written⟩
      dsimp only
      split_ifs
      · exact forwarder
      · trivial
  | addresses passed =>
      rw [passed] at forwarder
      refine ⟨queue, ?_, vad, written⟩
      dsimp only
      split_ifs with consumer
      · exact fun b mem =>
          ⟨kept.owned consumer b (mem_unsent_of_forwarder (by rwa [passed])), forwarder b mem⟩
      · trivial
  | @forwards _ _ _ next sending sends =>
      rw [sending] at forwarder
      obtain ⟨later, more⟩ := sends.describing forwarder written
      refine ⟨queue, ?_, vad, more⟩
      cases next with
      | none => trivial
      | some phase => exact later phase rfl
  | findsNothing | copies => exact ⟨queue, forwarder, trivial, written⟩
  | endsTurn | ignores => exact ⟨queue, forwarder, vad, written⟩
  | addressesPreRoll copied =>
      refine ⟨queue, forwarder, ?_, written⟩
      dsimp only
      split_ifs with consumer
      · intro b mem
        have unsent : b ∈ s.unsent := mem_unsent_of_vad (by rwa [copied])
        exact ⟨kept.owned consumer b unsent, kept.plain b unsent⟩
      · trivial
  | @flushes _ _ _ _ next sending sends =>
      rw [sending] at vad
      obtain ⟨later, more⟩ := sends.describing vad written
      refine ⟨queue, forwarder, ?_, more⟩
      cases next with
      | none => trivial
      | some phase => exact later phase rfl
  | opensGate => exact ⟨queue, forwarder, trivial, written⟩

/-- A session creates a transport and two consumers, with the tracks 4 and 6. -/
def twoConsumers : List MediaAction :=
  [[.push (.loadDevice ⟨[], []⟩), .push (.createTransport "transport"),
      .push (.createConsumer "a" .audio), .push (.createConsumer "b" .audio)],
    executed 6, executed 8, executed 7, executed 7].flatten.map .control

/-- A frame of one sample. -/
def oneSample (sampleRate : Int32) : TrackData := ⟨[1, 2], 16, sampleRate, 1, 1, 0⟩

end MediaPath

end Saasy.ListeningEngine
