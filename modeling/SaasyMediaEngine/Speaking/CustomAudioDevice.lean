import Mathlib.Algebra.Order.Ring.Int
import Mathlib.Data.List.Basic

/-!
# The audio device of a speaking session

`speaking-engine/src/custom_audio_device_module.cpp`.  The media stream pushes
chunks of 16-bit samples to a lock-free queue; every 10 ms the capture loop drains
the queue into a ring, caps the ring at 200 ms, takes one frame of 480 samples off
its front and delivers it.  `FlushAudioBuffer` empties both places, or leaves a
fade; the playback completion callback fires once speech generation is complete
and the ring is empty.

Samples carry where they came from, which no definition here looks at: it is what
the statements about lost or late audio are made of.  The queue is attached for the
lifetime of the session.  The fade is computed exactly.

The steps of an iteration are functions on the device, `drainQueue`, `enforceCap`,
`assembleOne10msFrame` and `checkCompletion`, and `captureTick` puts them in a row; the modules on
threads take them apart again at the two critical sections.  `origins_drainCapAssemble` is the one
equation that they share: the origins in the queue and in the ring are those of what is dropped, of
the frame, and of the ring afterwards, in this order.  Order, loss and doubling are all read off it.

A chunk of an odd number of bytes is skipped by the loop and takes its samples with it; the media
stream lets none through.
-/

namespace Saasy.SpeakingEngine

/-- `kSampleRateHz`. -/
def kSampleRateHz : ℕ := 48000

/-- `kNumChannels`. -/
def kNumChannels : ℕ := 1

/-- `kSamplesPer10ms`. -/
def kSamplesPer10ms : ℕ := kSampleRateHz / 100

/-- `ring_hard_cap_frames_ms_`. -/
def ringHardCapFramesMs : ℕ := 200

/-- `hard_cap_samples`. -/
def hardCapSamples : ℕ := kSampleRateHz / 1000 * ringHardCapFramesMs * kNumChannels

/-- The capacity of `Session::audio_queue`. -/
def kAudioQueueCapacity : ℕ := 256

theorem hardCapSamples_eq : hardCapSamples = 9600 := rfl

/-- The chunk a sample was pushed with, and its place in it: two samples with one origin are the
same sample. -/
structure Origin where
  chunk : ℕ
  index : ℕ
  deriving DecidableEq

/-- An `int16_t` sample, as an integer; the silence of an underrun has no origin, and neither is it
lost nor does it come late. -/
structure Sample where
  value : ℤ
  origin : Option Origin
  deriving DecidableEq

/-- The origins of the samples that have one. -/
def origins (samples : List Sample) : List Origin := samples.filterMap Sample.origin

/-- `PcmChunk`, numbered in the order of the pushes, which is the order in which the queue hands
them out. -/
structure PcmChunk where
  serial : ℕ
  bytes : List UInt8
  deriving DecidableEq

namespace PcmChunk

/-- `reinterpret_cast<const int16_t*>`: little-endian pairs. -/
def decode : List UInt8 → List ℤ
  | lo :: hi :: rest => ((lo.toNat + 256 * hi.toNat : ℕ) : ℤ).bmod 65536 :: decode rest
  | _ => []

def samples (chunk : PcmChunk) : List Sample :=
  (decode chunk.bytes).zipIdx.map fun x => ⟨x.1, some ⟨chunk.serial, x.2⟩⟩

theorem length_decode : ∀ bytes, (decode bytes).length = bytes.length / 2
  | [] => rfl
  | [_] => by simp [decode]
  | lo :: hi :: rest => by
      rw [decode, List.length_cons, length_decode rest, List.length_cons, List.length_cons]
      omega

theorem length_samples (chunk : PcmChunk) : chunk.samples.length = chunk.bytes.length / 2 := by
  rw [samples, List.length_map, List.length_zipIdx, length_decode]

/-- The chunks the capture loop does not skip. -/
def valid (chunk : PcmChunk) : Bool := !chunk.bytes.isEmpty && chunk.bytes.length % 2 == 0

end PcmChunk

structure CustomAudioDeviceModule where
  audioQueue : List PcmChunk
  ringSamples : List Sample
  underruns : UInt64
  initialized : Bool
  recIsInitialized : Bool
  recording : Bool
  speechGenerationComplete : Bool
  /-- Whether `playback_completion_callback_` is set. -/
  playbackCompletionCallback : Bool

namespace CustomAudioDeviceModule

/-- The constructor, with its queue set. -/
def create : CustomAudioDeviceModule where
  audioQueue := []
  ringSamples := []
  underruns := 0
  initialized := false
  recIsInitialized := false
  recording := false
  speechGenerationComplete := false
  playbackCompletionCallback := false

/-- `CustomAudioDeviceModule::Init`. -/
def init (adm : CustomAudioDeviceModule) : CustomAudioDeviceModule :=
  if adm.initialized then adm
  else { adm with initialized := true, ringSamples := [], underruns := 0 }

/-- `CustomAudioDeviceModule::InitRecording`. -/
def initRecording (adm : CustomAudioDeviceModule) : CustomAudioDeviceModule :=
  if !adm.initialized then adm else { adm with recIsInitialized := true }

/-- `CustomAudioDeviceModule::StartRecording`, and whether it starts a capture thread. -/
def startRecording (adm : CustomAudioDeviceModule) : CustomAudioDeviceModule × Bool :=
  if !adm.initialized || !adm.recIsInitialized then (adm, false)
  else if adm.recording then (adm, false)
  else ({ adm with recording := true }, true)

/-- `CustomAudioDeviceModule::StopRecording`, up to the join. -/
def stopRecording (adm : CustomAudioDeviceModule) : CustomAudioDeviceModule :=
  { adm with recording := false }

/-- `CustomAudioDeviceModule::SetPlaybackCompletionCallback`. -/
def setPlaybackCompletionCallback (adm : CustomAudioDeviceModule) : CustomAudioDeviceModule :=
  { adm with playbackCompletionCallback := true }

/-- `CustomAudioDeviceModule::SpeechGenerationComplete`. -/
def completeSpeechGeneration (adm : CustomAudioDeviceModule) : CustomAudioDeviceModule :=
  { adm with speechGenerationComplete := true }

/-- `spsc_queue::push` on the audio queue, which fails while the queue is full. -/
def push (adm : CustomAudioDeviceModule) (chunk : PcmChunk) : Option CustomAudioDeviceModule :=
  if adm.audioQueue.length < kAudioQueueCapacity then
    some { adm with audioQueue := adm.audioQueue ++ [chunk] }
  else none

/-! ### The capture loop

One iteration in the order of the source: drain the queue into the ring, drop what is over the cap,
take a frame or silence, check for completion.  The first three are one critical section. -/

/-- Draining the queue into the ring. -/
def drainQueue (adm : CustomAudioDeviceModule) : CustomAudioDeviceModule :=
  { adm with
    audioQueue := []
    ringSamples := adm.ringSamples ++
      (adm.audioQueue.filter PcmChunk.valid).flatMap PcmChunk.samples }

/-- The samples the latency cap drops: the oldest ones. -/
def overCap (adm : CustomAudioDeviceModule) : List Sample :=
  adm.ringSamples.take (adm.ringSamples.length - hardCapSamples)

/-- The latency cap. -/
def enforceCap (adm : CustomAudioDeviceModule) : CustomAudioDeviceModule :=
  if hardCapSamples < adm.ringSamples.length then
    { adm with ringSamples := adm.ringSamples.drop (adm.ringSamples.length - hardCapSamples) }
  else adm

/-- `AssembleOne10msFrame`: a whole frame off the ring, or silence. -/
def assembleOne10msFrame (adm : CustomAudioDeviceModule) :
    List Sample × CustomAudioDeviceModule :=
  let need := kSamplesPer10ms * kNumChannels
  if need ≤ adm.ringSamples.length then
    (adm.ringSamples.take need, { adm with ringSamples := adm.ringSamples.drop need })
  else (List.replicate need ⟨0, none⟩, { adm with underruns := adm.underruns + 1 })

/-- The first critical section of an iteration: drain, cap, and build one frame. -/
def drainCapAssemble (adm : CustomAudioDeviceModule) :
    List Sample × CustomAudioDeviceModule :=
  adm.drainQueue.enforceCap.assembleOne10msFrame

/-- The completion check, and whether the callback is to fire. -/
def checkCompletion (adm : CustomAudioDeviceModule) : Bool × CustomAudioDeviceModule :=
  if adm.speechGenerationComplete && adm.ringSamples.isEmpty then
    (adm.playbackCompletionCallback, { adm with speechGenerationComplete := false })
  else (false, adm)

/-- One iteration of `RunCaptureLoop`, undisturbed: the frame delivered and whether
the callback fires. -/
def captureTick (adm : CustomAudioDeviceModule) :
    List Sample × Bool × CustomAudioDeviceModule :=
  (adm.drainCapAssemble.1, adm.drainCapAssemble.2.checkCompletion)

/-! ### Flushing

A flush empties the queue and cuts the ring.  What is left of the ring is faded, from full volume
at its first sample. -/

/-- The fade over the first `n` samples, from full volume to silence. -/
def fade (n : ℕ) (samples : List Sample) : List Sample :=
  samples.mapIdx fun i x => { x with value := (x.value * (n - i)).tdiv n }

/-- `CustomAudioDeviceModule::FlushAudioBuffer`.  The number of samples to fade is
computed in 32 bits. -/
def flushAudioBuffer (fadeDurationMs : UInt32) (adm : CustomAudioDeviceModule) :
    CustomAudioDeviceModule :=
  if !adm.recording then adm
  else if 0 < fadeDurationMs ∧ adm.ringSamples ≠ [] then
    let fadeSamples := (.ofNat kSampleRateHz * fadeDurationMs / 1000 : UInt32).toNat * kNumChannels
    let samplesToFade := min fadeSamples adm.ringSamples.length
    { adm with
      ringSamples := fade samplesToFade (adm.ringSamples.take samplesToFade)
      audioQueue := [] }
  else { adm with ringSamples := [], audioQueue := [] }

/-! ### What the operations do to the ring

Samples are followed by their origins.  An operation is known by what it does to the ring as a
list: it takes off the front, adds at the end, or changes the volume. -/

theorem origins_append (front back : List Sample) :
    origins (front ++ back) = origins front ++ origins back :=
  List.filterMap_append ..

/-- `StartRecording` changes nothing, or starts what is not running. -/
theorem startRecording_cases (adm : CustomAudioDeviceModule) :
    adm.startRecording = (adm, false) ∨
      (adm.recording = false ∧ adm.startRecording = ({ adm with recording := true }, true)) := by
  unfold startRecording
  split_ifs with _ recording
  · exact .inl rfl
  · exact .inl rfl
  · exact .inr ⟨eq_false_of_ne_true recording, rfl⟩

theorem drainQueue_of_empty {adm : CustomAudioDeviceModule} (empty : adm.audioQueue = []) :
    adm.drainQueue = adm := by
  obtain ⟨queue, ring, _, _, _, _, _, _⟩ := adm
  obtain rfl : queue = [] := empty
  simp [drainQueue]

/-- The cap keeps the last samples, all of them while there are few enough. -/
theorem enforceCap_eq (adm : CustomAudioDeviceModule) :
    adm.enforceCap =
      { adm with
        ringSamples := adm.ringSamples.drop (adm.ringSamples.length - hardCapSamples) } := by
  rcases lt_or_ge hardCapSamples adm.ringSamples.length with excess | small
  · rw [enforceCap, if_pos excess]
  · rw [enforceCap, if_neg (not_lt.mpr small), Nat.sub_eq_zero_of_le small, List.drop_zero]

/-- The capped ring holds 200 ms at most. -/
theorem length_enforceCap_le (adm : CustomAudioDeviceModule) :
    adm.enforceCap.ringSamples.length ≤ hardCapSamples := by
  rw [enforceCap_eq, List.length_drop]
  omega

theorem enforceCap_of_le {adm : CustomAudioDeviceModule}
    (small : adm.ringSamples.length ≤ hardCapSamples) : adm.enforceCap = adm :=
  if_neg (not_lt.mpr small)

/-- The cap splits the ring. -/
theorem origins_enforceCap (adm : CustomAudioDeviceModule) :
    origins adm.overCap ++ origins adm.enforceCap.ringSamples = origins adm.ringSamples := by
  rw [enforceCap_eq, overCap, ← origins_append, List.take_append_drop]

/-- A frame takes exactly its samples off the front of the ring, or is silence and
leaves the ring as it is. -/
theorem assemble_cases (adm : CustomAudioDeviceModule) :
    (kSamplesPer10ms ≤ adm.ringSamples.length ∧
        adm.assembleOne10msFrame =
          (adm.ringSamples.take kSamplesPer10ms,
            { adm with ringSamples := adm.ringSamples.drop kSamplesPer10ms })) ∨
      (adm.ringSamples.length < kSamplesPer10ms ∧
        adm.assembleOne10msFrame =
          (List.replicate kSamplesPer10ms ⟨0, none⟩,
            { adm with underruns := adm.underruns + 1 })) := by
  have need : kSamplesPer10ms * kNumChannels = kSamplesPer10ms := Nat.mul_one _
  rw [assembleOne10msFrame, need]
  rcases le_or_gt kSamplesPer10ms adm.ringSamples.length with enough | short
  · exact .inl ⟨enough, if_pos enough⟩
  · exact .inr ⟨short, if_neg (not_le.mpr short)⟩

/-- What is in the frame or still in the ring was in the ring. -/
theorem origins_assemble (adm : CustomAudioDeviceModule) :
    origins adm.assembleOne10msFrame.1 ++ origins adm.assembleOne10msFrame.2.ringSamples =
      origins adm.ringSamples := by
  obtain ⟨_, hframe⟩ | ⟨_, hframe⟩ := assemble_cases adm <;> rw [hframe]
  · rw [← origins_append, List.take_append_drop]
  · -- the silence of an underrun comes from nowhere
    simp [origins]

/-- Everything but the ring and the queue is as before a frame is built, the count of
underruns apart. -/
theorem drainCapAssemble_cases (adm : CustomAudioDeviceModule) :
    ∃ ring underruns, adm.drainCapAssemble.2 =
        { adm with audioQueue := [], ringSamples := ring, underruns := underruns } ∧
      ring.length ≤ hardCapSamples := by
  have hcap := length_enforceCap_le adm.drainQueue
  obtain ⟨_, hframe⟩ | ⟨_, hframe⟩ := assemble_cases adm.drainQueue.enforceCap <;>
    rw [drainCapAssemble, hframe]
  · refine ⟨adm.drainQueue.enforceCap.ringSamples.drop kSamplesPer10ms, adm.underruns, ?_, ?_⟩
    · rw [enforceCap_eq]
      rfl
    · rw [List.length_drop]
      omega
  · refine ⟨adm.drainQueue.enforceCap.ringSamples, adm.underruns + 1, ?_, hcap⟩
    rw [enforceCap_eq]
    rfl

/-- **No sample gets lost.**  What was in the ring or in a chunk of the queue that is
not skipped is dropped by the cap, in the frame, or in the ring. -/
theorem origins_drainCapAssemble (adm : CustomAudioDeviceModule) :
    origins adm.ringSamples ++
        origins ((adm.audioQueue.filter PcmChunk.valid).flatMap PcmChunk.samples) =
      origins adm.drainQueue.overCap ++
        (origins adm.drainCapAssemble.1 ++ origins adm.drainCapAssemble.2.ringSamples) := by
  rw [drainCapAssemble, origins_assemble, origins_enforceCap, ← origins_append]
  rfl

theorem length_fade (n : ℕ) (samples : List Sample) :
    (fade n samples).length = samples.length := by
  simp [fade]

/-- A fade changes the volume only. -/
theorem origins_fade (n : ℕ) (samples : List Sample) :
    origins (fade n samples) = origins samples := by
  rw [fade, List.mapIdx_eq_zipIdx_map, origins, List.filterMap_map]
  calc samples.zipIdx.filterMap (Sample.origin ∘ Prod.fst)
      = (samples.zipIdx.map Prod.fst).filterMap Sample.origin := (List.filterMap_map ..).symm
    _ = samples.filterMap Sample.origin := by rw [List.zipIdx_map_fst]

/-- A flush does nothing while nothing is recorded.  Otherwise it empties the queue and
keeps the start of the ring, faded. -/
theorem flushAudioBuffer_cases (fadeDurationMs : UInt32) (adm : CustomAudioDeviceModule) :
    (adm.recording = false ∧ adm.flushAudioBuffer fadeDurationMs = adm) ∨
      (adm.recording = true ∧ ∃ ring, adm.flushAudioBuffer fadeDurationMs =
          { adm with audioQueue := [], ringSamples := ring } ∧
        ring.length ≤ adm.ringSamples.length ∧
        origins ring = origins (adm.ringSamples.take ring.length) ∧
        (fadeDurationMs = 0 → ring = [])) := by
  rcases Bool.eq_false_or_eq_true adm.recording with recording | recording
  · refine .inr ⟨recording, ?_⟩
    rw [flushAudioBuffer, if_neg (by simp [recording])]
    split_ifs with hfade
    · refine ⟨_, rfl, ?_, ?_, ?_⟩
      · rw [length_fade, List.length_take]
        omega
      · rw [origins_fade, length_fade, List.length_take, min_assoc, min_self]
      · rintro rfl
        exact absurd hfade.1 (UInt32.lt_irrefl 0)
    · exact ⟨[], rfl, Nat.zero_le _, rfl, fun _ => rfl⟩
  · exact .inl ⟨recording, if_pos (by simp [recording])⟩

end CustomAudioDeviceModule

end Saasy.SpeakingEngine
