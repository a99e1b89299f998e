import Mathlib.Data.List.DropRight
import Mathlib.Data.Rat.Defs
import Mathlib.Algebra.Order.Ring.Rat

/-!
# The turn buffer and the SmartTurn detector

`audio_turn_buffer.cpp` keeps the last eight seconds of a turn;
`smart_turn_detector.cpp` analyses what it is handed, truncated to the same
length.

The mel spectrogram and the ONNX inference behind `SmartTurnDetector::Process`
are one parameter here, a partial function of the samples that are analysed:
`none` is a failed spectrogram or an `Ort::Exception`.

The slices are written as the source writes them, with the branch that shifts the buffer and the
branch for a vector as long as the whole of it, and `append_buffer` says what they come to: after
`Append` the buffer holds the last samples of all that it has been given.  The detector cuts what it
is handed to the same length before it analyses it, so a buffer goes through unchanged.
-/

namespace Saasy.ListeningEngine

/-- `kMaxSamples`: eight seconds at 16 kHz. -/
def kMaxSamples : ℕ := 16000 * 8

/-- `AudioTurnBuffer`.  The capacity is a constant of the class and `reserve` only allocates, so
the vector is all there is. -/
structure AudioTurnBuffer (Sample : Type*) where
  buffer : List Sample

namespace AudioTurnBuffer

variable {Sample : Type*}

def create : AudioTurnBuffer Sample := ⟨[]⟩

/-- `AudioTurnBuffer::Append`.  `samples_to_keep` is a `size_t` difference: it
wraps when `samples` alone is over capacity. -/
def append (b : AudioTurnBuffer Sample) (samples : List Sample) : AudioTurnBuffer Sample :=
  if samples = [] then b
  else if kMaxSamples < b.buffer.length + samples.length then
    let samplesToKeep := (((kMaxSamples : ℤ) - samples.length) % 2 ^ 64).toNat
    if 0 < samplesToKeep ∧ samplesToKeep < b.buffer.length then
      ⟨b.buffer.drop (b.buffer.length - samplesToKeep) ++ samples⟩
    else if kMaxSamples ≤ samples.length then
      ⟨samples.drop (samples.length - kMaxSamples)⟩
    else ⟨samples⟩
  else ⟨b.buffer ++ samples⟩

def clear (_ : AudioTurnBuffer Sample) : AudioTurnBuffer Sample := ⟨[]⟩

/-- `AudioTurnBuffer::IsEmpty`. -/
def isEmpty (b : AudioTurnBuffer Sample) : Bool := b.buffer.isEmpty

/-- What was just appended is never lost entirely. -/
theorem isEmpty_append {samples : List Sample} (fresh : samples ≠ [])
    (b : AudioTurnBuffer Sample) : (b.append samples).isEmpty = false := by
  have nonzero : 0 < samples.length := List.length_pos_iff.mpr fresh
  simp only [append, fresh, if_false, isEmpty, List.isEmpty_eq_false_iff]
  split_ifs with excess keep long
  · simp [fresh]
  · intro empty
    simp only [List.drop_eq_nil_iff, kMaxSamples] at empty long
    omega
  · exact fresh
  · simp [fresh]

/-! ### What it keeps

All of it follows from one fact: cutting a list down to its last elements before something is
appended makes no difference to the last elements afterwards. -/

theorem length_rtake (n : ℕ) (xs : List Sample) : (xs.rtake n).length = min n xs.length := by
  rw [List.rtake, List.length_drop]
  omega

/-- What was cut off before is cut off now. -/
theorem rtake_rtake_append (n : ℕ) (xs ys : List Sample) :
    (xs.rtake n ++ ys).rtake n = (xs ++ ys).rtake n := by
  simp only [List.rtake_eq_reverse_take_reverse, List.reverse_append, List.reverse_reverse,
    List.take_append, List.take_take]
  congr 3
  omega

/-- **The buffer keeps the last samples** of what was appended, up to its capacity.  The size
of a vector is a `size_t`. -/
theorem append_buffer {b : AudioTurnBuffer Sample} {heard : List Sample}
    (kept : b.buffer = heard.rtake kMaxSamples) {samples : List Sample}
    (fits : samples.length < 2 ^ 64) :
    (b.append samples).buffer = (heard ++ samples).rtake kMaxSamples := by
  have bounded : b.buffer.length ≤ kMaxSamples := by
    rw [kept, length_rtake]
    exact Nat.min_le_left _ _
  have capacity : kMaxSamples = 128000 := rfl
  rw [← rtake_rtake_append, ← kept, List.rtake, List.length_append, List.drop_append]
  simp only [append]
  split_ifs with none excess keep long
  · rw [none, List.length_nil, List.drop_nil, Nat.sub_eq_zero_of_le (by omega), List.drop_zero]
    exact (List.append_nil _).symm
  · -- the kept end of the buffer, then the samples
    have all : b.buffer.length + samples.length - kMaxSamples - b.buffer.length = 0 := by omega
    have kept : b.buffer.length - (((kMaxSamples : ℤ) - samples.length) % 2 ^ 64).toNat =
        b.buffer.length + samples.length - kMaxSamples := by omega
    rw [all, kept, List.drop_zero]
  · -- the samples alone fill the buffer
    have last : b.buffer.length + samples.length - kMaxSamples - b.buffer.length =
        samples.length - kMaxSamples := by omega
    have gone : b.buffer.drop (b.buffer.length + samples.length - kMaxSamples) = [] :=
      List.drop_eq_nil_of_le (by omega)
    rw [last, gone, List.nil_append]
  · omega
  · rw [Nat.sub_eq_zero_of_le (by omega), Nat.zero_sub, List.drop_zero, List.drop_zero]

end AudioTurnBuffer

/-- `TurnDetectorConfig` with its defaults; the thread count only matters to the spectrogram, which
is computed the same for any number. -/
structure TurnDetectorConfig where
  turnThreshold : ℚ := 1 / 2
  nThreadsForMel : ℤ := 1

namespace SmartTurnDetector

variable {Sample : Type*}

/-- The samples `SmartTurnDetector::Process` analyses: the whole buffer, or its
last eight seconds.  `n_samples` is an `int`. -/
def analysed (audioBuffer : List Sample) : List Sample :=
  let nSamples := (audioBuffer.length : ℤ).bmod (2 ^ 32)
  if (kMaxSamples : ℤ) < nSamples then
    (audioBuffer.drop (nSamples - kMaxSamples).toNat).take kMaxSamples
  else audioBuffer.take nSamples.toNat

/-- `SmartTurnDetector::Process`, `-1` on an empty buffer or a failure. -/
def process (infer : List Sample → Option ℚ) (audioBuffer : List Sample) : ℚ :=
  if audioBuffer = [] then -1
  else (infer (analysed audioBuffer)).getD (-1)

/-- `SmartTurnDetector::IsTurnComplete`. -/
def isTurnComplete (config : TurnDetectorConfig) (probability : ℚ) : Bool :=
  config.turnThreshold ≤ probability

end SmartTurnDetector

end Saasy.ListeningEngine
