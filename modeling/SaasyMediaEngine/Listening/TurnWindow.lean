import SaasyMediaEngine.Listening.SmartTurnDetector

/-!
# The turn buffer is a window on the stream

`AudioTurnBuffer` is handed vectors of any length, and is cleared in between.  What it holds are
the last eight seconds of what was appended since it was cleared, and SmartTurn reads the same
samples off it as it would off everything that was appended.

The source does the arithmetic of `Append` in `size_t`: the size of the buffer plus the size of what
is appended, minus the capacity.  A sum of two sizes of vectors stays below 2^64 because each fits a
`ptrdiff_t`, which is what `StdVector` carries as a field, and the difference is taken only where it
is not negative.  So the theorem about windows is about the machine arithmetic of the source, with
no bound on how much is appended over time.
-/

namespace Saasy.ListeningEngine

/-- A `std::vector`: its size fits a `ptrdiff_t`, so the sum of two sizes fits a `size_t`. -/
structure StdVector (α : Type*) where
  elements : List α
  fits : elements.length < 2 ^ 63

/-- What the pipeline does with its turn buffer: a batch of audio is appended, and a turn that ends
or starts clears it. -/
inductive TurnBufferCall (Sample : Type*) where
  | append (samples : StdVector Sample)
  | clear

namespace TurnBufferCall

variable {Sample : Type*}

def isAppend : TurnBufferCall Sample → Bool
  | .append _ => true
  | .clear => false

/-- What a call appends. -/
def samples : TurnBufferCall Sample → List Sample
  | .append samples => samples.elements
  | .clear => []

/-- All that was appended since the construction, or since the last `Clear`. -/
def appended (calls : List (TurnBufferCall Sample)) : List Sample :=
  (calls.rtakeWhile isAppend).flatMap samples

theorem appended_concat_append (calls : List (TurnBufferCall Sample)) (samples : StdVector Sample) :
    appended (calls ++ [.append samples]) = appended calls ++ samples.elements := by
  rw [appended, List.rtakeWhile_concat_pos _ _ _ (show isAppend (.append samples) = true from rfl),
    List.flatMap_append, List.flatMap_singleton]
  rfl

theorem appended_concat_clear (calls : List (TurnBufferCall Sample)) :
    appended (calls ++ [.clear]) = [] := by
  rw [appended, List.rtakeWhile_concat_neg _ _ _ (show ¬ isAppend .clear = true from nofun)]
  rfl

end TurnBufferCall

open TurnBufferCall

namespace AudioTurnBuffer

variable {Sample : Type*}

def call (b : AudioTurnBuffer Sample) : TurnBufferCall Sample → AudioTurnBuffer Sample
  | .append samples => b.append samples.elements
  | .clear => b.clear

/-- The buffer after a sequence of calls. -/
def after (calls : List (TurnBufferCall Sample)) : AudioTurnBuffer Sample :=
  calls.foldl call create

theorem after_concat (calls : List (TurnBufferCall Sample)) (last : TurnBufferCall Sample) :
    after (calls ++ [last]) = (after calls).call last :=
  List.foldl_append

/-- What each call keeps, it keeps of all that was appended. -/
theorem buffer_after (calls : List (TurnBufferCall Sample)) :
    (after calls).buffer = (appended calls).rtake kMaxSamples := by
  induction calls using List.reverseRecOn with
  | nil => exact (List.rtake_nil _).symm
  | append_singleton calls last ih =>
      rw [after_concat]
      cases last with
      | append samples =>
          rw [appended_concat_append]
          exact append_buffer ih (samples.fits.trans (by decide))
      | clear =>
          rw [appended_concat_clear, List.rtake_nil]
          rfl

theorem length_buffer_after (calls : List (TurnBufferCall Sample)) :
    (after calls).buffer.length = min kMaxSamples (appended calls).length := by
  rw [buffer_after, length_rtake]

/-- `samples_to_keep` of `Append`. -/
def samplesToKeep (samples : List Sample) : ℕ :=
  (((kMaxSamples : ℤ) - samples.length) % 2 ^ 64).toNat

/-- A part of the buffer is kept only where the difference does not wrap. -/
theorem samplesToKeep_add_length {b : AudioTurnBuffer Sample}
    (bounded : b.buffer.length ≤ kMaxSamples) {samples : List Sample}
    (fits : samples.length < 2 ^ 63) (keeps : samplesToKeep samples < b.buffer.length) :
    samplesToKeep samples + samples.length = kMaxSamples := by
  have capacity : kMaxSamples = 128000 := rfl
  rw [samplesToKeep] at keeps ⊢
  omega

/-- The branch that shifts the buffer. -/
theorem append_of_keeps {b : AudioTurnBuffer Sample} (bounded : b.buffer.length ≤ kMaxSamples)
    {samples : List Sample} (excess : kMaxSamples < b.buffer.length + samples.length)
    (some : 0 < samplesToKeep samples) (keeps : samplesToKeep samples < b.buffer.length) :
    (b.append samples).buffer =
      b.buffer.drop (b.buffer.length - samplesToKeep samples) ++ samples := by
  have nonempty : samples ≠ [] := by
    rintro rfl
    exact absurd excess (not_lt.mpr bounded)
  rw [append, if_neg nonempty, if_pos excess]
  exact congrArg buffer (if_pos ⟨some, keeps⟩)

end AudioTurnBuffer

namespace SmartTurnDetector

variable {Sample : Type*}

/-- What is analysed of a buffer that fits an `int`. -/
theorem analysed_eq_rtake {audioBuffer : List Sample} (fits : audioBuffer.length < 2 ^ 31) :
    analysed audioBuffer = audioBuffer.rtake kMaxSamples := by
  unfold analysed
  generalize kMaxSamples = capacity
  rw [bmod_length fits, List.rtake]
  dsimp only
  split_ifs with long
  · have last : (((audioBuffer.length : ℤ) - capacity).toNat) = audioBuffer.length - capacity := by
      omega
    rw [last, List.take_of_length_le]
    rw [List.length_drop]
    omega
  · rw [Int.toNat_natCast, List.take_length, Nat.sub_eq_zero_of_le (by omega), List.drop_zero]

/-- The detector reads the same samples off the window as off the whole. -/
theorem analysed_rtake {heard : List Sample} (fits : heard.length < 2 ^ 31) :
    analysed (heard.rtake kMaxSamples) = analysed heard := by
  have shorter : (heard.rtake kMaxSamples).length < 2 ^ 31 := by
    rw [AudioTurnBuffer.length_rtake]
    exact lt_of_le_of_lt (Nat.min_le_right _ _) fits
  have again := AudioTurnBuffer.rtake_rtake_append kMaxSamples heard []
  rw [List.append_nil, List.append_nil] at again
  rw [analysed_eq_rtake fits, analysed_eq_rtake shorter, again]

theorem rtake_eq_nil_iff {heard : List Sample} :
    heard.rtake kMaxSamples = [] ↔ heard = [] := by
  have capacity : kMaxSamples = 128000 := rfl
  rw [← List.length_eq_zero_iff, ← List.length_eq_zero_iff, AudioTurnBuffer.length_rtake]
  omega

theorem process_rtake {heard : List Sample} (fits : heard.length < 2 ^ 31)
    (infer : List Sample → Option ℚ) :
    process infer (heard.rtake kMaxSamples) = process infer heard := by
  simp only [process, rtake_eq_nil_iff, analysed_rtake fits]

end SmartTurnDetector

/-! ### The law

A difference of sizes in `Append` wraps when the samples alone are over capacity, and in that case
nothing depends on it.  The law says so for the next call after any sequence of calls. -/

open AudioTurnBuffer SmartTurnDetector

/-- **The turn buffer is a sliding window.**  After any calls it holds the last samples that
were appended, up to its capacity; the `size_t` arithmetic of the next `Append` does not wrap
where a slice depends on it; and SmartTurn analyses the same samples as it would of all that was
appended. -/
theorem window_of_calls {Sample : Type*} (calls : List (TurnBufferCall Sample)) :
    (after calls).buffer = (appended calls).rtake kMaxSamples ∧
      (after calls).buffer.length = min kMaxSamples (appended calls).length ∧
      (∀ samples : StdVector Sample,
        (after calls).buffer.length + samples.elements.length < 2 ^ 64 ∧
          (kMaxSamples < (after calls).buffer.length + samples.elements.length →
            0 < samplesToKeep samples.elements →
              samplesToKeep samples.elements < (after calls).buffer.length →
                samplesToKeep samples.elements + samples.elements.length = kMaxSamples ∧
                  ((after calls).append samples.elements).buffer =
                    (after calls).buffer.drop
                      ((after calls).buffer.length - samplesToKeep samples.elements) ++
                        samples.elements)) ∧
      ((appended calls).length < 2 ^ 31 →
        analysed (after calls).buffer = analysed (appended calls) ∧
          ∀ infer, process infer (after calls).buffer = process infer (appended calls)) := by
  have window := buffer_after calls
  have length := length_buffer_after calls
  have bounded : (after calls).buffer.length ≤ kMaxSamples :=
    length.trans_le (Nat.min_le_left _ _)
  have capacity : kMaxSamples = 128000 := rfl
  refine ⟨window, length, fun samples => ⟨?_, fun excess some keeps => ?_⟩, fun fits => ?_⟩
  · have := samples.fits
    omega
  · exact ⟨samplesToKeep_add_length bounded samples.fits keeps,
      append_of_keeps bounded excess some keeps⟩
  · rw [window]
    exact ⟨analysed_rtake fits, process_rtake fits⟩

/-- The same with the spectrogram that `Process` computes. -/
theorem processSpectrogram_after {α : Type*} [Field α] [LinearOrder α]
    (m : LogMelSpectrogram.Cmath α) (s : LogMelSpectrogram.Statics α) (schedule : List ℕ)
    (config : TurnDetectorConfig) (infer : LogMelSpectrogram.Output α → Option ℚ)
    {calls : List (TurnBufferCall α)} (fits : (appended calls).length < 2 ^ 31) :
    processSpectrogram m s schedule config infer (after calls).buffer =
      processSpectrogram m s schedule config infer (appended calls) := by
  have shorter : (after calls).buffer.length < 2 ^ 31 := by
    rw [length_buffer_after]
    exact lt_of_le_of_lt (Nat.min_le_right _ _) fits
  have same : analysed (after calls).buffer = analysed (appended calls) := by
    rw [buffer_after]
    exact analysed_rtake fits
  have empty : (after calls).buffer = [] ↔ appended calls = [] := by
    rw [buffer_after]
    exact rtake_eq_nil_iff
  by_cases nonempty : appended calls = []
  · rw [processSpectrogram, if_pos (empty.mpr nonempty), processSpectrogram, if_pos nonempty]
  · rw [processSpectrogram_of_nonempty (mt empty.mp nonempty) shorter,
      processSpectrogram_of_nonempty nonempty fits, same]

end Saasy.ListeningEngine
