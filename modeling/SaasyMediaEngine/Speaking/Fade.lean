import Mathlib.Data.Rat.Floor
import SaasyMediaEngine.Speaking.CustomAudioDevice

/-!
# The fade of a flush

`FlushAudioBuffer` keeps `48 * fade_duration_ms` samples of the ring, faded linearly to
silence.  The number is computed as `kSampleRateHz * fade_duration_ms / 1000`, in the 32 bits
of its second factor: from 89479 ms on the product wraps, and the fade is shorter than what
was asked for.  `fadeLaw_iff` says for which durations and rings this shows.

The law is about one flush while something is recorded, on any ring.  The factor of a sample is the
exact quotient of its place from the end and the length of the fade, truncated toward zero as in a
conversion to `int16_t`; so a faded sample is never louder than it was and never changes its sign.
What fails from 89479 ms on is the length only: the samples that are kept are faded correctly over
the shorter stretch, and this breaks the law unless the ring is not longer than that stretch.
-/

namespace Saasy.SpeakingEngine

/-- Truncation toward zero, as in a conversion to an integer type. -/
def towardZero (q : ℚ) : ℤ := if 0 ≤ q then ⌊q⌋ else ⌈q⌉

theorem towardZero_div (a : ℤ) (n : ℕ) : towardZero (a / n) = a.tdiv n := by
  rcases Nat.eq_zero_or_pos n with rfl | positive
  · simp [towardZero]
  have sign : (0 : ℚ) ≤ a / n ↔ 0 ≤ a := by
    rw [le_div_iff₀ (by exact_mod_cast positive), zero_mul]
    exact_mod_cast Iff.rfl
  unfold towardZero
  split_ifs with nonneg
  · rw [Rat.floor_intCast_div_natCast, Int.tdiv_eq_ediv_of_nonneg (sign.mp nonneg)]
  · have negative : 0 ≤ -a := by
      have := mt sign.mpr nonneg
      omega
    have opposite : (a / n : ℚ) = -((-a : ℤ) / n) := by
      push_cast
      ring
    rw [opposite, Int.ceil_neg, Rat.floor_intCast_div_natCast,
      ← Int.tdiv_eq_ediv_of_nonneg negative, Int.neg_tdiv, neg_neg]

/-- A quotient is not larger than what is divided. -/
theorem abs_tdiv_mul_le {a k : ℤ} {n : ℕ} (nonneg : 0 ≤ k) (le : k ≤ n) :
    |(a * k).tdiv n| ≤ |a| ∧ 0 ≤ (a * k).tdiv n * a := by
  have shrink : ∀ b : ℤ, 0 ≤ b → 0 ≤ (b * k).tdiv n ∧ (b * k).tdiv n ≤ b := by
    intro b hb
    have product : 0 ≤ b * k := mul_nonneg hb nonneg
    rw [Int.tdiv_eq_ediv_of_nonneg product]
    refine ⟨Int.ediv_nonneg product (Int.natCast_nonneg n), ?_⟩
    rcases Nat.eq_zero_or_pos n with rfl | positive
    · simpa using hb
    · exact Int.ediv_le_of_le_mul (by omega) (mul_le_mul_of_nonneg_left le hb)
  rcases le_total 0 a with positive | negative
  · obtain ⟨low, high⟩ := shrink a positive
    rw [abs_of_nonneg low, abs_of_nonneg positive]
    exact ⟨high, mul_nonneg low positive⟩
  · obtain ⟨low, high⟩ := shrink (-a) (by omega)
    rw [neg_mul, Int.neg_tdiv] at low high
    rw [abs_of_nonpos (by omega), abs_of_nonpos negative]
    exact ⟨high, mul_nonneg_of_nonpos_of_nonpos (by omega) negative⟩

namespace CustomAudioDeviceModule

/-- How much of the ring a fade keeps. -/
def fadeLength (fadeDurationMs : UInt32) (adm : CustomAudioDeviceModule) : ℕ :=
  min (48 * fadeDurationMs.toNat) adm.ringSamples.length

/-- **The law of fades.**  The queue is empty, and the ring holds what the fade keeps, each
sample scaled down to its place in it. -/
structure FadeLaw (fadeDurationMs : UInt32) (before after : CustomAudioDeviceModule) : Prop where
  queue : after.audioQueue = []
  length : after.ringSamples.length = before.fadeLength fadeDurationMs
  sample : ∀ i : ℕ, ∀ old ∈ before.ringSamples[i]?, ∀ new ∈ after.ringSamples[i]?,
    new.value = towardZero (old.value * (1 - i / before.fadeLength fadeDurationMs))
  quieter : ∀ i : ℕ, ∀ old ∈ before.ringSamples[i]?, ∀ new ∈ after.ringSamples[i]?,
    |new.value| ≤ |old.value| ∧ 0 ≤ new.value * old.value

/-- The number of samples as it is computed. -/
def fadeSamples (fadeDurationMs : UInt32) : ℕ := 48000 * fadeDurationMs.toNat % 2 ^ 32 / 1000

/-- The product fits in 32 bits, or the ring is short enough anyway. -/
def CountFits (fadeDurationMs : UInt32) (adm : CustomAudioDeviceModule) : Prop :=
  48000 * fadeDurationMs.toNat < 2 ^ 32 ∨ adm.ringSamples.length ≤ fadeSamples fadeDurationMs

instance (fadeDurationMs : UInt32) (adm : CustomAudioDeviceModule) :
    Decidable (CountFits fadeDurationMs adm) :=
  inferInstanceAs (Decidable (_ ∨ _))

variable {adm : CustomAudioDeviceModule} {fadeDurationMs : UInt32}

/-- A flush while recording keeps the first samples of the ring, faded. -/
theorem flushAudioBuffer_of_recording (recording : adm.recording = true) :
    adm.flushAudioBuffer fadeDurationMs =
      { adm with
        audioQueue := []
        ringSamples :=
          let n := min (fadeSamples fadeDurationMs) adm.ringSamples.length
          fade n (adm.ringSamples.take n) } := by
  have count : (.ofNat kSampleRateHz * fadeDurationMs / 1000 : UInt32).toNat * kNumChannels =
      fadeSamples fadeDurationMs := by
    rw [UInt32.toNat_div, UInt32.toNat_mul]
    exact Nat.mul_one _
  rw [flushAudioBuffer, if_neg (by simp [recording]), count]
  split_ifs with fading
  · rfl
  · -- nothing to keep: no fade was asked for, or the ring is empty
    have none : min (fadeSamples fadeDurationMs) adm.ringSamples.length = 0 := by
      rcases not_and_or.mp fading with unfaded | empty
      · obtain rfl : fadeDurationMs = 0 := UInt32.not_lt.mp unfaded |> UInt32.le_zero_iff.mp
        exact Nat.zero_min _
      · rw [not_not.mp empty]
        exact Nat.min_zero _
    simp [none, fade]

theorem getElem?_fade {n i : ℕ} {samples : List Sample} {old new : Sample}
    (before : samples[i]? = some old) (after : (fade n (samples.take n))[i]? = some new) :
    i < n ∧ new.value = (old.value * (n - i)).tdiv n := by
  rw [fade, List.getElem?_mapIdx, List.getElem?_take] at after
  split_ifs at after with within
  · rw [before, Option.map_some] at after
    exact ⟨within, congrArg Sample.value (Option.some.inj after).symm⟩
  · cases after

/-- **A fade is as long as it was asked for exactly when** its computed length is long enough,
because the product fits in 32 bits or because the ring is short. -/
theorem fadeLaw_iff (fadeDurationMs : UInt32) (adm : CustomAudioDeviceModule)
    (recording : adm.recording = true) :
    FadeLaw fadeDurationMs adm (adm.flushAudioBuffer fadeDurationMs) ↔
      CountFits fadeDurationMs adm := by
  have same : CountFits fadeDurationMs adm ↔
      min (fadeSamples fadeDurationMs) adm.ringSamples.length = adm.fadeLength fadeDurationMs := by
    unfold CountFits fadeSamples fadeLength
    omega
  rw [flushAudioBuffer_of_recording recording, same]
  set n := min (fadeSamples fadeDurationMs) adm.ringSamples.length
  have size : (fade n (adm.ringSamples.take n)).length = n := by
    rw [length_fade, List.length_take]
    omega
  refine ⟨fun law => size.symm.trans law.length, fun fits => ⟨rfl, size.trans fits, ?_, ?_⟩⟩
  · intro i old hold new hnew
    obtain ⟨within, value⟩ := getElem?_fade hold hnew
    have scaled : (old.value * (1 - i / n) : ℚ) = (old.value * (n - i) : ℤ) / n := by
      have : (n : ℚ) ≠ 0 := by exact_mod_cast (Nat.zero_le i).trans_lt within |>.ne'
      push_cast
      field_simp
    rw [value, ← fits, scaled, towardZero_div]
  · intro i old hold new hnew
    obtain ⟨within, value⟩ := getElem?_fade hold hnew
    rw [value]
    exact abs_tdiv_mul_le (by omega) (by omega)

/-- A device that records, with samples in its ring. -/
def ringing (samples : List ℤ) : CustomAudioDeviceModule :=
  { create.init.initRecording.startRecording.1 with
    ringSamples := samples.map fun value => ⟨value, none⟩ }

/-- A fade of 60 ms, on a ring that is shorter. -/
theorem fadeLaw_iff_short :
    FadeLaw 60 (ringing [1000, -1000, 7]) ((ringing [1000, -1000, 7]).flushAudioBuffer 60) :=
  (fadeLaw_iff 60 (ringing [1000, -1000, 7]) rfl).mpr (by decide)

/-- A fade of a minute and a half keeps half a millisecond. -/
theorem fade_cut_short :
    let adm := ringing (List.replicate 480 1000)
    adm.recording = true ∧ (adm.flushAudioBuffer 89479).ringSamples.length = 24 ∧
      ¬ FadeLaw 89479 adm (adm.flushAudioBuffer 89479) := by
  intro adm
  have kept : (adm.flushAudioBuffer 89479).ringSamples.length = 24 := by decide +kernel
  refine ⟨rfl, kept, fun law => ?_⟩
  have wanted : adm.fadeLength 89479 = 480 := by decide +kernel
  have := law.length
  omega

end CustomAudioDeviceModule

end Saasy.SpeakingEngine
