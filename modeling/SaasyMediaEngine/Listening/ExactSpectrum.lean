import SaasyMediaEngine.Listening.ExactFft
import SaasyMediaEngine.Listening.MelSpectrum

/-!
# The mel spectrogram in exact arithmetic

Over the reals, a cell of the spectrum is the logarithm of a weighted sum of the squared
magnitudes of the discrete Fourier transform of a frame under the Hann window.  This includes
the columns behind the input, which are filled with silence: there the transform is zero.

`exists_compute` already has `Compute` as a function of the samples, written with the tables and the
window as they come out of `Init`.  What is left is to put in what these are: the window is the
cosine formula, the transform is `fft_transforms`, and the power of a frequency is the squared norm
of a complex number.

The source stops to compute where the frames are past the input, one column at a time, and writes
the logarithm of the smallest power instead.  `spectrum_eq` shows that this is no special case, for
behind the input the padded samples are zero and so is their transform.
-/

namespace Saasy.ListeningEngine.LogMelSpectrogram

open Memory Finset Fourier

variable {log10 : ℝ → ℝ} {s : Statics ℝ} {samples : List ℝ}

/-- A frame of the padded samples under the Hann window. -/
noncomputable def windowed (s : Statics ℝ) (samples : List ℝ) (i n : ℕ) : ℝ :=
  s.hannWindow.getD n 0 * (paddedSamples samples).getD (160 * i + n) 0

/-- The discrete Fourier transform of a frame. -/
noncomputable def frameDft (s : Statics ℝ) (samples : List ℝ) (i k : ℕ) : ℂ :=
  transform (root 400) 400 (fun n => (windowed s samples i n : ℂ)) k

theorem getD_hannWindow (ready : Ready (exactCmath log10) s) {n : ℕ} (inside : n < 400) :
    s.hannWindow.getD n 0 = 0.5 * (1 - Real.cos (2 * Real.pi * n / 400)) := by
  have entry : (List.range kFFTSize)[n]? = some n := List.getElem?_range inside
  rw [ready.hannWindow, fillHannWindow, List.getD_eq_getElem?_getD, List.getElem?_map, entry]
  show 0.5 * (1 - Real.cos (2 * Real.pi * n / ((400 : ℕ) : ℝ))) = _
  rw [Nat.cast_ofNat]

theorem frameDft_eq (ready : Ready (exactCmath log10) s) (i k : ℕ) :
    frameDft s samples i k = ∑ n ∈ range 400,
      ((0.5 * (1 - Real.cos (2 * Real.pi * n / 400)) *
        (paddedSamples samples).getD (160 * i + n) 0 : ℝ) : ℂ) *
          Complex.exp (-(2 * Real.pi * Complex.I * k * n / 400)) := by
  rw [frameDft, transform_root]
  refine sum_congr rfl fun n inside => ?_
  rw [windowed, getD_hannWindow ready (mem_range.mp inside), Nat.cast_ofNat]

/-- Behind the input a frame is silent. -/
theorem windowed_eq_zero (s : Statics ℝ) (enough : 201 ≤ samples.length) {i n : ℕ}
    (behind : samples.length + 200 ≤ 160 * i + n) : windowed s samples i n = 0 := by
  have zero : (paddedSamples samples).getD (160 * i + n) 0 = 0 := by
    rw [List.getD_eq_getElem?_getD]
    obtain inside | outside := Nat.lt_or_ge (160 * i + n) (paddedSamples samples).length
    · rw [getElem?_paddedSamples enough behind inside]
      rfl
    · rw [List.getElem?_eq_none outside]
      rfl
  rw [windowed, zero, mul_zero]

/-- The end of the input makes no difference to a frame. -/
theorem frameValue_eq (s : Statics ℝ) (enough : 201 ≤ samples.length) (i n : ℕ) :
    frameValue s.hannWindow (paddedSamples samples) (i * kHopLength)
      (samples.length + 200 - i * kHopLength) n = windowed s samples i n := by
  have offset : i * kHopLength = 160 * i := mul_comm _ _
  rw [frameValue, offset]
  split_ifs with there
  · rfl
  · exact (windowed_eq_zero s enough (by omega)).symm

/-- The power spectrum of a frame. -/
theorem powerValue_eq (ready : Ready (exactCmath log10) s) {frame : ℕ → ℝ} {i k : ℕ}
    (same : ∀ n, frame n = windowed s samples i n) (below : k < 400) :
    powerValue s.tables kFFTSize frame k = ‖frameDft s samples i k‖ ^ 2 := by
  have exact : s.tables.Exact := by
    rw [ready.tables]
    exact exact_fillSinCosTable log10 _
  have divides : 400 ∣ s.tables.kSinCosTableSize := by
    rw [ready.tables]
    exact Nat.dvd_refl 400
  have transformed : complex (fftValue s.tables 400 frame k) = frameDft s samples i k := by
    rw [complex_fftValue exact (by decide) divides frame below, frameDft, funext same]
  rw [← transformed, Complex.sq_norm, Complex.normSq_apply]
  rfl

/-- **A cell of the spectrum**, computed or silent, is the same formula: the logarithm of what a
bin of the filter bank gathers, bounded from below. -/
theorem spectrum_eq (ready : Ready (exactCmath log10) s) (enough : 201 ≤ samples.length)
    (j i : ℕ) :
    spectrum (exactCmath log10) s samples j i =
      log10 (max (∑ k ∈ range 201, s.filters.data.getD (j * 201 + k) 0 *
        ‖frameDft s samples i k‖ ^ 2) 1e-10) := by
  rw [spectrum, cellValue]
  split_ifs with starts
  · rw [melValue, binValue, ready.nFft]
    refine congrArg (fun sum => log10 (max sum 1e-10)) (sum_congr rfl fun k inside => ?_)
    have below : k < 400 := (mem_range.mp inside).trans (by decide)
    rw [powerValue_eq ready (frameValue_eq s enough i) below, mul_comm]
  · have offset : i * kHopLength = 160 * i := mul_comm _ _
    have silent (k : ℕ) : frameDft s samples i k = 0 := transform_eq_zero _ (fun n _ => by
      rw [windowed_eq_zero s enough (by omega), Complex.ofReal_zero]) k
    have sum : ∑ k ∈ range 201, s.filters.data.getD (j * 201 + k) 0 *
        ‖frameDft s samples i k‖ ^ 2 = 0 := sum_eq_zero fun k _ => by
      rw [silent, norm_zero]
      norm_num
    rw [sum, max_eq_right (by norm_num)]
    rfl

/-- **`Compute` is the mel spectrogram**, for any number of workers: each cell is written by
exactly one of them, holds its value before it is normalized, and the output is the same for
every number of workers and every schedule. -/
theorem compute_eq_spectrogram (log10 : ℝ → ℝ) {s : Statics ℝ}
    (reached : (initMachine (exactCmath log10)).Reachable s) (initialized : s.initialized = true)
    {samples : List ℝ} (enough : 201 ≤ samples.length) (small : samples.length < 2 ^ 30)
    {nThreads : ℕ} (positive : 1 ≤ nThreads) (few : nThreads < 2 ^ 30) (schedule : List ℕ)
    (output : Output ℝ) :
    let m := exactCmath log10
    let nLen := max samples.length 128000 / 160
    ∃ threads raw final,
      padSamples samples samples.length = some (paddedSamples samples) ∧
      workers m s (paddedSamples samples) samples.length nThreads
        (setupOutput output samples.length (paddedSamples samples).length) = some threads ∧
      (∀ j < 80, ∀ i < nLen,
        ∃! w, w < nThreads ∧ ∃ value, (j * nLen + i, value) ∈ threads.getD w []) ∧
      spectrogram m s schedule samples samples.length nThreads output = some raw ∧
      raw.nLen = nLen ∧ (samples.length ≤ 128000 → nLen = 800) ∧ raw.data.length = 80 * nLen ∧
      (∀ j < 80, ∀ i < nLen, raw.data[j * nLen + i]? =
        some (log10 (max (∑ k ∈ range 201, s.filters.data.getD (j * 201 + k) 0 *
          ‖∑ n ∈ range 400,
            ((0.5 * (1 - Real.cos (2 * Real.pi * n / 400)) *
              (paddedSamples samples).getD (160 * i + n) 0 : ℝ) : ℂ) *
                Complex.exp (-(2 * Real.pi * Complex.I * k * n / 400))‖ ^ 2) 1e-10))) ∧
      normalize raw.data = some final.data ∧ final.nLen = nLen ∧
      ∀ nThreads' : ℕ, 1 ≤ nThreads' → nThreads' < 2 ^ 30 →
        ∀ (schedule' : List ℕ) (output' : Output ℝ),
          compute m s schedule' (some samples) samples.length nThreads' output' =
            some (true, final) := by
  intro m nLen
  have ready := ready_of_reachable m reached initialized
  obtain ⟨threads, writers, length, each⟩ := runs_workers ready enough small few output
  obtain ⟨raw, computed, rfl⟩ := runs_spectrogram ready enough small positive few schedule output
  obtain ⟨data, normalized, returns⟩ := exists_compute ready initialized enough small
  refine ⟨threads, _, { preparedOutput samples output with data }, padSamples_eq enough, writers,
    ?_, computed, nLen_preparedOutput enough output, ?_, ?_, ?_, normalized,
    nLen_preparedOutput enough output, ?_⟩
  · intro j bin i inside
    have writes (w : ℕ) (known : w < nThreads) :
        Writes m s samples output nThreads w (threads.getD w []) := by
      obtain ⟨thread, here, writes⟩ := each w known
      rwa [List.getD_eq_getElem?_getD, here]
    have own := Nat.mod_lt i positive
    refine ⟨i % nThreads, ⟨own, _, ((writes _ own).cell enough bin inside _).mpr ⟨rfl, rfl⟩⟩, ?_⟩
    rintro w ⟨known, value, written⟩
    exact (((writes w known).cell enough bin inside value).mp written).1.symm
  · intro short
    rw [show nLen = max samples.length 128000 / 160 from rfl, Nat.max_eq_right short]
  · exact (List.length_map _).trans List.length_range
  · intro j bin i inside
    refine (getElem?_cells bin inside).trans ?_
    rw [spectrum_eq ready enough]
    simp only [frameDft_eq ready]
  · intro nThreads' positive' few' schedule' output'
    exact returns positive' few' schedule' output'

/-- The static members after `Init` with a file of zeros. -/
noncomputable def zeroFilters : Statics ℝ :=
  (init (exactCmath (Real.logb 10)) (some (List.replicate 16080 0)) uninitialized).2

theorem reachable_zeroFilters :
    (initMachine (exactCmath (Real.logb 10))).Reachable zeroFilters ∧
      zeroFilters.initialized = true :=
  ⟨⟨[some (List.replicate 16080 0)], rfl⟩,
    initialized_init _ (by rw [List.length_replicate]; decide)⟩

theorem getD_zeroFilters (n : ℕ) : zeroFilters.filters.data.getD n 0 = 0 := by
  have zero : ∀ value ∈ zeroFilters.filters.data, value = 0 := by
    intro value mem
    obtain read | rest := List.mem_append.mp mem
    · exact List.eq_of_mem_replicate (List.mem_of_mem_take read)
    · exact List.eq_of_mem_replicate (List.mem_of_mem_drop rest)
  rw [List.getD_eq_getElem?_getD]
  cases found : zeroFilters.filters.data[n]? with
  | none => rfl
  | some value => exact zero value (List.mem_of_getElem? found)

/-- Silence, by three workers: every cell is at the floor of `1e-10` before it is normalized. -/
theorem compute_eq_spectrogram_silence :
    let m := exactCmath (Real.logb 10)
    let output : Output ℝ := { nLen := 0, nLenOrg := 0, nMel := 0, data := [] }
    ∃ raw final : Output ℝ,
      spectrogram m zeroFilters [] (List.replicate 201 0) (List.replicate 201 (0 : ℝ)).length
        (3 : ℕ) output = some raw ∧
      (∀ j < 80, ∀ i < (800 : ℕ), raw.data[j * 800 + i]? = some (-10)) ∧
      normalize raw.data = some final.data ∧ final.nLen = 800 ∧
      compute m zeroFilters [] (some (List.replicate 201 0))
        (List.replicate 201 (0 : ℝ)).length (3 : ℕ) output = some (true, final) := by
  intro m output
  obtain ⟨reached, initialized⟩ := reachable_zeroFilters
  have length : (List.replicate 201 (0 : ℝ)).length = 201 := List.length_replicate
  have floor : Real.logb 10 1e-10 = -10 := by
    have tenth : (1e-10 : ℝ) = 10 ^ (-10 : ℝ) := by
      rw [Real.rpow_neg (by norm_num)]
      norm_num
    rw [tenth, Real.logb_rpow (by norm_num) (by norm_num)]
  obtain ⟨threads, raw, final, -, -, -, computed, -, short, -, cells, normalized, nLen, returns⟩ :=
    compute_eq_spectrogram (Real.logb 10) reached initialized
      (show 201 ≤ (List.replicate 201 (0 : ℝ)).length by rw [length]) (by rw [length]; decide)
      (show 1 ≤ 3 by decide) (by decide) [] output
  have frames := short (by rw [length]; decide)
  refine ⟨raw, final, computed, fun j bin i inside => ?_, normalized, nLen.trans frames,
    returns 3 (by decide) (by decide) _ _⟩
  have cell := cells j bin i (by rw [frames]; exact inside)
  rw [frames] at cell
  rw [cell, sum_eq_zero fun k _ => by rw [getD_zeroFilters, zero_mul],
    max_eq_right (by norm_num), floor]

end Saasy.ListeningEngine.LogMelSpectrogram
