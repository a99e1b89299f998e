import Mathlib.Analysis.SpecialFunctions.Log.Base
import SaasyMediaEngine.Fourier.Transform
import SaasyMediaEngine.Listening.Fft

/-!
# The transform with exact tables

With tables that hold the sines and cosines of a full turn, the values of `FFT` and of `DFT`
are those of the discrete Fourier transform.

`Fourier.Transform` has the two identities behind this: a transform of even length is made of those
of its even and its odd half, and a root of unity of a length is a power of the root of any multiple
of it.  Here they meet the tables: an entry is a power of the root of the size of the table
(`Exact.root_pow`), an odd half is multiplied with the entry that belongs to its own length, and the
index of `DFT`, taken modulo the size, names the same root.
-/

namespace Saasy.ListeningEngine.LogMelSpectrogram

open Memory Finset Fourier

/-- The tables hold the cosine and the sine of `i` steps of a full turn. -/
def SinCosTables.Exact (tables : SinCosTables ℝ) : Prop :=
  ∀ i < tables.kSinCosTableSize,
    tables.cosVals[i]? = some (Real.cos (theta Real.pi i tables.kSinCosTableSize)) ∧
      tables.sinVals[i]? = some (Real.sin (theta Real.pi i tables.kSinCosTableSize))

/-- `<cmath>` without rounding; the logarithm is left open. -/
noncomputable def exactCmath (log10 : ℝ → ℝ) : Cmath ℝ where
  sinf := Real.sin
  cosf := Real.cos
  log10 := log10
  pi := Real.pi

theorem exact_fillSinCosTable (log10 : ℝ → ℝ) {size : ℕ} (positive : 0 < size) :
    (fillSinCosTable (exactCmath log10) size positive).Exact := by
  intro i inside
  have entry : (List.range size)[i]? = some i := List.getElem?_range inside
  constructor
  · exact List.getElem?_map.trans (congrArg _ entry)
  · exact List.getElem?_map.trans (congrArg _ entry)

/-- A real and an imaginary part. -/
def complex (p : ℝ × ℝ) : ℂ := ⟨p.1, p.2⟩

variable {tables : SinCosTables ℝ}

/-- An entry of the tables is a power of the root. -/
theorem SinCosTables.Exact.root_pow (exact : tables.Exact) {i : ℕ}
    (inside : i < tables.kSinCosTableSize) :
    root tables.kSinCosTableSize ^ i = complex (tables.cos i, -tables.sin i) := by
  have cos := Option.some.inj ((tables.getElem?_cosVals inside).symm.trans (exact i inside).1)
  have sin := Option.some.inj ((tables.getElem?_sinVals inside).symm.trans (exact i inside).2)
  rw [theta] at cos sin
  rw [root_pow_eq_cos_sub_sin, ← cos, ← sin]
  apply Complex.ext <;> simp [complex]

/-- The root of a length that divides the size of the tables. -/
theorem root_table_pow {N : ℕ} (divides : N ∣ tables.kSinCosTableSize) :
    root tables.kSinCosTableSize ^ (tables.kSinCosTableSize / N) = root N := by
  obtain ⟨c, size⟩ := divides
  have positive := tables.positive
  rw [size] at positive ⊢
  rw [Nat.mul_div_cancel_left c (Nat.pos_of_mul_pos_right positive)]
  exact root_mul_pow N (Nat.pos_of_mul_pos_left positive)

/-- The entry that `FFT` multiplies an odd half with. -/
theorem SinCosTables.Exact.root_pow_of_lt (exact : tables.Exact) {N k : ℕ}
    (divides : N ∣ tables.kSinCosTableSize) (less : k < N) :
    root N ^ k = complex (tables.cos (k * (tables.kSinCosTableSize / N)),
      -tables.sin (k * (tables.kSinCosTableSize / N))) := by
  rw [← exact.root_pow (tables.mul_div_lt less), mul_comm, pow_mul, root_table_pow divides]

/-- The entry that `DFT` takes for any number of steps of its own turn. -/
theorem SinCosTables.Exact.root_pow_mod (exact : tables.Exact) {N : ℕ}
    (divides : N ∣ tables.kSinCosTableSize) (j : ℕ) :
    root N ^ j =
      complex (tables.cos (j * (tables.kSinCosTableSize / N) % tables.kSinCosTableSize),
        -tables.sin (j * (tables.kSinCosTableSize / N) % tables.kSinCosTableSize)) := by
  rw [← exact.root_pow (Nat.mod_lt _ tables.positive),
    ← pow_eq_pow_mod _ (root_pow_self tables.positive), mul_comm, pow_mul,
    root_table_pow divides]

/-- **`DFT`** computes the transform: each entry it looks up is the power of the root that the
formula asks for. -/
theorem complex_dftValue (exact : tables.Exact) {N : ℕ}
    (divides : N ∣ tables.kSinCosTableSize) (x : ℕ → ℝ) (k : ℕ) :
    complex (dftValue tables N x k) = transform (root N) N (fun n => (x n : ℂ)) k := by
  simp only [transform, exact.root_pow_mod divides, dftValue]
  apply Complex.ext <;> simp [complex]

/-- The combining loop adds and subtracts the odd half, turned. -/
theorem complex_butterfly (re im : ℝ) (even odd : ℝ × ℝ) :
    complex (butterfly re im even odd).1 = complex even + complex (re, im) * complex odd ∧
      complex (butterfly re im even odd).2 = complex even - complex (re, im) * complex odd := by
  constructor <;> apply Complex.ext <;> simp [complex, butterfly] <;> ring

/-- **`FFT`** computes the transform, by the branches that it takes: a length of one, an odd
length, and two halves combined. -/
theorem complex_fftValue (exact : tables.Exact) {N : ℕ} (positive : 0 < N)
    (divides : N ∣ tables.kSinCosTableSize) (x : ℕ → ℝ) {k : ℕ} (less : k < N) :
    complex (fftValue tables N x k) = transform (root N) N (fun n => (x n : ℂ)) k := by
  induction N using Nat.strongRecOn generalizing x k with
  | ind N ih =>
      obtain rfl | long : N = 1 ∨ 1 < N := by omega
      · rw [fftValue_one, transform_one]
        rfl
      by_cases odd : N % 2 = 1
      · rw [fftValue_of_odd tables long odd]
        exact complex_dftValue exact divides x k
      obtain ⟨h, rfl⟩ : ∃ h, N = 2 * h := ⟨N / 2, by omega⟩
      have inner : h ∣ tables.kSinCosTableSize := (Nat.dvd_mul_left h 2).trans divides
      have square : root (2 * h) ^ 2 = root h := by
        rw [mul_comm]
        exact root_mul_pow h Nat.two_pos
      have halves (x : ℕ → ℝ) {j : ℕ} (below : j < h) :=
        ih h (by omega) (by omega) inner x below
      obtain below | ⟨j, below, rfl⟩ : k < h ∨ ∃ j < h, k = j + h :=
        (Nat.lt_or_ge k h).imp id fun above => ⟨k - h, by omega, by omega⟩
      · have lower : fftValue tables (2 * h) x k = (butterfly _ _ _ _).1 :=
          congrArg Prod.fst (fftValue_two_mul tables below x)
        rw [lower, (complex_butterfly _ _ _ _).1,
          halves _ below, halves _ below, ← exact.root_pow_of_lt divides less, transform_two_mul,
          square]
      · have upper : fftValue tables (2 * h) x (j + h) = (butterfly _ _ _ _).2 :=
          congrArg Prod.snd (fftValue_two_mul tables below x)
        rw [upper, (complex_butterfly _ _ _ _).2,
          halves _ below, halves _ below,
          ← exact.root_pow_of_lt divides (show j < 2 * h by omega),
          transform_two_mul_add (root_two_mul_pow (by omega)), square]

/-- **The fast transform is the discrete Fourier transform**, and so is the slow one; it keeps
its input, and touches nothing outside its buffers and its tables. -/
theorem fft_transforms {tables : SinCosTables ℝ} (exact : tables.Exact) {N : ℕ}
    (positive : 0 < N) (divides : N ∣ tables.kSinCosTableSize) {s : FftBuffers ℝ}
    (roomIn : 2 * N ≤ s.input.length) (roomOut : 8 * N ≤ s.output.length) :
    ∃ fast slow, fft tables N 0 0 s = some fast ∧ dft tables N 0 0 s = some slow ∧
      (∀ k < N,
        let sum : ℂ := ∑ n ∈ range N,
          (s.input.getD n 0 : ℂ) * Complex.exp (-(2 * Real.pi * Complex.I * k * n / N))
        fast.output[2 * k]? = some sum.re ∧ fast.output[2 * k + 1]? = some sum.im ∧
          slow.output[2 * k]? = some sum.re ∧ slow.output[2 * k + 1]? = some sum.im) ∧
      (∀ n < N, fast.input[n]? = s.input[n]?) ∧
      fast.input.length = s.input.length ∧ fast.output.length = s.output.length := by
  have holds : Holds s.input 0 N fun n => s.input.getD n 0 := .getD 0 (by omega)
  obtain ⟨fast, fastRun, scratch, frame, fastPairs⟩ :=
    transforms tables positive holds (by omega)
      (show 0 + 8 * N ≤ s.output.length by omega)
  obtain ⟨slow, slowRun, -, -, slowPairs⟩ := runs_dft (b := 0) tables positive holds (by omega)
  refine ⟨fast, slow, fastRun, slowRun, ?_, ?_, scratch.length, frame.length⟩
  · intro k less sum
    have spectrum := transform_root N (fun n => (s.input.getD n 0 : ℂ)) k
    have fastValue := complex_fftValue exact positive divides (fun n => s.input.getD n 0) less
    have slowValue := complex_dftValue exact divides (fun n => s.input.getD n 0) k
    rw [spectrum] at fastValue slowValue
    change _ = sum at fastValue slowValue
    have fastPair := fastPairs k less
    have slowPair := slowPairs k less
    simp only [Nat.zero_add] at fastPair slowPair
    rw [fastPair.1, fastPair.2, slowPair.1, slowPair.2, ← fastValue]
    refine ⟨rfl, rfl, ?_⟩
    rw [fastValue, ← slowValue]
    exact ⟨rfl, rfl⟩
  · intro n less
    exact scratch.outside n (Or.inl (by omega))

/-- The length, the tables and the buffers of a frame: constant samples are all in bin 0. -/
theorem fft_transforms_frame :
    ∃ fast, fft (fillSinCosTable (exactCmath (Real.logb 10)) 400 (by decide)) 400 0 0
        ⟨List.replicate 800 1, List.replicate 3200 0⟩ = some fast ∧
      fast.output[0]? = some 400 ∧ fast.output[1]? = some 0 ∧
      fast.input.length = 800 ∧ fast.output.length = 3200 := by
  obtain ⟨fast, slow, fastRun, -, bins, -, input, output⟩ :=
    fft_transforms (exact_fillSinCosTable (Real.logb 10) (show 0 < 400 by decide)) (N := 400)
      (by decide) (Nat.dvd_refl 400)
      (s := ⟨List.replicate 800 1, List.replicate 3200 0⟩)
      (by rw [List.length_replicate]) (by rw [List.length_replicate])
  rw [List.length_replicate] at input output
  have ones (n : ℕ) (inside : n ∈ range 400) : (List.replicate 800 (1 : ℝ)).getD n 0 = 1 := by
    have less := mem_range.mp inside
    rw [List.getD_eq_getElem?_getD, List.getElem?_replicate, if_pos (by omega), Option.getD_some]
  obtain ⟨re, im, -⟩ := bins 0 (by decide)
  have sum : ∑ n ∈ range 400, (((List.replicate 800 (1 : ℝ)).getD n 0 : ℝ) : ℂ) *
      Complex.exp (-(2 * Real.pi * Complex.I * (0 : ℕ) * n / (400 : ℕ))) = 400 := by
    rw [sum_congr rfl fun n inside => by rw [ones n inside]]
    simp
  rw [sum] at re im
  exact ⟨fast, fastRun, re, im, input, output⟩

end Saasy.ListeningEngine.LogMelSpectrogram
