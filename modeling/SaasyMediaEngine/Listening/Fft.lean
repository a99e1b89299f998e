import Mathlib.Algebra.BigOperators.Group.Finset.Basic
import Mathlib.Algebra.Field.Defs
import SaasyMediaEngine.Memory.Buffer

/-!
# The transform of the mel spectrogram

`FFT` and `DFT` of `log_mel_spectrogram.cpp`.  Both get the middle of a buffer as a pointer;
here the buffer stays whole and the pointer is an index, `a` into the input and `b` into the
output, so that the two halves of an `FFT` work on overlapping cells as they do in the source.

`fftValue` is what the code computes, as a function of the input alone; `transforms` says that
the code computes it, inside the buffers and without disturbing its input.  Nothing here knows of
roots of unity yet.

The two recursive calls of `FFT` share the buffers of their caller.  The even half goes into the
cells above the input, is transformed into the cells above the output, and then the odd half takes
the same input cells; so `transforms` has to say of a call not only what it computes but which cells
it may touch, and that all others are as before.  A table of any size will do whose size the length
divides: the step through it is computed by a division that is exact only then.

A length that is odd and not 1 goes to `DFT`, as in the source.
-/

namespace Saasy.ListeningEngine.LogMelSpectrogram

open Memory Finset

universe u

variable {α : Type u}

/-- The functions and the constant the spectrogram takes from `<cmath>`, of which nothing is
assumed here. -/
structure Cmath (α : Type u) where
  sinf : α → α
  cosf : α → α
  log10 : α → α
  pi : α

/-- `sin_vals_` and `cos_vals_`, of `kSinCosTableSize` cells each.  The source has one size; the
transform works with any that is not zero. -/
structure SinCosTables (α : Type u) where
  kSinCosTableSize : ℕ
  sinVals : List α
  cosVals : List α
  positive : 0 < kSinCosTableSize
  length_sinVals : sinVals.length = kSinCosTableSize
  length_cosVals : cosVals.length = kSinCosTableSize

namespace SinCosTables

variable (tables : SinCosTables α) {i : ℕ}

/-- The entry of the table of sines. -/
def sin [Zero α] (i : ℕ) : α := tables.sinVals.getD i 0

/-- The entry of the table of cosines. -/
def cos [Zero α] (i : ℕ) : α := tables.cosVals.getD i 0

theorem getElem?_sinVals [Zero α] (inside : i < tables.kSinCosTableSize) :
    tables.sinVals[i]? = some (tables.sin i) :=
  getElem?_eq_some_getD (by rwa [tables.length_sinVals]) 0

theorem getElem?_cosVals [Zero α] (inside : i < tables.kSinCosTableSize) :
    tables.cosVals[i]? = some (tables.cos i) :=
  getElem?_eq_some_getD (by rwa [tables.length_cosVals]) 0

/-- The indices of an `FFT` are entries. -/
theorem mul_div_lt {k N : ℕ} (less : k < N) :
    k * (tables.kSinCosTableSize / N) < tables.kSinCosTableSize := by
  obtain zero | some := Nat.eq_zero_or_pos (tables.kSinCosTableSize / N)
  · rw [zero, Nat.mul_zero]
    exact tables.positive
  · calc k * (tables.kSinCosTableSize / N) < N * (tables.kSinCosTableSize / N) :=
          Nat.mul_lt_mul_of_pos_right less some
      _ ≤ tables.kSinCosTableSize := Nat.mul_div_le _ _

end SinCosTables

/-- `theta`: `i` of `size` steps of a full turn. -/
def theta [Field α] (pi : α) (i size : ℕ) : α := 2 * pi * i / size

/-- `FillSinCosTable`, for a table of any size. -/
def fillSinCosTable [Field α] (m : Cmath α) (size : ℕ) (positive : 0 < size) :
    SinCosTables α where
  kSinCosTableSize := size
  sinVals := (List.range size).map fun i => m.sinf (theta m.pi i size)
  cosVals := (List.range size).map fun i => m.cosf (theta m.pi i size)
  positive := positive
  length_sinVals := by rw [List.length_map, List.length_range]
  length_cosVals := by rw [List.length_map, List.length_range]

/-- The buffers a transform reads from and writes to.  It keeps its even and odd halves in the
first, behind the input, and their transforms in the second, behind the output. -/
structure FftBuffers (α : Type u) where
  input : List α
  output : List α

section Code

variable [CommRing α] (tables : SinCosTables α)

/-- The inner loop of `DFT`, which sums up `re` and `im`. -/
def dftSum (N a k : ℕ) (input : List α) : Option (α × α) :=
  let sinCosStep := tables.kSinCosTableSize / N
  loop N (fun n (p : α × α) => do
    let idx := k * n * sinCosStep % tables.kSinCosTableSize
    let re := p.1 + (← input[a + n]?) * (← tables.cosVals[idx]?)
    let im := p.2 - (← input[a + n]?) * (← tables.sinVals[idx]?)
    return (re, im)) (0, 0)

/-- `DFT(in + a, N, out + b)`.  A length of zero divides by zero. -/
def dft (N a b : ℕ) (s : FftBuffers α) : Option (FftBuffers α) :=
  if N = 0 then none
  else do
    let output ← loop N (fun k output => do
      let p ← dftSum tables N a k s.input
      let output ← write output (b + 2 * k) p.1
      write output (b + (2 * k + 1)) p.2) s.output
    return { s with output }

/-- "Combine results": the last loop of `FFT`, for a length of `2 * halfN`. -/
def combine (N halfN b evenFft oddFft : ℕ) (output : List α) : Option (List α) :=
  let sinCosStep := tables.kSinCosTableSize / N
  loop halfN (fun k output => do
    let idx := k * sinCosStep
    let re ← tables.cosVals[idx]?
    let im := -(← tables.sinVals[idx]?)
    let reOdd ← output[oddFft + 2 * k]?
    let imOdd ← output[oddFft + (2 * k + 1)]?
    let reEven ← output[evenFft + 2 * k]?
    let output ← write output (b + 2 * k) (reEven + re * reOdd - im * imOdd)
    let imEven ← output[evenFft + (2 * k + 1)]?
    let output ← write output (b + (2 * k + 1)) (imEven + re * imOdd + im * reOdd)
    let reEven ← output[evenFft + 2 * k]?
    let output ← write output (b + 2 * (k + halfN)) (reEven - re * reOdd + im * imOdd)
    let imEven ← output[evenFft + (2 * k + 1)]?
    write output (b + (2 * (k + halfN) + 1)) (imEven - re * imOdd - im * reOdd)) output

/-- `FFT(in + a, N, out + b)`.  It never returns for a length of zero. -/
def fft (N a b : ℕ) (s : FftBuffers α) : Option (FftBuffers α) :=
  if N = 0 then none
  else if N = 1 then do
    let output ← write s.output b (← s.input[a]?)
    let output ← write output (b + 1) 0
    return { s with output }
  else
    let halfN := N / 2
    if N - halfN * 2 = 1 then dft tables N a b s
    else do
      let even := a + N
      let input ← fill even halfN (fun i input => input[a + 2 * i]?) s.input
      let evenFft := b + 2 * N
      let s ← fft halfN even evenFft { s with input }
      let odd := even
      let input ← fill odd halfN (fun i input => input[a + (2 * i + 1)]?) s.input
      let oddFft := evenFft + N
      let s ← fft halfN odd oddFft { s with input }
      let output ← combine tables N halfN b evenFft oddFft s.output
      return { s with output }
termination_by N
decreasing_by all_goals omega

end Code

/-! ### What it computes

The values are given by the same recursion as the program, without buffers: what is read from a
buffer becomes an argument.  That the program leaves exactly these values, and where, is what the
rules of `Memory.Buffer` prove; what the values have to do with a Fourier transform is left to
`Listening.ExactFft`. -/

section Values

variable [CommRing α] (tables : SinCosTables α)

/-- What `DFT` leaves at a frequency. -/
def dftValue (N : ℕ) (x : ℕ → α) (k : ℕ) : α × α :=
  let idx := fun n => k * n * (tables.kSinCosTableSize / N) % tables.kSinCosTableSize
  (∑ n ∈ range N, x n * tables.cos (idx n), -∑ n ∈ range N, x n * tables.sin (idx n))

/-- The two pairs that `combine` makes of an even and an odd one. -/
def butterfly (re im : α) (even odd : α × α) : (α × α) × (α × α) :=
  ((even.1 + re * odd.1 - im * odd.2, even.2 + re * odd.2 + im * odd.1),
    (even.1 - re * odd.1 + im * odd.2, even.2 - re * odd.2 - im * odd.1))

/-- What `FFT` leaves at a frequency. -/
def fftValue (N : ℕ) (x : ℕ → α) (k : ℕ) : α × α :=
  if N ≤ 1 then (x 0, 0)
  else if N % 2 = 1 then dftValue tables N x k
  else
    let idx := k % (N / 2) * (tables.kSinCosTableSize / N)
    let pairs := butterfly (tables.cos idx) (-tables.sin idx)
      (fftValue (N / 2) (fun n => x (2 * n)) (k % (N / 2)))
      (fftValue (N / 2) (fun n => x (2 * n + 1)) (k % (N / 2)))
    if k < N / 2 then pairs.1 else pairs.2
termination_by N
decreasing_by all_goals omega

theorem runs_dftSum {N a k : ℕ} {input : List α} {x : ℕ → α} (holds : Holds input a N x) :
    Runs (dftSum tables N a k input) (· = dftValue tables N x k) := by
  let idx n := k * n * (tables.kSinCosTableSize / N) % tables.kSinCosTableSize
  have entry (n : ℕ) : idx n < tables.kSinCosTableSize := Nat.mod_lt _ tables.positive
  refine runs_loop (fun m p => p = (∑ n ∈ range m, x n * tables.cos (idx n),
    -∑ n ∈ range m, x n * tables.sin (idx n))) (by simp) ?_
  rintro n less p rfl
  refine runs_bind_some (holds n less) (runs_bind_some (tables.getElem?_cosVals (entry n)) ?_)
  refine runs_bind_some (holds n less) (runs_bind_some (tables.getElem?_sinVals (entry n)) ?_)
  refine ⟨_, rfl, ?_⟩
  rw [sum_range_succ, sum_range_succ, neg_add, sub_eq_add_neg]

/-- **`DFT`** stays inside the first `2 * N` cells of its output, and leaves there the sums of the
formula, real and imaginary parts in turn. -/
theorem runs_dft {N a b : ℕ} {s : FftBuffers α} {x : ℕ → α} (positive : 0 < N)
    (holds : Holds s.input a N x) (room : b + 2 * N ≤ s.output.length) :
    Runs (dft tables N a b s) fun r =>
      r.input = s.input ∧ Frame b (b + 2 * N) s.output r.output ∧
        HoldsPairs r.output b N (dftValue tables N x) := by
  rw [dft, if_neg (Nat.pos_iff_ne_zero.mp positive)]
  refine runs_bind (runs_loop (fun k output => Frame b (b + 2 * N) s.output output ∧
    HoldsPairs output b k (dftValue tables N x)) ⟨.refl _ _ _, .zero⟩ ?_) ?_
  · rintro k less output ⟨frame, pairs⟩
    refine runs_bind (runs_dftSum tables holds) ?_
    rintro p rfl
    have inside : b + (2 * k + 1) < output.length := by
      rw [frame.length]
      omega
    refine frame.runs_write room (by omega) (by omega) fun frame => ?_
    refine ⟨_, write_of_lt ?_, frame.set (by omega) (by omega) _, pairs.set_next inside⟩
    rwa [List.length_set]
  · rintro output ⟨frame, pairs⟩
    exact ⟨_, rfl, rfl, frame, pairs⟩

/-- **"Combine results"**: from the halves, which lie above the first `2 * N` cells, so that a cell
is never overwritten before it is read. -/
theorem runs_combine {h b evenFft oddFft : ℕ} {output : List α} {even odd : ℕ → α × α}
    (room : b + 4 * h ≤ output.length) (holdsEven : HoldsPairs output evenFft h even)
    (holdsOdd : HoldsPairs output oddFft h odd) (aboveEven : b + 4 * h ≤ evenFft)
    (aboveOdd : b + 4 * h ≤ oddFft) {z : ℕ → α × α}
    (pairs : ∀ k < h, (z k, z (k + h)) =
      butterfly (tables.cos (k * (tables.kSinCosTableSize / (2 * h))))
        (-tables.sin (k * (tables.kSinCosTableSize / (2 * h)))) (even k) (odd k)) :
    Runs (combine tables (2 * h) h b evenFft oddFft output) fun output' =>
      Frame b (b + 4 * h) output output' ∧ HoldsPairs output' b (2 * h) z := by
  refine (runs_loop (fun k output' => Frame b (b + 4 * h) output output' ∧
    HoldsPairs output' b k z ∧ HoldsPairs output' (b + 2 * h) k fun k => z (k + h))
    ⟨.refl _ _ _, .zero, .zero⟩ ?_).mono ?_
  · rintro k less output₀ ⟨frame, lower, upper⟩
    have entry := tables.mul_div_lt (show k < 2 * h by omega)
    have ⟨(low : z k = _), (high : z (k + h) = _)⟩ := Prod.mk.inj (pairs k less)
    have inside : b + 4 * h ≤ output₀.length := by rwa [frame.length]
    have even {new} (frame : Frame b (b + 4 * h) output new) := holdsEven.of_frame frame (by omega)
    have odd := holdsOdd.of_frame frame (by omega)
    refine runs_bind_some (tables.getElem?_cosVals entry) ?_
    refine runs_bind_some (tables.getElem?_sinVals entry) ?_
    refine runs_bind_some (odd k less).1 (runs_bind_some (odd k less).2 ?_)
    refine runs_bind_some (even frame k less).1 ?_
    refine frame.runs_write room (by omega) (by omega) fun frame => ?_
    refine runs_bind_some (even frame k less).2 ?_
    refine frame.runs_write room (by omega) (by omega) fun frame => ?_
    refine runs_bind_some (even frame k less).1 ?_
    refine frame.runs_write room (by omega) (by omega) fun frame => ?_
    refine runs_bind_some (even frame k less).2 ?_
    -- one pair goes below, and leaves the upper ones alone, and one above
    have bottom := Frame.of_set_set output₀ (b + 2 * k) (z k).1 (z k).2
    have lower := lower.set_next (by omega)
    have upper := (upper.of_frame bottom (by omega)).set_next (by
      rw [bottom.length]
      omega)
    have place : b + 2 * h + 2 * k = b + 2 * (k + h) := by omega
    have place' : b + 2 * h + (2 * k + 1) = b + (2 * (k + h) + 1) := by omega
    rw [place, place'] at upper
    have lower := lower.of_frame (.of_set_set _ (b + 2 * (k + h)) (z (k + h)).1 (z (k + h)).2)
      (by omega)
    rw [low, high] at lower upper
    refine ⟨_, write_of_lt ?_, frame.set (by omega) (by omega) _, lower, upper⟩
    rw [frame.length]
    omega
  · rintro output' ⟨frame, lower, upper⟩
    rw [Nat.two_mul h]
    exact ⟨frame, lower.append upper⟩

theorem fftValue_one (x : ℕ → α) (k : ℕ) : fftValue tables 1 x k = (x 0, 0) := by
  rw [fftValue, if_pos (Nat.le_refl 1)]

theorem fftValue_of_odd {N : ℕ} (long : 1 < N) (odd : N % 2 = 1) (x : ℕ → α) (k : ℕ) :
    fftValue tables N x k = dftValue tables N x k := by
  rw [fftValue, if_neg (by omega), if_pos odd]

theorem fftValue_two_mul {h k : ℕ} (less : k < h) (x : ℕ → α) :
    (fftValue tables (2 * h) x k, fftValue tables (2 * h) x (k + h)) =
      butterfly (tables.cos (k * (tables.kSinCosTableSize / (2 * h))))
        (-tables.sin (k * (tables.kSinCosTableSize / (2 * h))))
        (fftValue tables h (fun n => x (2 * n)) k)
        (fftValue tables h (fun n => x (2 * n + 1)) k) := by
  have half : 2 * h / 2 = h := by omega
  have step (k : ℕ) := fftValue.eq_def tables (2 * h) x k
  simp only [half, show ¬2 * h ≤ 1 by omega, show ¬2 * h % 2 = 1 by omega, if_false] at step
  rw [step, step, Nat.add_mod_right, Nat.mod_eq_of_lt less, if_pos less, if_neg (by omega)]

/-- `FFT` of a length keeps its input, stays inside `2 * N` cells of it and `8 * N` of its
output, and leaves its values at the start of those. -/
def Transforms (N : ℕ) : Prop :=
  ∀ ⦃a b : ℕ⦄ ⦃s : FftBuffers α⦄ ⦃x : ℕ → α⦄, Holds s.input a N x →
    a + 2 * N ≤ s.input.length → b + 8 * N ≤ s.output.length →
      Runs (fft tables N a b s) fun r =>
        Frame (a + N) (a + 2 * N) s.input r.input ∧ Frame b (b + 8 * N) s.output r.output ∧
          HoldsPairs r.output b N (fftValue tables N x)

theorem transforms_one : Transforms tables 1 := by
  intro a b s x holds _ roomOut
  rw [fft, if_neg Nat.one_ne_zero, if_pos rfl]
  refine runs_bind_some (holds 0 Nat.one_pos) ?_
  refine (Frame.refl b (b + 8 * 1) s.output).runs_write roomOut (by omega) (by omega)
    fun frame => ?_
  refine frame.runs_write roomOut (by omega) (by omega) fun frame => ?_
  have none : HoldsPairs s.output b 0 (fftValue tables 1 x) := .zero
  have pair := none.set_next (by omega)
  rw [fftValue_one] at pair
  exact ⟨_, rfl, .refl _ _ _, frame, pair⟩

theorem transforms_of_odd {N : ℕ} (long : 1 < N) (odd : N % 2 = 1) : Transforms tables N := by
  intro a b s x holds _ roomOut
  have cut : N - N / 2 * 2 = 1 := by omega
  rw [fft, if_neg (by omega), if_neg (by omega)]
  simp only [cut, if_true]
  refine (runs_dft tables (by omega) holds (by omega)).mono ?_
  rintro r ⟨input, frame, pairs⟩
  rw [input]
  refine ⟨.refl _ _ _, frame.mono (Nat.le_refl b) (by omega), fun k less => ?_⟩
  rw [fftValue_of_odd tables long odd]
  exact pairs k less

/-- Both recursive calls get the cells above the input; the second only overwrites what the
first has finished with. -/
theorem Transforms.two_mul {h : ℕ} (transforms : Transforms tables h) (positive : 0 < h) :
    Transforms tables (2 * h) := by
  intro a b s x holds roomIn roomOut
  have half : 2 * h / 2 = h := by omega
  have even : ¬2 * h - h * 2 = 1 := by omega
  rw [fft, if_neg (by omega), if_neg (by omega)]
  simp only [half, even, if_false]
  refine runs_bind (runs_fill (x := fun n => x (2 * n)) (by omega) ?_) ?_
  · intro i less filled frame
    rw [frame.outside (a + 2 * i) (by omega)]
    exact holds (2 * i) (by omega)
  rintro input ⟨copied, evens⟩
  refine runs_bind (transforms evens (by rw [copied.length]; omega)
    (show b + 2 * (2 * h) + 8 * h ≤ s.output.length by omega)) ?_
  rintro s₁ ⟨scratch, written, evenPairs⟩
  have length₁ : s₁.output.length = s.output.length := written.length
  have kept : Frame (a + 2 * h) (a + 2 * (2 * h)) s.input s₁.input :=
    (copied.mono (Nat.le_refl _) (by omega)).trans (scratch.mono (by omega) (by omega))
  refine runs_bind (runs_fill (x := fun n => x (2 * n + 1)) (by rw [kept.length]; omega) ?_) ?_
  · intro i less filled frame
    rw [frame.outside (a + (2 * i + 1)) (by omega), kept.outside (a + (2 * i + 1)) (by omega)]
    exact holds (2 * i + 1) (by omega)
  rintro input ⟨copied, odds⟩
  refine runs_bind (transforms odds (by rw [copied.length, kept.length]; omega)
    (show b + 2 * (2 * h) + 2 * h + 8 * h ≤ s₁.output.length by omega)) ?_
  rintro s₂ ⟨scratch, written', oddPairs⟩
  have length₂ : s₂.output.length = s₁.output.length := written'.length
  have evenPairs := evenPairs.of_frame written' (by omega)
  refine runs_bind (runs_combine tables (by omega) evenPairs oddPairs (by omega) (by omega)
    fun k less => fftValue_two_mul tables less x) ?_
  rintro output ⟨combined, pairs⟩
  refine ⟨_, rfl, ?_, ?_, pairs⟩
  · exact (kept.trans (copied.mono (Nat.le_refl _) (by omega))).trans
      (scratch.mono (by omega) (by omega))
  · exact ((written.mono (by omega) (by omega)).trans
      (written'.mono (by omega) (by omega))).trans (combined.mono (Nat.le_refl b) (by omega))

/-- **`FFT`**, by the branches that it takes: it returns, leaves the values in the first `2 * N`
cells of its output, and touches no cell outside of those that it has for its halves. -/
theorem transforms {N : ℕ} (positive : 0 < N) : Transforms tables N := by
  induction N using Nat.strongRecOn with
  | ind N ih =>
      obtain rfl | long : N = 1 ∨ 1 < N := by omega
      · exact transforms_one tables
      by_cases odd : N % 2 = 1
      · exact transforms_of_odd tables long odd
      · obtain ⟨h, rfl⟩ : ∃ h, N = 2 * h := ⟨N / 2, by omega⟩
        have shorter : Transforms tables h := ih h (by omega) (by omega)
        exact shorter.two_mul tables (by omega)

end Values

end Saasy.ListeningEngine.LogMelSpectrogram
