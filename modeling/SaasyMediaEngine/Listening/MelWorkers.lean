import Mathlib.Algebra.BigOperators.Intervals
import SaasyMediaEngine.Listening.LogMelSpectrogram

/-!
# What a worker of the mel spectrogram writes

`cellValue` is the value of one cell of the output as a function of the padded samples, and
`runs_workerThread` says which cells a worker writes: those of the columns that leave its
number as the remainder, each with its value.  The buffers a worker keeps from one frame to the
next have no part in it: a frame fills them as far as it reads them.

A frame goes through five steps, window, transform, power spectrum, filter bank and logarithm, and
each has a lemma that says what it leaves in the buffer, given what it reads.  The power spectrum
overwrites the spectrum that it is computed of, but only behind its own back; the transform uses the
cells of the input buffer above the frame, which the next frame does not read.

The second loop of a worker writes the columns behind the input, where the filter bank would see
nothing but silence.
-/

namespace Saasy.ListeningEngine.LogMelSpectrogram

open Memory Finset

universe u

variable {α : Type u} [Field α]

/-! ### One frame

The window overwrites the whole frame and the power spectrum is computed from the transform of it,
so what the buffers of a worker held before a frame does not matter. -/

/-- A frame under the window, zero where the samples end. -/
def frameValue (hannWindow samples : List α) (offset left j : ℕ) : α :=
  if j < left then hannWindow.getD j 0 * samples.getD (offset + j) 0 else 0

/-- The squared magnitude of a frequency of a frame. -/
def powerValue (tables : SinCosTables α) (frameSize : ℕ) (frame : ℕ → α) (k : ℕ) : α :=
  let z := fftValue tables frameSize frame k
  z.1 * z.1 + z.2 * z.2

/-- What a bin of the filter bank makes of a spectrum. -/
def binValue (filters : Filters α) (power : ℕ → α) (j : ℕ) : α :=
  ∑ k ∈ range filters.nFft, power k * filters.data.getD (j * filters.nFft + k) 0

/-- The window overwrites a whole frame, whatever was there. -/
theorem runs_applyHannWindow {hannWindow samples fftIn : List α} {frameSize offset left : ℕ}
    (window : frameSize ≤ hannWindow.length) (inside : offset + left ≤ samples.length)
    (room : frameSize ≤ fftIn.length) :
    Runs (applyHannWindow hannWindow samples frameSize offset left fftIn) fun fftIn' =>
      fftIn'.length = fftIn.length ∧
        Holds fftIn' 0 frameSize (frameValue hannWindow samples offset left) := by
  refine runs_bind (runs_fill (x := frameValue hannWindow samples offset left) (by omega) ?_) ?_
  · intro j less filled _
    have there : j < left := by omega
    rw [getElem?_eq_some_getD (by omega) 0, getElem?_eq_some_getD (by omega) 0, frameValue,
      if_pos there]
    rfl
  rintro filled ⟨frame, holds⟩
  rw [Nat.zero_add] at frame
  split_ifs with short
  · have total : left + (filled.length - left) = filled.length := by
      rw [frame.length]
      omega
    refine (runs_fill (x := fun _ => 0) (by rw [total]) fun _ _ _ _ => rfl).mono ?_
    rintro padded ⟨frame', zeros⟩
    refine ⟨frame'.length.trans frame.length, fun j less => ?_⟩
    by_cases there : j < left
    · rw [frame'.outside _ (by omega)]
      exact holds j (by omega)
    · have zero := zeros (j - left) (by rw [frame.length]; omega)
      rw [frameValue, if_neg there, Nat.zero_add]
      rwa [Nat.add_sub_cancel' (by omega)] at zero
  · refine ⟨filled, rfl, frame.length, fun j less => holds j (by omega)⟩

/-- The power spectrum overwrites the spectrum behind its own back only. -/
theorem runs_powerSpectrum {nFft N : ℕ} {fftOut : List α} {z : ℕ → α × α} (fits : nFft ≤ N)
    (room : 2 * N ≤ fftOut.length) (pairs : HoldsPairs fftOut 0 N z) :
    Runs (powerSpectrum nFft fftOut) fun fftOut' =>
      fftOut'.length = fftOut.length ∧
        Holds fftOut' 0 nFft fun k => (z k).1 * (z k).1 + (z k).2 * (z k).2 := by
  refine (runs_fill (by omega) ?_).mono fun _ ⟨frame, holds⟩ => ⟨frame.length, holds⟩
  intro k less filled frame
  obtain ⟨re, im⟩ := pairs k (by omega)
  simp only [Nat.zero_add] at re im frame
  rw [frame.outside (2 * k) (by omega), frame.outside (2 * k + 1) (by omega), re, im]
  rfl

/-- The unrolled loop and its remainder add up all products. -/
theorem runs_applyFilter {filters : Filters α} {fftOut : List α} {power : ℕ → α} {j : ℕ}
    (bank : (j + 1) * filters.nFft ≤ filters.data.length)
    (holds : Holds fftOut 0 filters.nFft power) :
    Runs (applyFilter filters j fftOut) (· = binValue filters power j) := by
  let product k := power k * filters.data.getD (j * filters.nFft + k) 0
  have reads {k : ℕ} (less : k < filters.nFft) : (do
      return (← fftOut[k]?) * (← filters.data[j * filters.nFft + k]?)) = some (product k) := by
    have value := holds k less
    rw [Nat.zero_add] at value
    rw [value, getElem?_eq_some_getD (by rw [Nat.succ_mul] at bank; omega) 0]
    rfl
  let inv k sum := k ≤ filters.nFft ∧ sum = ∑ i ∈ range k, product i
  refine runs_bind (runs_stride (by decide) inv ?_ ⟨Nat.zero_le _, rfl⟩) ?_
  · rintro k less sum ⟨-, rfl⟩
    refine runs_bind_some (reads (by omega)) (runs_bind_some (reads (by omega)) ?_)
    refine runs_bind_some (reads (by omega)) (runs_bind_some (reads (by omega)) ?_)
    refine ⟨_, rfl, by omega, ?_⟩
    rw [Nat.add_zero, sum_range_succ, sum_range_succ, sum_range_succ, sum_range_succ]
    simp only [add_assoc]
  rintro ⟨k, sum⟩ ⟨-, start⟩
  refine runs_bind (runs_stride (by decide) inv ?_ start) ?_
  · rintro k less sum ⟨-, rfl⟩
    refine runs_bind_some (reads less) ⟨_, rfl, less, ?_⟩
    rw [sum_range_succ]
  · rintro ⟨k, sum⟩ ⟨passed, bound, rfl⟩
    obtain rfl : k = filters.nFft := Nat.le_antisymm bound passed
    exact ⟨_, rfl, rfl⟩

/-! ### One column

A column is a value for each bin, stored one under the other.  The offsets into the output are the
only place where rows and columns meet. -/

variable [LinearOrder α]

/-- The cell of a bin and a frame of which `left` samples are there. -/
def melValue (m : Cmath α) (tables : SinCosTables α) (hannWindow samples : List α)
    (frameSize : ℕ) (filters : Filters α) (offset left j : ℕ) : α :=
  m.log10 (max (binValue filters
    (powerValue tables frameSize (frameValue hannWindow samples offset left)) j) 1e-10)

/-- The cell of a bin and a frame, computed or filled with silence. -/
def cellValue (m : Cmath α) (tables : SinCosTables α) (hannWindow samples : List α)
    (nSamples frameSize frameStep : ℕ) (filters : Filters α) (j i : ℕ) : α :=
  if i * frameStep ≤ nSamples then
    melValue m tables hannWindow samples frameSize filters (i * frameStep)
      (nSamples - i * frameStep) j
  else m.log10 1e-10


/-- What `Compute` hands to its workers fits together: the window is as long as a frame, the
filters have a row of the size of a spectrum for each bin, and the output is as large as its rows
and columns say. -/
structure Fits (hannWindow : List α) (frameSize : ℕ) (filters : Filters α) (output : Output α) :
    Prop where
  positive : 0 < frameSize
  window : frameSize ≤ hannWindow.length
  nFft : filters.nFft = 1 + frameSize / 2
  bank : output.nMel * filters.nFft ≤ filters.data.length
  size : output.data.length = output.nMel * output.nLen

/-- What a column adds to the writes of a worker. -/
def column (output : Output α) (i : ℕ) (x : ℕ → α) : List (ℕ × α) :=
  (List.range output.nMel).map fun j => (j * output.nLen + i, x j)

omit [Field α] [LinearOrder α] in
theorem runs_storeColumn {output : Output α} {i : ℕ} {value : ℕ → Option α} {x : ℕ → α}
    {w : Worker α} (size : output.data.length = output.nMel * output.nLen)
    (inside : i < output.nLen) (values : ∀ j < output.nMel, Runs (value j) (· = x j)) :
    Runs (storeColumn output i value w) fun w' =>
      w'.toFftBuffers = w.toFftBuffers ∧ w'.writes = w.writes ++ column output i x := by
  refine runs_loop (fun k (w' : Worker α) => w'.toFftBuffers = w.toFftBuffers ∧
    w'.writes = w.writes ++ (List.range k).map fun j => (j * output.nLen + i, x j))
    ⟨rfl, (List.append_nil _).symm⟩ ?_
  rintro j less w' ⟨buffers, writes⟩
  have row : (j + 1) * output.nLen ≤ output.nMel * output.nLen :=
    Nat.mul_le_mul_right _ less
  refine runs_bind (values j less) ?_
  rintro _ rfl
  refine ⟨_, if_pos (by rw [size]; rw [Nat.succ_mul] at row; omega), buffers, ?_⟩
  rw [writes, List.append_assoc, List.range_succ, List.map_append]
  rfl

variable {m : Cmath α} {tables : SinCosTables α} {hannWindow samples : List α}
  {frameSize : ℕ} {filters : Filters α} {output : Output α}

/-- A frame adds its column, and leaves buffers of the same size. -/
theorem runs_processFrame (fits : Fits hannWindow frameSize filters output) {offset left i : ℕ}
    (there : offset + left ≤ samples.length) (inside : i < output.nLen) {w : Worker α}
    (input : w.input.length = frameSize * 2) (output' : w.output.length = frameSize * 2 * 2 * 2) :
    Runs (processFrame m tables hannWindow samples frameSize offset left filters output i w)
      fun w' => w'.input.length = frameSize * 2 ∧ w'.output.length = frameSize * 2 * 2 * 2 ∧
        w'.writes = w.writes ++
          column output i (melValue m tables hannWindow samples frameSize filters offset left) := by
  have positive := fits.positive
  have nFft := fits.nFft
  refine runs_bind (runs_applyHannWindow fits.window there (by omega)) ?_
  rintro fftIn ⟨length, holds⟩
  refine runs_bind (transforms tables positive holds
    (show 0 + 2 * frameSize ≤ fftIn.length by omega)
    (show 0 + 8 * frameSize ≤ w.output.length by omega)) ?_
  rintro buffers ⟨scratch, written, pairs⟩
  have length₁ : buffers.output.length = w.output.length := written.length
  refine runs_bind (runs_powerSpectrum (show filters.nFft ≤ frameSize by omega) (by omega)
    pairs) ?_
  rintro fftOut ⟨length₂, (power : Holds fftOut 0 _ (powerValue tables frameSize _))⟩
  refine (runs_storeColumn (x := melValue m tables hannWindow samples frameSize filters offset left)
    fits.size inside fun j less => ?_).mono ?_
  · have bank : (j + 1) * filters.nFft ≤ filters.data.length :=
      (Nat.mul_le_mul_right _ less).trans fits.bank
    refine runs_bind (runs_applyFilter bank power) ?_
    rintro _ rfl
    exact ⟨_, rfl, rfl⟩
  · rintro w' ⟨kept, writes⟩
    have length₃ : buffers.input.length = fftIn.length := scratch.length
    rw [kept, writes]
    exact ⟨length₃.trans (length.trans input), length₂.trans (length₁.trans output'), rfl⟩

/-! ### One worker

Its two loops go through the columns in steps of the number of workers, and the second goes on
where the first has stopped.  `Covers` is the invariant of both. -/

/-- Of the columns before `i`, a worker has written its own, each with its values. -/
def Covers (nThreads threadId : ℕ) (output : Output α) (x : ℕ → ℕ → α) (i : ℕ)
    (writes : List (ℕ × α)) : Prop :=
  ∀ write, write ∈ writes ↔
    ∃ i' < output.nLen, i' < i ∧ i' % nThreads = threadId ∧ write ∈ column output i' (x i')

omit [Field α] [LinearOrder α] in
/-- The next column of a worker, and none of its own in between. -/
theorem Covers.step {nThreads threadId i : ℕ} {x : ℕ → ℕ → α} {writes : List (ℕ × α)}
    (covers : Covers nThreads threadId output x i writes) (own : i % nThreads = threadId)
    (positive : 0 < nThreads) (inside : i < output.nLen) :
    Covers nThreads threadId output x (i + nThreads) (writes ++ column output i (x i)) := by
  intro write
  rw [List.mem_append, covers write]
  constructor
  · rintro (⟨i', inside', before, own', mem⟩ | mem)
    · exact ⟨i', inside', by omega, own', mem⟩
    · exact ⟨i, inside, by omega, own, mem⟩
  · rintro ⟨i', inside', before, own', mem⟩
    obtain earlier | later := Nat.lt_or_ge i' i
    · exact Or.inl ⟨i', inside', earlier, own', mem⟩
    · have distance : (i' - i) % nThreads = 0 :=
        Nat.sub_mod_eq_zero_of_mod_eq (own'.trans own.symm)
      rw [Nat.mod_eq_of_lt (by omega)] at distance
      obtain rfl : i' = i := by omega
      exact Or.inr mem

omit [Field α] [LinearOrder α] in
/-- No column before the first one is its own. -/
theorem covers_start {nThreads threadId : ℕ} (known : threadId < nThreads) (output : Output α)
    (x : ℕ → ℕ → α) : Covers nThreads threadId output x threadId [] := by
  refine fun write => ⟨fun none => absurd none List.not_mem_nil, ?_⟩
  rintro ⟨i, -, before, own, -⟩
  rw [Nat.mod_eq_of_lt (before.trans known)] at own
  exact absurd own (Nat.ne_of_lt before)

omit [Field α] [LinearOrder α] in
/-- Behind the last column there is nothing left. -/
theorem Covers.all {nThreads threadId i : ℕ} {x : ℕ → ℕ → α} {writes : List (ℕ × α)}
    (covers : Covers nThreads threadId output x i writes) (passed : output.nLen ≤ i)
    (write : ℕ × α) :
    write ∈ writes ↔
      ∃ i < output.nLen, i % nThreads = threadId ∧ write ∈ column output i (x i) := by
  rw [covers write]
  constructor
  · rintro ⟨i', inside, -, mem⟩
    exact ⟨i', inside, mem⟩
  · rintro ⟨i', inside, mem⟩
    exact ⟨i', inside, by omega, mem⟩

section Loops

variable {nSamples frameStep nThreads threadId : ℕ} {w : Worker α} {i : ℕ}

/-- A round of the first loop, which computes a column. -/
theorem runs_frame (fits : Fits hannWindow frameSize filters output)
    (there : nSamples ≤ samples.length) (positive : 0 < nThreads)
    (small : output.nLen + nThreads ≤ 2 ^ 31) (inside : i < output.nLen)
    (starts : i * frameStep ≤ nSamples) (input : w.input.length = frameSize * 2)
    (output' : w.output.length = frameSize * 2 * 2 * 2) (own : i % nThreads = threadId)
    (covers : Covers nThreads threadId output (fun i j =>
      cellValue m tables hannWindow samples nSamples frameSize frameStep filters j i) i w.writes) :
    Runs (do
      let w ← processFrame m tables hannWindow samples frameSize (i * frameStep)
        ((nSamples : ℤ) - (i * frameStep : ℕ)).toNat filters output i w
      advance i nThreads w) fun w' =>
        w'.input.length = frameSize * 2 ∧ w'.output.length = frameSize * 2 * 2 * 2 ∧
          (i + nThreads) % nThreads = threadId ∧ Covers nThreads threadId output (fun i j =>
            cellValue m tables hannWindow samples nSamples frameSize frameStep filters j i)
              (i + nThreads) w'.writes := by
  have left : ((nSamples : ℤ) - (i * frameStep : ℕ)).toNat = nSamples - i * frameStep := by omega
  have computed : (fun j =>
      cellValue m tables hannWindow samples nSamples frameSize frameStep filters j i) =
        melValue m tables hannWindow samples frameSize filters (i * frameStep)
          (nSamples - i * frameStep) := funext fun j => if_pos starts
  rw [left]
  refine runs_bind (runs_processFrame fits (by omega) inside input output') ?_
  rintro w' ⟨input, output', writes⟩
  refine ⟨_, if_pos (by omega), input, output', by rw [Nat.add_mod_right, own], ?_⟩
  rw [writes, ← computed]
  exact covers.step own positive inside

/-- A round of the second loop, which fills a column with silence. -/
theorem runs_silence (fits : Fits hannWindow frameSize filters output)
    (positive : 0 < nThreads) (small : output.nLen + nThreads ≤ 2 ^ 31)
    (inside : i < output.nLen) (silent : ¬i * frameStep ≤ nSamples)
    (own : i % nThreads = threadId)
    (covers : Covers nThreads threadId output (fun i j =>
      cellValue m tables hannWindow samples nSamples frameSize frameStep filters j i) i w.writes) :
    Runs (do
      let w ← storeColumn output i (fun _ => some (m.log10 1e-10)) w
      advance i nThreads w) fun w' =>
        (i + nThreads) % nThreads = threadId ∧ Covers nThreads threadId output (fun i j =>
          cellValue m tables hannWindow samples nSamples frameSize frameStep filters j i)
            (i + nThreads) w'.writes := by
  have filled : (fun j =>
      cellValue m tables hannWindow samples nSamples frameSize frameStep filters j i) =
        fun _ => m.log10 1e-10 := funext fun j => if_neg silent
  refine runs_bind (runs_storeColumn (x := fun _ => m.log10 1e-10) fits.size inside
    fun j _ => ⟨_, rfl, rfl⟩) ?_
  rintro w' ⟨-, writes⟩
  refine ⟨_, if_pos (by omega), by rw [Nat.add_mod_right, own], ?_⟩
  rw [writes, ← filled]
  exact covers.step own positive inside

/-- **A worker writes the columns that leave its number as the remainder**, those that it computes
and those that it fills: each of their cells with its value, and no other cell. -/
theorem runs_workerThread (fits : Fits hannWindow frameSize filters output)
    (there : nSamples ≤ samples.length) (step : 0 < frameStep) (known : threadId < nThreads)
    (small : output.nLen + nThreads ≤ 2 ^ 31) :
    Runs (workerThread m tables threadId hannWindow samples nSamples frameSize frameStep nThreads
        filters output) fun writes =>
      ∀ write, write ∈ writes ↔ ∃ i < output.nLen, i % nThreads = threadId ∧
        write ∈ column output i fun j =>
          cellValue m tables hannWindow samples nSamples frameSize frameStep filters j i := by
  have positive : 0 < nThreads := by omega
  have starts (i : ℕ) : i < nSamples / frameStep + 1 ↔ i * frameStep ≤ nSamples :=
    Nat.lt_succ_iff.trans (Nat.le_div_iff_mul_le step)
  have limit : (min ((nSamples : ℤ).tdiv frameStep + 1) output.nLen).toNat =
      min (nSamples / frameStep + 1) output.nLen := by
    rw [← Int.ofNat_tdiv, ← Nat.cast_succ, ← Nat.cast_min, Int.toNat_natCast]
  rw [workerThread, if_neg (not_not.mpr fits.nFft), limit]
  refine runs_bind (runs_stride positive (fun i w => w.input.length = frameSize * 2 ∧
    w.output.length = frameSize * 2 * 2 * 2 ∧ i % nThreads = threadId ∧
      Covers nThreads threadId output (fun i j => cellValue m tables hannWindow samples nSamples
        frameSize frameStep filters j i) i w.writes) ?_
    ⟨List.length_replicate, List.length_replicate, Nat.mod_eq_of_lt known,
      covers_start known output _⟩) ?_
  · rintro i less w ⟨input, output', own, covers⟩
    exact runs_frame fits there positive small (by omega) ((starts i).mp (by omega)) input output'
      own covers
  rintro ⟨i, w⟩ ⟨passed, -, -, own, covers⟩
  refine runs_bind (runs_stride positive (fun i w =>
    min (nSamples / frameStep + 1) output.nLen ≤ i ∧ i % nThreads = threadId ∧
      Covers nThreads threadId output (fun i j => cellValue m tables hannWindow samples nSamples
        frameSize frameStep filters j i) i w.writes) ?_ ⟨passed, own, covers⟩) ?_
  · rintro i inside w ⟨passed, own, covers⟩
    have silent : ¬i * frameStep ≤ nSamples := fun early => by
      have before := (starts i).mpr early
      omega
    exact (runs_silence fits positive small inside silent own covers).mono
      fun _ after => ⟨by omega, after⟩
  · rintro ⟨i, w⟩ ⟨passed, -, -, covers⟩
    exact ⟨_, rfl, covers.all passed⟩

end Loops

end Saasy.ListeningEngine.LogMelSpectrogram
