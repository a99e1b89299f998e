import SaasyMediaEngine.Listening.MelWorkers
import SaasyMediaEngine.Transition.Machine

/-!
# The mel spectrogram as a function of its samples

`Compute` pads the samples, has its workers write the columns and normalizes what they wrote.
With 201 samples or more it stays inside all of its arrays, and the number of workers and their
schedule do not show in the output.  With fewer, the reflection at the start reads past the end
of the samples.

`Ready` is the state that `Init` establishes once and for all: the two tables, the window, and
filters of 80 times 201 numbers.  Under it each part of `Compute` is shown to return, from the
padding to the normalization, and what it returns is a list given by an index function, `cells` for
the output before it is normalized.  Where a buffer came from has no part in these functions, so the
number of workers drops out by itself: the columns of all of them together are all columns, each
of them once.
-/

namespace Saasy.ListeningEngine.LogMelSpectrogram

open Memory

universe u

variable {α : Type u}

theorem half_kFFTSize : kFFTSize / 2 = 200 := rfl

theorem kTargetSampleCount_eq : kTargetSampleCount = 128000 := by
  norm_num [kTargetSampleCount, kTargetDurationSec, kSampleRate]

/-! ### The static members

`Init` may be called more than once, and only its first success does anything.  What `Compute`
needs of the members is what they are then, `Ready`, whatever calls there have been. -/

section Initialization

variable [Field α] (m : Cmath α)

/-- The calls of `Init`, each with the file it is given.  A failed one may be repeated; one that
comes after a success changes nothing. -/
def initMachine : Transition.Machine (Statics α) (Option (List α)) where
  init := uninitialized
  step s file := some (init m file s).2

/-- What `Init` leaves once it has succeeded: the tables and the window of their formulas, and
filters of the size that the file has to have. -/
structure Ready (s : Statics α) : Prop where
  tables : s.tables = fillSinCosTable m kSinCosTableSize (by decide)
  hannWindow : s.hannWindow = fillHannWindow m
  nMel : s.filters.nMel = kNumMelBins
  nFft : s.filters.nFft = 201
  data : s.filters.data.length = kNumMelBins * 201

/-- The filters have their size even where the file was too short. -/
theorem loadFilters_fits (file : Option (List α)) (filters : Filters α) :
    (loadFilters file filters).2.nMel = kNumMelBins ∧ (loadFilters file filters).2.nFft = 201 ∧
      (loadFilters file filters).2.data.length = kNumMelBins * 201 := by
  cases file with
  | none => exact ⟨rfl, rfl, length_resize _ _⟩
  | some content =>
      refine ⟨rfl, rfl, ?_⟩
      simp only [loadFilters, List.length_append, List.length_take, List.length_drop,
        length_resize, half_kFFTSize]
      omega

theorem ready_init (file : Option (List α)) {s : Statics α}
    (ready : s.initialized = true → Ready m s) : Ready m (init m file s).2 := by
  rw [init]
  split_ifs with before
  · exact ready before
  · obtain ⟨nMel, nFft, data⟩ := loadFilters_fits file s.filters
    exact ⟨rfl, rfl, nMel, nFft, data⟩

/-- The state after an `Init` with a file that is long enough. -/
theorem initialized_init {content : List α} (enough : kNumMelBins * 201 ≤ content.length) :
    (init m (some content) uninitialized).2.initialized = true := by
  refine decide_eq_true ?_
  rw [length_resize]
  exact enough

theorem ready_of_reachable {s : Statics α} (reached : (initMachine m).Reachable s)
    (initialized : s.initialized = true) : Ready m s := by
  refine (initMachine m).invariant (motive := fun s => s.initialized = true → Ready m s) ?_ ?_
    reached initialized
  · rintro ⟨⟩
  · rintro s file _ ready ⟨⟩ -
    exact ready_init m file ready

end Initialization

/-! ### Padding

Whether the reads of the reflection are inside is the one question about lengths here: they go up
to the sample at 200, so there have to be 201. -/

section Padding

variable [Field α] {samples : List α}

/-- 200 reflected samples, the input, and zeros up to eight seconds and 200 more. -/
def paddedSamples (samples : List α) : List α :=
  ((samples.drop 1).take 200).reverse ++ (samples ++
    List.replicate (max samples.length 128000 - samples.length + 200) 0)

omit [Field α] in
theorem length_reflected (enough : 201 ≤ samples.length) :
    ((samples.drop 1).take 200).reverse.length = 200 := by
  rw [List.length_reverse, List.length_take, List.length_drop]
  omega

theorem length_paddedSamples (enough : 201 ≤ samples.length) :
    (paddedSamples samples).length = max samples.length 128000 + 400 := by
  rw [paddedSamples, List.length_append, length_reflected enough, List.length_append,
    List.length_replicate]
  omega

/-- In front of the input it is read backwards from the sample at 200. -/
theorem getElem?_paddedSamples_start (enough : 201 ≤ samples.length) {i : ℕ} (start : i < 200) :
    (paddedSamples samples)[i]? = samples[200 - i]? := by
  have reversed := length_reflected enough
  have taken := List.length_reverse.symm.trans reversed
  rw [paddedSamples, List.getElem?_append_left (by omega), List.getElem?_reverse (by omega),
    taken, List.getElem?_take_of_lt (by omega), List.getElem?_drop]
  congr 1
  omega

theorem getElem?_paddedSamples_middle (enough : 201 ≤ samples.length) {i : ℕ}
    (middle : i < samples.length) : (paddedSamples samples)[200 + i]? = samples[i]? := by
  have reversed := length_reflected enough
  rw [paddedSamples, List.getElem?_append_right (by omega), reversed, Nat.add_sub_cancel_left,
    List.getElem?_append_left middle]

/-- Behind the input there are zeros. -/
theorem getElem?_paddedSamples (enough : 201 ≤ samples.length) {i : ℕ}
    (behind : samples.length + 200 ≤ i) (inside : i < (paddedSamples samples).length) :
    (paddedSamples samples)[i]? = some 0 := by
  rw [length_paddedSamples enough] at inside
  rw [paddedSamples, List.getElem?_append_right (by rw [length_reflected enough]; omega),
    length_reflected enough, List.getElem?_append_right (by omega), List.getElem?_replicate,
    if_pos (by omega)]

/-- The three parts determine the padded samples. -/
theorem eq_paddedSamples (enough : 201 ≤ samples.length) {padded : List α}
    (length : padded.length = (paddedSamples samples).length)
    (start : ∀ i < 200, padded[i]? = samples[200 - i]?)
    (middle : ∀ i < samples.length, padded[200 + i]? = samples[i]?)
    (zeros : ∀ i, samples.length + 200 ≤ i → i < padded.length → padded[i]? = some 0) :
    padded = paddedSamples samples := by
  refine List.ext_getElem? fun i => ?_
  obtain before | behind := Nat.lt_or_ge i 200
  · rw [start i before, getElem?_paddedSamples_start enough before]
  obtain ⟨k, rfl⟩ := Nat.exists_eq_add_of_le behind
  obtain known | after := Nat.lt_or_ge k samples.length
  · rw [middle k known, getElem?_paddedSamples_middle enough known]
  obtain inside | outside := Nat.lt_or_ge (200 + k) padded.length
  · rw [zeros _ (by omega) inside, getElem?_paddedSamples enough (by omega) (by omega)]
  · rw [List.getElem?_eq_none outside, List.getElem?_eq_none (length ▸ outside)]

theorem padSamples_eq (enough : 201 ≤ samples.length) :
    padSamples samples samples.length = some (paddedSamples samples) := by
  have there (i : ℕ) (inside : i < samples.length) := getElem?_eq_some_getD inside (0 : α)
  have runs : Runs (padSamples samples samples.length) (· = paddedSamples samples) := by
    simp only [padSamples, half_kFFTSize, kTargetSampleCount_eq]
    refine runs_bind (runs_fill (x := fun i => samples.getD i 0) ?_
      fun i inside _ _ => there i inside) ?_
    · rw [List.length_replicate]
      omega
    rintro copied ⟨frame₁, input⟩
    refine runs_bind (runs_fill (x := fun _ => 0) ?_ fun _ _ _ _ => rfl) ?_
    · rw [frame₁.length, List.length_replicate]
      omega
    rintro zeroed ⟨frame₂, zeros⟩
    refine (runs_fill (x := fun i => samples.getD (200 - i) 0) ?_
      fun i inside _ _ => there (200 - i) (by omega)).mono ?_
    · rw [frame₂.length, frame₁.length, List.length_replicate]
      omega
    rintro padded ⟨frame₃, reflected⟩
    have length : padded.length = max samples.length 128000 + 400 := by
      rw [frame₃.length, frame₂.length, frame₁.length, List.length_replicate]
      omega
    -- each loop keeps what the loops before it have written
    refine eq_paddedSamples enough (length.trans (length_paddedSamples enough).symm)
      (fun i start => ?_) (fun i middle => ?_) fun i behind inside => ?_
    · have cell := reflected i start
      rwa [Nat.zero_add, ← there (200 - i) (by omega)] at cell
    · rw [frame₃.outside _ (by omega), frame₂.outside _ (by omega), input i middle, there i middle]
    · obtain ⟨k, rfl⟩ := Nat.exists_eq_add_of_le behind
      rw [frame₃.outside _ (by omega)]
      exact zeros k (by omega)
  obtain ⟨_, returns, rfl⟩ := runs
  exact returns

/-- The reflection reads the sample at 200, which is not there. -/
theorem padSamples_eq_none (short : samples.length < 201) :
    padSamples samples samples.length = none := by
  refine bind_eq_none fun copied _ => bind_eq_none fun zeroed _ => ?_
  exact fill_eq_none (by decide) (List.getElem?_eq_none (by rw [half_kFFTSize]; omega))

end Padding

/-! ### The workers

Each cell of the output is a function of the samples alone.  The workers write them in some order,
and as no two of them write the same cell, and all that is written is right, the order does not
show. -/

section Workers

variable [Field α] [LinearOrder α] {m : Cmath α} {s : Statics α} {samples : List α}

/-- The cells of the output before they are normalized. -/
def spectrum (m : Cmath α) (s : Statics α) (samples : List α) (j i : ℕ) : α :=
  cellValue m s.tables s.hannWindow (paddedSamples samples) (samples.length + 200) kFFTSize
    kHopLength s.filters j i

/-- The number of columns. -/
def columns (samples : List α) : ℕ := max samples.length 128000 / 160

/-- The output that the workers get. -/
def preparedOutput (samples : List α) (output : Output α) : Output α :=
  setupOutput output samples.length (paddedSamples samples).length

omit [LinearOrder α] in
theorem nLen_preparedOutput (enough : 201 ≤ samples.length) (output : Output α) :
    (preparedOutput samples output).nLen = columns samples := by
  simp only [preparedOutput, setupOutput, length_paddedSamples enough, kFFTSize, kHopLength,
    Nat.add_sub_cancel, columns]

omit [LinearOrder α] in
theorem Ready.fits (ready : Ready m s) (output : Output α) :
    Fits s.hannWindow kFFTSize s.filters (preparedOutput samples output) where
  positive := by decide
  window := by rw [ready.hannWindow, fillHannWindow, List.length_map, List.length_range]
  nFft := ready.nFft
  bank := by rw [ready.nFft, ready.data]; rfl
  size := length_resize _ _

/-- What a worker writes: the columns that leave its number as the remainder. -/
def Writes (m : Cmath α) (s : Statics α) (samples : List α) (output : Output α)
    (nThreads w : ℕ) (thread : List (ℕ × α)) : Prop :=
  ∀ write, write ∈ thread ↔ ∃ i < columns samples, i % nThreads = w ∧
    write ∈ column (preparedOutput samples output) i fun j => spectrum m s samples j i

theorem runs_workers (ready : Ready m s) (enough : 201 ≤ samples.length)
    (small : samples.length < 2 ^ 30) {nThreads : ℕ} (few : nThreads < 2 ^ 30)
    (output : Output α) :
    Runs (workers m s (paddedSamples samples) samples.length nThreads
        (preparedOutput samples output)) fun threads =>
      threads.length = nThreads ∧ ∀ w < nThreads, ∃ thread, threads[w]? = some thread ∧
        Writes m s samples output nThreads w thread := by
  have given : ((samples.length : ℤ) + kFFTSize / 2).bmod (2 ^ 32) =
      ((samples.length + 200 : ℕ) : ℤ) :=
    Int.bmod_eq_of_le_mul_two (by simp only [kFFTSize]; omega) (by simp only [kFFTSize]; omega)
  have nLen := nLen_preparedOutput enough output
  rw [workers, given]
  refine runs_collect fun w known => ?_
  refine (runs_workerThread (ready.fits output) ?_ (by decide) known ?_).mono
    fun thread writes => ?_
  · rw [length_paddedSamples enough]
    omega
  · rw [nLen, columns]
    omega
  · rwa [nLen] at writes

/-- A row-major index determines its row and its column. -/
theorem cell_injective {n i i' j j' : ℕ} (inside : i < n) (inside' : i' < n)
    (same : j * n + i = j' * n + i') : j = j' ∧ i = i' := by
  have column : i = i' := by
    have same := congrArg (· % n) same
    simp only [Nat.mul_add_mod', Nat.mod_eq_of_lt inside, Nat.mod_eq_of_lt inside'] at same
    exact same
  subst column
  exact ⟨Nat.eq_of_mul_eq_mul_right (Nat.zero_lt_of_lt inside) (Nat.add_right_cancel same), rfl⟩

/-- The writes to a cell. -/
theorem Writes.cell (enough : 201 ≤ samples.length) {output : Output α} {nThreads w : ℕ}
    {thread : List (ℕ × α)} (writes : Writes m s samples output nThreads w thread) {j i : ℕ}
    (bin : j < kNumMelBins) (inside : i < columns samples) (value : α) :
    (j * columns samples + i, value) ∈ thread ↔
      i % nThreads = w ∧ value = spectrum m s samples j i := by
  have nLen := nLen_preparedOutput enough output
  rw [writes]
  simp only [column, nLen, List.mem_map, List.mem_range, Prod.mk.injEq]
  constructor
  · rintro ⟨i', inside', own, j', -, same, rfl⟩
    obtain ⟨rfl, rfl⟩ := cell_injective inside' inside same
    exact ⟨own, rfl⟩
  · rintro ⟨own, rfl⟩
    exact ⟨i, inside, own, j, bin, rfl, rfl⟩

/-- The spectrum, row by row. -/
def cells (m : Cmath α) (s : Statics α) (samples : List α) : List α :=
  (List.range (kNumMelBins * columns samples)).map fun cell =>
    spectrum m s samples (cell / columns samples) (cell % columns samples)

theorem getElem?_cells {j i : ℕ} (bin : j < kNumMelBins) (inside : i < columns samples) :
    (cells m s samples)[j * columns samples + i]? = some (spectrum m s samples j i) := by
  have row : (j + 1) * columns samples ≤ kNumMelBins * columns samples :=
    Nat.mul_le_mul_right _ bin
  rw [Nat.succ_mul] at row
  rw [cells, List.getElem?_map, List.getElem?_range (by omega), Nat.mul_comm j,
    Option.map_some, Nat.mul_add_div (Nat.zero_lt_of_lt inside), Nat.div_eq_of_lt inside,
    Nat.add_zero, Nat.mul_add_mod, Nat.mod_eq_of_lt inside]

/-- **The workers fill the output** with the spectrum, in whatever order they write: together they
write every cell, and no two of them the same one. -/
theorem runs_spectrogram (ready : Ready m s) (enough : 201 ≤ samples.length)
    (small : samples.length < 2 ^ 30) {nThreads : ℕ} (positive : 0 < nThreads)
    (few : nThreads < 2 ^ 30) (schedule : List ℕ) (output : Output α) :
    Runs (spectrogram m s schedule samples samples.length nThreads output) (· =
      { preparedOutput samples output with data := cells m s samples }) := by
  refine runs_bind_some (padSamples_eq enough) ?_
  refine runs_bind (runs_workers ready enough small few output) ?_
  rintro threads ⟨length, each⟩
  refine ⟨_, rfl, ?_⟩
  congr 1
  have nLen := nLen_preparedOutput enough output
  have size : (preparedOutput samples output).data.length = kNumMelBins * columns samples := by
    rw [← nLen]
    exact length_resize _ _
  refine List.ext_getElem? fun cell => ?_
  obtain inside | outside := Nat.lt_or_ge cell (kNumMelBins * columns samples)
  · have width : 0 < columns samples := Nat.pos_of_mul_pos_left (Nat.zero_lt_of_lt inside)
    have bin : cell / columns samples < kNumMelBins := Nat.div_lt_of_lt_mul (by rwa [mul_comm])
    have col : cell % columns samples < columns samples := Nat.mod_lt _ width
    have place : cell / columns samples * columns samples + cell % columns samples = cell :=
      Nat.div_add_mod' _ _
    rw [cells, List.getElem?_map, List.getElem?_range inside]
    refine getElem?_scatter_interleave (Nat.lt_of_lt_of_eq inside size.symm) ?_ ?_ schedule
    · intro thread among v written
      obtain ⟨w, at_w⟩ := List.mem_iff_getElem?.mp among
      obtain ⟨_, at_w', writes⟩ := each w (length ▸ (List.getElem?_eq_some_iff.mp at_w).1)
      obtain rfl := Option.some.inj (at_w.symm.trans at_w')
      rw [← place] at written
      exact ((writes.cell enough bin col v).mp written).2
    · obtain ⟨thread, at_w, writes⟩ := each (cell % columns samples % nThreads)
        (Nat.mod_lt _ positive)
      refine ⟨thread, List.mem_of_getElem? at_w, ?_⟩
      have written := (writes.cell enough bin col _).mpr ⟨rfl, rfl⟩
      rwa [place] at written
  · have ends : (preparedOutput samples output).data.length ≤ cell := size.trans_le outside
    rw [List.getElem?_eq_none (by rwa [length_scatter]),
      List.getElem?_eq_none (by rwa [cells, List.length_map, List.length_range])]

/-- Normalization stays inside the data. -/
theorem runs_normalize (data : List α) : Runs (normalize data) (·.length = data.length) := by
  have there {i : ℕ} (inside : i < data.length) := getElem?_eq_some_getD inside (0 : α)
  refine runs_bind (runs_loop (fun _ _ => True) trivial fun i inside _ _ => ?_)
    fun maxValue _ => ?_
  · exact runs_bind_some (there inside) ⟨_, rfl, trivial⟩
  · refine (runs_fill (x := fun i => ((if data.getD i 0 < maxValue - 8 then maxValue - 8
      else data.getD i 0) + 4) / 4) (by omega) ?_).mono fun _ ⟨frame, _⟩ => frame.length
    intro i inside filled frame
    rw [frame.outside i (by omega), there inside]
    rfl

/-- **`Compute` is a function of the samples**: neither the number of workers nor their schedule
nor the output it is given matter. -/
theorem exists_compute (ready : Ready m s) (initialized : s.initialized = true)
    (enough : 201 ≤ samples.length) (small : samples.length < 2 ^ 30) :
    ∃ data, normalize (cells m s samples) = some data ∧
      ∀ {nThreads : ℕ}, 0 < nThreads → nThreads < 2 ^ 30 →
        ∀ (schedule : List ℕ) (output : Output α),
          compute m s schedule (some samples) samples.length nThreads output =
            some (true, { preparedOutput samples output with data }) := by
  obtain ⟨data, returns, -⟩ := runs_normalize (cells m s samples)
  refine ⟨data, returns, fun positive few schedule output => ?_⟩
  obtain ⟨raw, spectrogram, rfl⟩ := runs_spectrogram ready enough small positive few schedule output
  rw [compute, initialized, if_neg (by decide)]
  simp only
  rw [if_neg (by omega), Int.toNat_natCast, Int.toNat_natCast, spectrogram]
  show (normalize (cells m s samples) >>= _) = _
  rw [returns]
  rfl

/-- With fewer samples than it reflects, `Compute` reads past them. -/
theorem compute_eq_none (initialized : s.initialized = true) (nonempty : samples ≠ [])
    (short : samples.length < 201) {nThreads : ℤ} (positive : 0 < nThreads) (schedule : List ℕ)
    (output : Output α) :
    compute m s schedule (some samples) samples.length nThreads output = none := by
  have positive' : 0 < samples.length := List.length_pos_iff.mpr nonempty
  rw [compute, initialized, if_neg (by decide), if_neg (by omega), Int.toNat_natCast, spectrogram,
    padSamples_eq_none short]
  rfl

/-- Before `Init`, `Compute` touches nothing. -/
theorem compute_uninitialized (uninitialized : s.initialized = false) (schedule : List ℕ)
    (samples : Option (List α)) (nSamples nThreads : ℤ) (output : Output α) :
    compute m s schedule samples nSamples nThreads output = some (false, output) :=
  if_pos uninitialized

theorem compute_ne_none_iff (reached : (initMachine m).Reachable s) (nonempty : samples ≠ [])
    (small : samples.length < 2 ^ 30) {nThreads : ℕ} (positive : 0 < nThreads)
    (few : nThreads < 2 ^ 30) (schedule : List ℕ) (output : Output α) :
    compute m s schedule (some samples) samples.length nThreads output ≠ none ↔
      (s.initialized = true → 201 ≤ samples.length) := by
  obtain uninitialized | initialized := Bool.eq_false_or_eq_true s.initialized |>.symm
  · rw [compute_uninitialized uninitialized, uninitialized]
    simp
  refine ⟨fun inside _ => Nat.le_of_not_lt fun short => inside ?_, fun enough => ?_⟩
  · exact compute_eq_none initialized nonempty short (by omega) schedule output
  · obtain ⟨data, -, returns⟩ := exists_compute (ready_of_reachable m reached initialized)
      initialized (enough initialized) small
    rw [returns positive few schedule output]
    exact Option.some_ne_none _

end Workers

end Saasy.ListeningEngine.LogMelSpectrogram
