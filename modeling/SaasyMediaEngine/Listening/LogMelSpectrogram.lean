import Mathlib.Algebra.Order.Field.Basic
import Mathlib.Data.Rat.Cast.Defs
import SaasyMediaEngine.Listening.Fft
import SaasyMediaEngine.Memory.Threads

/-!
# The mel spectrogram

`log_mel_spectrogram.cpp` over any ordered field in place of `float` and `double`.  Every read
and every write goes to a checked buffer, so that `Compute` is undefined exactly if it leaves
one of its arrays, or if an `int` overflows.

The workers share `output.data`, which none of them reads: a worker is the list of its writes,
and a schedule says in which order those of all workers happen.

The products `i * frame_step`, `j * n_len + i` and `n_mel * n_len` stay below the number of
samples, which is an `int`; what can overflow is `i += n_threads`.

A loop of the source is a `loop`, a `stride` or a `fill` of `Memory.Buffer` over the same range and
in the same order, the four products at a time of the filter bank included.  The parameters are what
the source takes from elsewhere: the functions of `<cmath>`, the numbers in the file of the filters,
and the schedule.  The lengths of the arrays are not assumed; `Init` makes them, and the assertion
of the source on the size of the filters is a branch without a value.

An ordered field has no rounding.  What is said about the values is about exact arithmetic, and what
is said about the arrays holds of any numbers, as no index depends on a sample.
-/

namespace Saasy.ListeningEngine.LogMelSpectrogram

open Memory

universe u

variable {α : Type u}

def kSampleRate : ℕ := 16000
def kFFTSize : ℕ := 400
def kHopLength : ℕ := 160
def kTargetDurationSec : ℕ := 8
def kTargetSampleCount : ℕ := kTargetDurationSec * kSampleRate
def kSinCosTableSize : ℕ := kFFTSize
def kNumMelBins : ℕ := 80

/-- `LogMelSpectrogram::Filters`: a row of `n_fft` weights for each mel bin, one row behind the
other. -/
structure Filters (α : Type u) where
  nMel : ℕ
  nFft : ℕ
  data : List α

/-- `LogMelSpectrogram::Output`: a row of `n_len` columns for each mel bin, and how many columns
the input itself has. -/
structure Output (α : Type u) where
  nLen : ℕ
  nLenOrg : ℤ
  nMel : ℕ
  data : List α

/-- The static members, which `Init` fills on its first success and `Compute` reads without looking
at anything but `initialized_`. -/
structure Statics (α : Type u) where
  tables : SinCosTables α
  hannWindow : List α
  filters : Filters α
  initialized : Bool

/-- `std::vector::resize`. -/
def resize [Zero α] (vector : List α) (n : ℕ) : List α :=
  vector.take n ++ List.replicate (n - vector.length) 0

@[simp] theorem length_resize [Zero α] (vector : List α) (n : ℕ) :
    (resize vector n).length = n := by
  rw [resize, List.length_append, List.length_take, List.length_replicate]
  omega

section Initialization

variable [Field α]

/-- Static storage is zero before `Init`. -/
def uninitialized : Statics α where
  tables :=
    { kSinCosTableSize := kSinCosTableSize
      sinVals := List.replicate kSinCosTableSize 0
      cosVals := List.replicate kSinCosTableSize 0
      positive := by decide
      length_sinVals := List.length_replicate
      length_cosVals := List.length_replicate }
  hannWindow := List.replicate kFFTSize 0
  filters := { nMel := 0, nFft := 0, data := [] }
  initialized := false

/-- `FillHannWindow`. -/
def fillHannWindow (m : Cmath α) : List α :=
  (List.range kFFTSize).map fun i => 0.5 * (1 - m.cosf (theta m.pi i kFFTSize))

/-- `LoadFilters` of a file that holds these floats, or that does not open.  A file that is too
short overwrites the filters as far as it goes. -/
def loadFilters (file : Option (List α)) (filters : Filters α) : Bool × Filters α :=
  let nFft := kFFTSize / 2 + 1
  let filters :=
    { nFft, nMel := kNumMelBins, data := resize filters.data (kNumMelBins * nFft) : Filters α }
  match file with
  | none => (false, filters)
  | some content =>
      let read := content.take filters.data.length
      (decide (filters.data.length ≤ content.length),
        { filters with data := read ++ filters.data.drop read.length })

/-- `Init`.  The tables and the window are filled before the file is read, so a failed call leaves
them filled and `initialized_` as it was. -/
def init (m : Cmath α) (file : Option (List α)) (s : Statics α) : Bool × Statics α :=
  if s.initialized then (true, s)
  else
    let (loaded, filters) := loadFilters file s.filters
    (loaded,
      { tables := fillSinCosTable m kSinCosTableSize (by decide)
        hannWindow := fillHannWindow m
        filters
        initialized := loaded })

end Initialization

/-! ### One worker

A worker owns the columns that leave its number as the remainder by the number of workers, in both
of its loops: the first computes columns while there are samples, the second fills what is left
with silence. -/

/-- The buffers of a worker, and what it has written to `output.data`.  It never reads that array,
so the writes can be put together afterwards. -/
structure Worker (α : Type u) extends FftBuffers α where
  writes : List (ℕ × α)

/-- `output.data[cell] = value`. -/
def Worker.store (w : Worker α) (size cell : ℕ) (value : α) : Option (Worker α) :=
  if cell < size then some { w with writes := w.writes ++ [(cell, value)] } else none

section Code

variable [Field α] [LinearOrder α]

/-- "Apply Hann window" and "Zero-pad if needed", for a frame of which `left` samples are
there. -/
def applyHannWindow (hannWindow samples : List α) (frameSize offset left : ℕ) (fftIn : List α) :
    Option (List α) := do
  let fftIn ← fill 0 (min frameSize left)
    (fun j _ => do return (← hannWindow[j]?) * (← samples[offset + j]?)) fftIn
  if left < frameSize then
    fill left (fftIn.length - left) (fun _ _ => some 0) fftIn
  else return fftIn

/-- "Calculate power spectrum", on top of the spectrum. -/
def powerSpectrum (nFft : ℕ) (fftOut : List α) : Option (List α) :=
  fill 0 nFft (fun j fftOut => do
    let re ← fftOut[2 * j]?
    let im ← fftOut[2 * j + 1]?
    return re * re + im * im) fftOut

/-- "Apply mel filter bank": one bin, four products at a time and the remainder. -/
def applyFilter (filters : Filters α) (j : ℕ) (fftOut : List α) : Option α := do
  let product := fun k => do
    return (← fftOut[k]?) * (← filters.data[j * filters.nFft + k]?)
  let (k, sum) ← stride (filters.nFft - 3) 4 (fun k sum => do
    return sum + ((← product (k + 0)) + (← product (k + 1)) + (← product (k + 2)) +
      (← product (k + 3)))) 0 0
  let (_, sum) ← stride filters.nFft 1 (fun k sum => do return sum + (← product k)) k sum
  return sum

/-- One column of the output. -/
def storeColumn (output : Output α) (i : ℕ) (value : ℕ → Option α) (w : Worker α) :
    Option (Worker α) :=
  loop output.nMel (fun j w => do
    w.store output.data.length (j * output.nLen + i) (← value j)) w

/-- One frame: the body of the first loop of `WorkerThread`. -/
def processFrame (m : Cmath α) (tables : SinCosTables α) (hannWindow samples : List α)
    (frameSize offset left : ℕ) (filters : Filters α) (output : Output α) (i : ℕ)
    (w : Worker α) : Option (Worker α) := do
  let input ← applyHannWindow hannWindow samples frameSize offset left w.input
  let buffers ← fft tables frameSize 0 0 { input, output := w.output }
  let fftOut ← powerSpectrum filters.nFft buffers.output
  storeColumn output i (fun j => do
    return m.log10 (max (← applyFilter filters j fftOut) 1e-10))
    { input := buffers.input, output := fftOut, writes := w.writes }

/-- `i += n_threads` on an `int`. -/
def advance (i nThreads : ℕ) (w : Worker α) : Option (Worker α) :=
  if i + nThreads < 2 ^ 31 then some w else none

/-- `WorkerThread`: what it writes to `output.data`.  The first loop ends where the samples or the
columns do, and the second goes on from there. -/
def workerThread (m : Cmath α) (tables : SinCosTables α) (threadId : ℕ)
    (hannWindow samples : List α) (nSamples : ℤ) (frameSize frameStep nThreads : ℕ)
    (filters : Filters α) (output : Output α) : Option (List (ℕ × α)) :=
  let w : Worker α :=
    { input := List.replicate (frameSize * 2) 0
      output := List.replicate (frameSize * 2 * 2 * 2) 0
      writes := [] }
  -- the assertion on the size of the filters
  if filters.nFft ≠ 1 + frameSize / 2 then none
  else do
    let limit := (min (nSamples.tdiv frameStep + 1) output.nLen).toNat
    let (i, w) ← stride limit nThreads (fun i w => do
      let offset := i * frameStep
      let w ← processFrame m tables hannWindow samples frameSize offset
        (nSamples - offset).toNat filters output i w
      advance i nThreads w) threadId w
    let (_, w) ← stride output.nLen nThreads (fun i w => do
      let w ← storeColumn output i (fun _ => some (m.log10 1e-10)) w
      advance i nThreads w) i w
    return w.writes

/-! ### The whole computation

The threads are joined before the maximum is looked for, so what comes after them reads a finished
output.  Their writes are put together by `Memory.Threads`, in the order of some schedule. -/

/-- `samples_padded`: the reflected samples, the input, zeros.  They are written in this order of
the source, input first and reflection last. -/
def padSamples (samples : List α) (nSamples : ℕ) : Option (List α) := do
  let stage1Pad := kTargetSampleCount - nSamples
  let stage2Pad := kFFTSize / 2
  let padded := List.replicate (nSamples + stage1Pad + stage2Pad * 2) 0
  let padded ← fill stage2Pad nSamples (fun i _ => samples[i]?) padded
  let padded ← fill (nSamples + stage2Pad) (stage1Pad + stage2Pad) (fun _ _ => some 0) padded
  fill 0 stage2Pad (fun i _ => samples[stage2Pad - i]?) padded

/-- "Setup output structure". `data` is resized and not cleared, so it may hold what an earlier
call has left. -/
def setupOutput (output : Output α) (nSamples size : ℕ) : Output α :=
  let nLen := (size - kFFTSize) / kHopLength
  { nMel := kNumMelBins
    nLen
    nLenOrg := 1 + ((nSamples : ℤ) + kFFTSize / 2 - kFFTSize).tdiv kHopLength
    data := resize output.data (kNumMelBins * nLen) }

/-- "Multi-threaded mel spectrogram computation": what each worker writes. -/
def workers (m : Cmath α) (s : Statics α) (padded : List α) (nSamples nThreads : ℕ)
    (output : Output α) : Option (List (List (ℕ × α))) :=
  collect nThreads fun iw =>
    workerThread m s.tables iw s.hannWindow padded
      (((nSamples : ℤ) + kFFTSize / 2).bmod (2 ^ 32)) kFFTSize kHopLength nThreads s.filters output

/-- "Clamping and normalization": nothing is more than eight below the maximum, and then the range
is shifted and scaled. -/
def normalize (data : List α) : Option (List α) := do
  let maxValue ← loop data.length (fun i maxValue => do
    let value ← data[i]?
    return if maxValue < value then value else maxValue) (-1e20 : α)
  let maxValue := maxValue - 8
  fill 0 data.length (fun i data => do
    let value ← data[i]?
    let value := if value < maxValue then maxValue else value
    return (value + 4) / 4) data

/-- `Compute` up to the end of the workers, whose writes reach the output in the order of the
schedule. -/
def spectrogram (m : Cmath α) (s : Statics α) (schedule : List ℕ) (samples : List α)
    (nSamples nThreads : ℕ) (output : Output α) : Option (Output α) := do
  let padded ← padSamples samples nSamples
  let output := setupOutput output nSamples padded.length
  let threads ← workers m s padded nSamples nThreads output
  return { output with data := scatter output.data (interleave schedule threads) }

/-- `Compute`; the pointer may be null.  It returns false without touching the output where an
argument is no good, or `Init` has not succeeded. -/
def compute (m : Cmath α) (s : Statics α) (schedule : List ℕ) (samples : Option (List α))
    (nSamples nThreads : ℤ) (output : Output α) : Option (Bool × Output α) :=
  if s.initialized = false then some (false, output)
  else
    match samples with
    | none => some (false, output)
    | some samples =>
        if nSamples ≤ 0 ∨ nThreads ≤ 0 then some (false, output)
        else do
          let output ← spectrogram m s schedule samples nSamples.toNat nThreads.toNat output
          let data ← normalize output.data
          return (true, { output with data })

end Code

end Saasy.ListeningEngine.LogMelSpectrogram
