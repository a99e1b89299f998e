import SaasyMediaEngine.Listening.AudioTurnBuffer
import SaasyMediaEngine.Listening.ExactSpectrum

/-!
# The samples the SmartTurn detector reads

`SmartTurnDetector::Process` with the spectrogram that it computes of the turn buffer.  The
spectrogram reflects the first 200 samples, so it takes 201 of them to stay inside.

The padding reads `samples[1]` to `samples[200]` whatever the number of samples is.  An array access
behind the end has no value in the model of the spectrogram, so that to stay inside is to return at
all, and `stays_inside_iff` says it of both entry points: of `Compute` on any vector, and of
`Process`, which cuts a vector that is too long and hands on one that is too short.  The bounds on
the number of samples and of threads are those under which the `int` arithmetic in between does not
overflow.

Where it returns, `Process` is the detector that the pipeline uses, with the spectrogram and the
inference as its partial function of the samples (`processSpectrogram_eq`).
-/

namespace Saasy.ListeningEngine

namespace SmartTurnDetector

open LogMelSpectrogram

variable {α : Type*} [Field α] [LinearOrder α]

/-- `SmartTurnDetector::Process` with the spectrogram it computes.  The inference is a partial
function of it: `none` is an `Ort::Exception`. -/
def processSpectrogram (m : Cmath α) (s : Statics α) (schedule : List ℕ)
    (config : TurnDetectorConfig) (infer : Output α → Option ℚ) (audioBuffer : List α) :
    Option ℚ :=
  if audioBuffer = [] then some (-1)
  else
    let size := (audioBuffer.length : ℤ).bmod (2 ^ 32)
    let nSamples := if (kMaxSamples : ℤ) < size then (kMaxSamples : ℤ) else size
    (compute m s schedule (some (analysed audioBuffer)) nSamples config.nThreadsForMel
      { nLen := 0, nLenOrg := 0, nMel := 0, data := [] }).map fun (computed, melOutput) =>
        if computed then (infer melOutput).getD (-1) else -1

variable {m : Cmath α} {s : Statics α} {audioBuffer : List α}

omit [Field α] [LinearOrder α] in
theorem bmod_length (fits : audioBuffer.length < 2 ^ 31) :
    (audioBuffer.length : ℤ).bmod (2 ^ 32) = audioBuffer.length :=
  Int.bmod_eq_of_le_mul_two (by omega) (by omega)

omit [Field α] [LinearOrder α] in
/-- What is analysed of a buffer that fits an `int`. -/
theorem length_analysed (fits : audioBuffer.length < 2 ^ 31) :
    (analysed audioBuffer).length =
      if kMaxSamples < audioBuffer.length then kMaxSamples else audioBuffer.length := by
  unfold analysed
  generalize kMaxSamples = capacity
  rw [bmod_length fits]
  dsimp only
  split_ifs with long long'
  · rw [List.length_take, List.length_drop]
    omega
  · omega
  · omega
  · rw [List.length_take]
    omega

/-- The call of `Compute`. -/
theorem processSpectrogram_of_nonempty (nonempty : audioBuffer ≠ [])
    (fits : audioBuffer.length < 2 ^ 31) (schedule : List ℕ) (config : TurnDetectorConfig)
    (infer : Output α → Option ℚ) :
    processSpectrogram m s schedule config infer audioBuffer =
      (compute m s schedule (some (analysed audioBuffer)) (analysed audioBuffer).length
        config.nThreadsForMel { nLen := 0, nLenOrg := 0, nMel := 0, data := [] }).map
          fun (computed, melOutput) => if computed then (infer melOutput).getD (-1) else -1 := by
  have nSamples : (if (kMaxSamples : ℤ) < audioBuffer.length then (kMaxSamples : ℤ)
      else audioBuffer.length) = (analysed audioBuffer).length := by
    rw [length_analysed fits, Nat.cast_ite]
    simp only [Nat.cast_lt]
  simp only [processSpectrogram, if_neg nonempty, bmod_length fits, nSamples]

theorem processSpectrogram_ne_none_iff (reached : (initMachine m).Reachable s)
    (nonempty : audioBuffer ≠ []) (fits : audioBuffer.length < 2 ^ 31)
    {config : TurnDetectorConfig} (positive : 0 < config.nThreadsForMel)
    (few : config.nThreadsForMel < 2 ^ 30) (schedule : List ℕ) (infer : Output α → Option ℚ) :
    processSpectrogram m s schedule config infer audioBuffer ≠ none ↔
      (s.initialized = true → 201 ≤ audioBuffer.length) := by
  have some : 0 < audioBuffer.length := List.length_pos_iff.mpr nonempty
  have capacity : kMaxSamples = 128000 := rfl
  have bounds : (201 ≤ (analysed audioBuffer).length ↔ 201 ≤ audioBuffer.length) ∧
      0 < (analysed audioBuffer).length ∧ (analysed audioBuffer).length < 2 ^ 30 := by
    rw [length_analysed fits, capacity]
    split_ifs <;> omega
  obtain ⟨nThreads, threads⟩ := Int.eq_ofNat_of_zero_le (Int.le_of_lt positive)
  rw [processSpectrogram_of_nonempty nonempty fits, ne_eq, Option.map_eq_none_iff, threads,
    ← bounds.1]
  exact compute_ne_none_iff reached (List.length_pos_iff.mp bounds.2.1) bounds.2.2 (by omega)
    (by omega) schedule _

/-- `Process` is the detector of the pipeline, with the spectrogram and the inference as its
partial function of the samples. -/
theorem processSpectrogram_eq (fits : audioBuffer.length < 2 ^ 31) {config : TurnDetectorConfig}
    {schedule : List ℕ} {infer : Output α → Option ℚ} {probability : ℚ}
    (returns : processSpectrogram m s schedule config infer audioBuffer = some probability) :
    probability = process (fun samples =>
      (compute m s schedule (some samples) samples.length config.nThreadsForMel
        { nLen := 0, nLenOrg := 0, nMel := 0, data := [] }).bind fun (computed, melOutput) =>
          if computed then infer melOutput else none) audioBuffer := by
  by_cases nonempty : audioBuffer = []
  · rw [processSpectrogram, if_pos nonempty] at returns
    rw [process, if_pos nonempty]
    exact (Option.some.inj returns).symm
  rw [processSpectrogram_of_nonempty nonempty fits] at returns
  obtain ⟨⟨computed, melOutput⟩, computes, rfl⟩ := Option.map_eq_some_iff.mp returns
  rw [process, if_neg nonempty, computes, Option.bind_some]
  cases computed
  · rfl
  · rfl

/-- **The spectrogram reads only the audio it is given** exactly if that is 201 samples or
more, or `Init` has not succeeded. -/
theorem stays_inside_iff (reached : (initMachine m).Reachable s) (schedule : List ℕ) :
    (∀ (samples : List α) (nThreads : ℕ) (output : Output α), 1 ≤ samples.length →
      samples.length < 2 ^ 30 → 1 ≤ nThreads → nThreads < 2 ^ 30 →
        (compute m s schedule (some samples) samples.length nThreads output ≠ none ↔
          (s.initialized = true → 201 ≤ samples.length))) ∧
      ∀ (config : TurnDetectorConfig) (infer : Output α → Option ℚ) (audioBuffer : List α),
        audioBuffer ≠ [] → audioBuffer.length < 2 ^ 31 → 1 ≤ config.nThreadsForMel →
          config.nThreadsForMel < 2 ^ 30 →
            (processSpectrogram m s schedule config infer audioBuffer ≠ none ↔
              (s.initialized = true → 201 ≤ audioBuffer.length)) := by
  constructor
  · intro samples nThreads output nonempty small positive few
    exact compute_ne_none_iff reached (List.length_pos_iff.mp nonempty) small positive few
      schedule output
  · intro config infer audioBuffer nonempty fits positive few
    exact processSpectrogram_ne_none_iff reached nonempty fits positive few schedule infer

/-- 201 samples and a single one. -/
theorem stays_inside_iff_zeros :
    compute (exactCmath (Real.logb 10)) zeroFilters [] (some (List.replicate 201 0))
        (List.replicate 201 (0 : ℝ)).length (1 : ℕ)
        { nLen := 0, nLenOrg := 0, nMel := 0, data := [] } ≠ none ∧
      processSpectrogram (exactCmath (Real.logb 10)) zeroFilters [] {} (fun _ => some 0) [0] =
        none := by
  obtain ⟨reached, initialized⟩ := reachable_zeroFilters
  obtain ⟨computes, processes⟩ := stays_inside_iff reached []
  constructor
  · refine (computes _ 1 _ ?_ ?_ ?_ ?_).mpr fun _ => ?_
    all_goals norm_num
  · refine not_not.mp fun inside => ?_
    have enough := (processes {} _ [0] (by simp) (by norm_num) (by decide) (by decide)).mp inside
      initialized
    exact absurd enough (by decide)

/-- **A single sample**: `Compute` reads the 200 behind it, for the padding that it mirrors, and so
does `Process` on the audio of a turn of that length. -/
theorem single_sample :
    compute (exactCmath (Real.logb 10)) zeroFilters [] (some [0]) 1 1
      { nLen := 0, nLenOrg := 0, nMel := 0, data := [] } = none :=
  compute_eq_none reachable_zeroFilters.2 (List.cons_ne_nil _ _)
    (show ([0] : List ℝ).length < 201 by decide) (by decide) _ _

end SmartTurnDetector

end Saasy.ListeningEngine
