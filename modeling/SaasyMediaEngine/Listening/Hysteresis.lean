import Mathlib.Algebra.Order.Floor.Semiring
import Mathlib.Data.List.DropRight
import Mathlib.Data.Rat.Floor
import SaasyMediaEngine.Listening.SileroVad

/-!
# When the VAD starts and stops to hear speech

`SileroVAD::UpdateState` is meant to enter `speech` on a run of loud chunks and to leave it
on a run of quiet ones.  The two counters behind it are not treated alike.  A loud chunk sets
`silence_duration_ms_` to zero whatever the state, so that in `speech` and `silence` the
counter is 32 times the current run of quiet chunks: the end of speech is exact
(`offsetLaw_of_speech`).  Nothing resets `speech_duration_ms_` while the VAD is idle: the
loud chunks of an idle stretch add up over the quiet ones between them, and speech starts on
a run that is too short (`debounced_iff`).

Sequences of chunks are lists of probabilities here: `updateState` sees nothing else of the model,
and a chunk the model fails on does not reach it.  The state after a list is a fold, and both laws
speak of a chunk in the middle of one, by what comes before it.

The counters are 32-bit and wrap, as in the source.  They only take multiples of 32, so a minimum
above `2 ^ 32 - 32` is never reached by the sum that is compared with it; below that, the run of
quiet chunks that ends speech is over before the counter could wrap (`counter_fits`).
-/

namespace Saasy.ListeningEngine

/-- A chunk at or above the threshold. -/
def VadConfig.loud (config : VadConfig) (probability : ℚ) : Bool :=
  decide (config.threshold ≤ probability)

/-- A chunk below it. -/
def VadConfig.quiet (config : VadConfig) (probability : ℚ) : Bool := !config.loud probability

/-- The loud chunks in a row that make `min_speech_duration_ms`. -/
def VadConfig.onsetChunks (config : VadConfig) : ℕ :=
  ⌈(config.minSpeechDurationMs.toNat / 32 : ℚ)⌉₊

/-- The quiet chunks in a row that make `min_silence_duration_ms`. -/
def VadConfig.offsetChunks (config : VadConfig) : ℕ :=
  max 1 ⌈(config.minSilenceDurationMs.toNat / 32 : ℚ)⌉₊

theorem ceil_div_le_iff (duration chunks : ℕ) :
    ⌈(duration / 32 : ℚ)⌉₊ ≤ chunks ↔ duration ≤ 32 * chunks := by
  rw [Nat.ceil_le, div_le_iff₀ (by norm_num), mul_comm]
  exact_mod_cast Iff.rfl

/-- The threshold of `UpdateState`, met by the chunk after `run` quiet ones. -/
theorem VadConfig.offsetChunks_le_succ_iff (config : VadConfig) (run : ℕ) :
    config.offsetChunks ≤ run + 1 ↔ config.minSilenceDurationMs.toNat ≤ 32 * (run + 1) := by
  rw [offsetChunks, max_le_iff, ceil_div_le_iff]
  omega

/-- A run that is not longer than the first complete one does not wrap the counter. -/
theorem VadConfig.counter_fits {config : VadConfig} {run : ℕ}
    (bounded : config.minSilenceDurationMs.toNat ≤ 2 ^ 32 - 32)
    (short : run < config.offsetChunks) : 32 * (run + 1) < 2 ^ 32 := by
  obtain zero | positive := Nat.eq_zero_or_pos run
  · omega
  · have incomplete := mt (ceil_div_le_iff config.minSilenceDurationMs.toNat run).mpr
    rw [offsetChunks] at short
    omega

namespace SileroVad

variable {Sample Rnn : Type*}

/-- `UpdateState` on one probability after the other. -/
def updateStates (vad : SileroVad Sample Rnn) (probabilities : List ℚ) : SileroVad Sample Rnn :=
  probabilities.foldl updateState vad

variable (vad : SileroVad Sample Rnn)

@[simp] theorem updateStates_nil : vad.updateStates [] = vad := rfl

theorem updateStates_append (front back : List ℚ) :
    vad.updateStates (front ++ back) = (vad.updateStates front).updateStates back :=
  List.foldl_append

theorem updateStates_concat (front : List ℚ) (p : ℚ) :
    vad.updateStates (front ++ [p]) = (vad.updateStates front).updateState p :=
  updateStates_append vad front [p]

@[simp] theorem updateStates_config (probabilities : List ℚ) :
    (vad.updateStates probabilities).config = vad.config := by
  induction probabilities using List.reverseRecOn with
  | nil => rfl
  | append_singleton front p ih => rw [updateStates_concat, updateState_config, ih]

variable {vad}

theorem updateState_of_loud {p : ℚ} (loud : vad.config.loud p = true) :
    vad.updateState p =
      { vad with
        speechDurationMs := vad.speechDurationMs + 32
        silenceDurationMs := 0
        state :=
          if vad.state = .idle ∧
              ¬ vad.config.minSpeechDurationMs ≤ vad.speechDurationMs + 32 then .idle
          else .speech } :=
  updateState_of_le (of_decide_eq_true loud)

theorem updateState_of_quiet {p : ℚ} (quiet : ¬ vad.config.loud p = true) :
    vad.updateState p =
      if vad.state = .idle then
        { vad with silenceDurationMs := vad.silenceDurationMs + 32 }
      else if vad.config.minSilenceDurationMs ≤ vad.silenceDurationMs + 32 then
        { vad with
          silenceDurationMs := vad.silenceDurationMs + 32
          speechDurationMs := 0
          state := .idle }
      else
        { vad with
          silenceDurationMs := vad.silenceDurationMs + 32
          state := .silence } :=
  updateState_of_lt (not_le.mp fun le => quiet (decide_eq_true le))

/-! ### The end of speech

In `speech` the two counters start from what is known: no silence is counted, and each loud chunk
resets the count.  The offset is therefore a function of the chunks alone, wherever in a run it is
looked for. -/

/-- **The law of offsets**, for a VAD in `speech`: as long as no run of quiet chunks is
complete the state tells the chunk just heard, and the chunk that completes the first one
takes the VAD back to `idle`. -/
def OffsetLaw (vad : SileroVad Sample Rnn) : Prop :=
  ∀ probabilities : List ℚ,
    (∀ front, front <+: probabilities → front ≠ probabilities →
      (front.rtakeWhile vad.config.quiet).length < vad.config.offsetChunks) →
    (vad.updateStates probabilities).state =
      if vad.config.offsetChunks ≤ (probabilities.rtakeWhile vad.config.quiet).length then .idle
      else if (probabilities.rtakeWhile vad.config.quiet).length = 0 then .speech
      else .silence

/-- In `speech` no silence is counted. -/
theorem silenceDurationMs_of_speech (fresh : vad.state = .idle) (past : List ℚ)
    (speech : (vad.updateStates past).state = .speech) :
    (vad.updateStates past).silenceDurationMs = 0 := by
  induction past using List.reverseRecOn with
  | nil =>
      rw [updateStates_nil, fresh] at speech
      cases speech
  | append_singleton past p _ =>
      rw [updateStates_concat] at speech ⊢
      by_cases loud : (vad.updateStates past).config.loud p = true
      · rw [updateState_of_loud loud]
      · rw [updateState_of_quiet loud] at speech
        split_ifs at speech with idle
        rw [idle] at speech
        cases speech

/-- The law, and the counter that it rests on. -/
theorem offset_of_speech (speech : vad.state = .speech) (unheard : vad.silenceDurationMs = 0)
    (bounded : vad.config.minSilenceDurationMs.toNat ≤ 2 ^ 32 - 32) (probabilities : List ℚ)
    (notYet : ∀ front, front <+: probabilities → front ≠ probabilities →
      (front.rtakeWhile vad.config.quiet).length < vad.config.offsetChunks) :
    let run := (probabilities.rtakeWhile vad.config.quiet).length
    if vad.config.offsetChunks ≤ run then (vad.updateStates probabilities).state = .idle
    else (vad.updateStates probabilities).state = (if run = 0 then .speech else .silence) ∧
      (vad.updateStates probabilities).silenceDurationMs.toNat = 32 * run := by
  have positive : 1 ≤ vad.config.offsetChunks := le_max_left ..
  induction probabilities using List.reverseRecOn with
  | nil =>
      rw [List.rtakeWhile_nil, List.length_nil, if_neg (by omega)]
      exact ⟨speech, by rw [updateStates_nil, unheard]; rfl⟩
  | append_singleton front p ih =>
      have before := ih fun earlier prefixed _ => notYet earlier
        (prefixed.trans (List.prefix_append front [p])) fun same => by
          have := prefixed.length_le
          simp [same] at this
      have short := notYet front (List.prefix_append front [p]) (by simp)
      rw [if_neg (by omega)] at before
      obtain ⟨state, counter⟩ := before
      have busy : (vad.updateStates front).state ≠ .idle := by
        rw [state]
        split_ifs <;> simp
      rw [updateStates_concat]
      by_cases loud : vad.config.loud p = true
      · -- the run starts anew
        have interrupted : ¬ vad.config.quiet p = true := by simp [VadConfig.quiet, loud]
        rw [List.rtakeWhile_concat_neg _ _ _ interrupted, List.length_nil, if_neg (by omega),
          updateState_of_loud (by rwa [updateStates_config])]
        exact ⟨by simp [busy], rfl⟩
      · have longer : vad.config.quiet p = true := by simp [VadConfig.quiet, loud]
        have quiet : ¬ (vad.updateStates front).config.loud p = true := by
          rwa [updateStates_config]
        rw [List.rtakeWhile_concat_pos _ _ _ longer, List.length_append, List.length_singleton,
          updateState_of_quiet quiet, if_neg busy, updateStates_config]
        have grown : ((vad.updateStates front).silenceDurationMs + 32).toNat =
            32 * ((front.rtakeWhile vad.config.quiet).length + 1) := by
          rw [UInt32.toNat_add, counter]
          exact Nat.mod_eq_of_lt (VadConfig.counter_fits bounded short)
        simp only [UInt32.le_iff_toNat_le, grown, vad.config.offsetChunks_le_succ_iff]
        split_ifs <;> simp_all

/-- **The end of speech is exact**: from `speech`, whatever came before. -/
theorem offsetLaw_of_speech [Zero Sample] [Zero Rnn] (config : VadConfig)
    (bounded : config.minSilenceDurationMs.toNat ≤ 2 ^ 32 - 32) (past : List ℚ)
    (speech : ((create config : SileroVad Sample Rnn).updateStates past).state = .speech) :
    OffsetLaw ((create config : SileroVad Sample Rnn).updateStates past) := by
  intro probabilities notYet
  have unheard := silenceDurationMs_of_speech rfl past speech
  have law := offset_of_speech speech unheard (by rwa [updateStates_config]) probabilities notYet
  dsimp only at law
  split_ifs at law ⊢ with complete
  · exact law
  · exact law.1
  · exact law.1

/-- Ten quiet chunks end speech, however they come. -/
theorem offsetLaw_of_speech_default :
    OffsetLaw ((create {} : SileroVad ℚ ℚ).updateStates [1, 0, 1]) :=
  offsetLaw_of_speech {} (by decide) [1, 0, 1] (by decide +kernel)

/-! ### The start of speech

In `idle` this is different.  A quiet chunk leaves the count of speech alone, so the loud chunks of
an idle stretch add up over the quiet ones between them, and the onset depends on all of the
stretch. -/

/-- **The law of onsets**: the VAD goes from `idle` to `speech` only on the last chunk of a run
of loud ones that is long enough. -/
def Debounced (vad : SileroVad Sample Rnn) (probabilities : List ℚ) : Prop :=
  ∀ past p rest, probabilities = past ++ p :: rest →
    (vad.updateStates past).state = .idle →
    (vad.updateStates (past ++ [p])).state = .speech →
    vad.config.onsetChunks ≤ ((past ++ [p]).rtakeWhile vad.config.loud).length

/-- A quiet chunk that finds the VAD idle, but with loud chunks counted, comes before too few
loud chunks to start speech in that idle stretch.  (A minimum over `2 ^ 32 - 32` is out of
reach of the counter.) -/
def Uninterrupted (vad : SileroVad Sample Rnn) (probabilities : List ℚ) : Prop :=
  2 ^ 32 - 32 < vad.config.minSpeechDurationMs.toNat ∨
    ∀ past p rest, probabilities = past ++ p :: rest →
      (vad.updateStates past).state = .idle → ¬ vad.config.loud p = true →
      0 < (vad.updateStates past).speechDurationMs →
      (vad.updateStates past).speechDurationMs.toNat + 32 * rest.countP vad.config.loud <
        vad.config.minSpeechDurationMs.toNat

/-- The counter is a multiple of a chunk. -/
theorem dvd_speechDurationMs (fresh : vad.speechDurationMs = 0) (past : List ℚ) :
    32 ∣ (vad.updateStates past).speechDurationMs.toNat := by
  induction past using List.reverseRecOn with
  | nil =>
      rw [updateStates_nil, fresh]
      exact Nat.dvd_zero 32
  | append_singleton past p ih =>
      rw [updateStates_concat]
      by_cases loud : (vad.updateStates past).config.loud p = true
      · rw [updateState_of_loud loud]
        show 32 ∣ ((vad.updateStates past).speechDurationMs + 32).toNat
        rw [UInt32.toNat_add]
        exact (Nat.dvd_mod_iff (by decide)).mpr (Dvd.dvd.add ih (by decide))
      · rw [updateState_of_quiet loud]
        split_ifs
        · exact ih
        · exact Nat.dvd_zero 32
        · exact ih

/-- An idle stretch in which the counter does not reach its minimum. -/
theorem idle_of_count (vad : SileroVad Sample Rnn) (idle : vad.state = .idle) (stretch : List ℚ)
    (few : vad.speechDurationMs.toNat + 32 * stretch.countP vad.config.loud <
      vad.config.minSpeechDurationMs.toNat) :
    (vad.updateStates stretch).state = .idle ∧
      (vad.updateStates stretch).speechDurationMs.toNat =
        vad.speechDurationMs.toNat + 32 * stretch.countP vad.config.loud := by
  have bound := vad.config.minSpeechDurationMs.toNat_lt
  induction stretch using List.reverseRecOn with
  | nil => exact ⟨idle, by simp⟩
  | append_singleton stretch p ih =>
      rw [List.countP_append, List.countP_singleton] at few ⊢
      obtain ⟨still, counter⟩ := ih (by omega)
      rw [updateStates_concat]
      by_cases loud : vad.config.loud p = true
      · have grown : ((vad.updateStates stretch).speechDurationMs + 32).toNat =
            vad.speechDurationMs.toNat + 32 * (stretch.countP vad.config.loud + 1) := by
          rw [if_pos loud] at few
          rw [UInt32.toNat_add, counter, Nat.mod_eq_of_lt (by simp; omega)]
          simp
          omega
        rw [if_pos loud] at few ⊢
        rw [updateState_of_loud (by rwa [updateStates_config]), still, updateStates_config]
        refine ⟨if_pos ⟨rfl, ?_⟩, grown⟩
        rw [UInt32.le_iff_toNat_le, grown]
        omega
      · rw [if_neg loud, Nat.add_zero]
        rw [updateState_of_quiet (by rwa [updateStates_config]), if_pos still]
        exact ⟨still, counter⟩

/-- While the VAD is idle the counter is below its minimum. -/
theorem speechDurationMs_lt_of_idle {vad : SileroVad Sample Rnn} (fresh : vad.speechDurationMs = 0)
    (past : List ℚ) (idle : (vad.updateStates past).state = .idle) :
    (vad.updateStates past).speechDurationMs = 0 ∨
      (vad.updateStates past).speechDurationMs < vad.config.minSpeechDurationMs := by
  induction past using List.reverseRecOn with
  | nil => exact .inl fresh
  | append_singleton past p ih =>
      rw [updateStates_concat] at idle ⊢
      by_cases loud : (vad.updateStates past).config.loud p = true
      · rw [updateState_of_loud loud] at idle ⊢
        split_ifs at idle with short
        rw [updateStates_config] at short
        exact .inr (UInt32.not_le.mp short.2)
      · rw [updateState_of_quiet loud] at idle ⊢
        split_ifs at idle ⊢ with before
        · exact ih before
        · exact .inl rfl

/-- What the counter of an idle VAD counts: the loud chunks just heard, or more than them,
from before a quiet chunk that found some counted. -/
theorem counted_of_idle (fresh : vad.speechDurationMs = 0) (past : List ℚ)
    (idle : (vad.updateStates past).state = .idle) :
    (vad.updateStates past).speechDurationMs.toNat ≤
        32 * (past.rtakeWhile vad.config.loud).length ∨
      ∃ front q back, past = front ++ q :: back ∧ (vad.updateStates front).state = .idle ∧
        ¬ vad.config.loud q = true ∧ 0 < (vad.updateStates front).speechDurationMs ∧
        (vad.updateStates past).speechDurationMs.toNat ≤
          (vad.updateStates front).speechDurationMs.toNat +
            32 * back.countP vad.config.loud := by
  induction past using List.reverseRecOn with
  | nil => exact .inl (by simp [fresh])
  | append_singleton past p ih =>
      rw [updateStates_concat] at idle ⊢
      by_cases loud : vad.config.loud p = true
      · rw [updateState_of_loud (by rwa [updateStates_config])] at idle ⊢
        split_ifs at idle with short
        have grown : ((vad.updateStates past).speechDurationMs + 32).toNat ≤
            (vad.updateStates past).speechDurationMs.toNat + 32 := by
          rw [UInt32.toNat_add]
          exact Nat.mod_le ..
        obtain run | ⟨front, q, back, rfl, still, quiet, some, counter⟩ := ih short.1
        · refine .inl (grown.trans ?_)
          rw [List.rtakeWhile_concat_pos _ _ _ loud, List.length_append, List.length_singleton]
          omega
        · refine .inr ⟨front, q, back ++ [p], by simp, still, quiet, some, grown.trans ?_⟩
          rw [List.countP_append, List.countP_singleton, if_pos loud]
          omega
      · rw [updateState_of_quiet (by rwa [updateStates_config])] at idle ⊢
        split_ifs at idle ⊢ with before
        · rcases Nat.eq_zero_or_pos (vad.updateStates past).speechDurationMs.toNat with none | some
          · exact .inl (by simp [none])
          · obtain - | ⟨front, q, back, rfl, still, quiet, some, counter⟩ := ih before
            · -- the quiet chunk finds the loud ones counted
              exact .inr ⟨past, p, [], rfl, before, loud, some, by simp⟩
            · refine .inr ⟨front, q, back ++ [p], by simp, still, quiet, some, ?_⟩
              rwa [List.countP_append, List.countP_singleton, if_neg loud, Nat.add_zero]
        · exact .inl (Nat.zero_le _)

/-- Speech starts on a loud chunk, with the counter at its minimum. -/
theorem onset_cases {p : ℚ} (idle : vad.state = .idle)
    (speech : (vad.updateState p).state = .speech) :
    vad.config.loud p = true ∧ vad.config.minSpeechDurationMs ≤ vad.speechDurationMs + 32 := by
  by_cases loud : vad.config.loud p = true
  · rw [updateState_of_loud loud] at speech
    refine ⟨loud, ?_⟩
    by_contra short
    rw [if_pos ⟨idle, short⟩] at speech
    cases speech
  · rw [updateState_of_quiet loud, if_pos idle, idle] at speech
    cases speech

/-- A sum that reaches its bound reaches it at one of the chunks that count. -/
theorem exists_crossing {p : ℚ → Bool} {start bound : ℕ} (below : start < bound) (l : List ℚ)
    (reached : bound ≤ start + 32 * l.countP p) :
    ∃ front x back, l = front ++ x :: back ∧ p x = true ∧
      start + 32 * front.countP p < bound ∧ bound ≤ start + 32 * front.countP p + 32 := by
  induction l using List.reverseRecOn with
  | nil => simp at reached; omega
  | append_singleton l x ih =>
      rcases Nat.lt_or_ge (start + 32 * l.countP p) bound with short | enough
      · rw [List.countP_append, List.countP_singleton] at reached
        by_cases counts : p x = true
        · rw [if_pos counts] at reached
          exact ⟨l, x, [], rfl, counts, short, by omega⟩
        · rw [if_neg counts] at reached
          omega
      · obtain ⟨front, y, back, rfl, counts, before, after⟩ := ih enough
        exact ⟨front, y, back ++ [x], by simp, counts, before, after⟩

/-- A trailing run ends at the last chunk that does not belong to it. -/
theorem length_rtakeWhile_le {p : ℚ → Bool} {q : ℚ} (breaks : ¬ p q = true) (front back : List ℚ) :
    ((front ++ q :: back).rtakeWhile p).length ≤ back.countP p := by
  induction back using List.reverseRecOn with
  | nil => simp [List.rtakeWhile_concat_neg _ _ _ breaks]
  | append_singleton back x ih =>
      rw [← List.cons_append, ← List.append_assoc, List.countP_append, List.countP_singleton]
      by_cases counts : p x = true
      · rw [List.rtakeWhile_concat_pos _ _ _ counts, if_pos counts, List.length_append,
          List.length_singleton]
        omega
      · rw [List.rtakeWhile_concat_neg _ _ _ counts]
        exact Nat.zero_le _

/-- If the loud chunks of an idle stretch do not add up over a quiet one, speech starts on a
run. -/
theorem Uninterrupted.debounced (fresh : vad.speechDurationMs = 0) {probabilities : List ℚ}
    (uninterrupted : Uninterrupted vad probabilities) : Debounced vad probabilities := by
  rintro past p rest rfl idle speech
  rw [updateStates_concat] at speech
  obtain ⟨loud, enough⟩ := onset_cases idle speech
  rw [updateStates_config] at loud enough
  have grown := UInt32.le_iff_toNat_le.mp enough
  rw [UInt32.toNat_add] at grown
  obtain unreached | few := uninterrupted
  · -- a multiple of 32 is at most `2 ^ 32 - 32`
    have := dvd_speechDurationMs fresh past
    simp only [UInt32.reduceToNat] at grown
    omega
  · have counter : vad.config.minSpeechDurationMs.toNat ≤
        (vad.updateStates past).speechDurationMs.toNat + 32 := grown.trans (Nat.mod_le ..)
    obtain run | ⟨front, q, back, rfl, still, quiet, some, counted⟩ :=
      counted_of_idle fresh past idle
    · rw [List.rtakeWhile_concat_pos _ _ _ loud, List.length_append, List.length_singleton,
        VadConfig.onsetChunks, ceil_div_le_iff]
      omega
    · have too_few := few front q (back ++ p :: rest) (by simp) still quiet some
      rw [List.countP_append, List.countP_cons_of_pos loud] at too_few
      omega

/-- Otherwise there is an onset on a run that is too short. -/
theorem Debounced.uninterrupted (fresh : vad.speechDurationMs = 0) {probabilities : List ℚ}
    (debounced : Debounced vad probabilities) : Uninterrupted vad probabilities := by
  refine or_iff_not_imp_left.mpr fun reachable past q rest split idle quiet counted => ?_
  by_contra reached
  have positive : 0 < (vad.updateStates past).speechDurationMs.toNat := counted
  have below : (vad.updateStates past).speechDurationMs.toNat <
      vad.config.minSpeechDurationMs.toNat := by
    obtain none | below := speechDurationMs_lt_of_idle fresh past idle
    · simp [none] at positive
    · exact below
  obtain ⟨front, p, back, rfl, loud, before, after⟩ :=
    exists_crossing below rest (not_lt.mp reached)
  -- the VAD stays idle up to the chunk that completes the count
  have skipped : vad.updateStates (past ++ [q]) = { vad.updateStates past with
      silenceDurationMs := (vad.updateStates past).silenceDurationMs + 32 } := by
    rw [updateStates_concat, updateState_of_quiet (by rwa [updateStates_config]), if_pos idle]
  obtain ⟨still, counter⟩ := idle_of_count (vad.updateStates (past ++ [q]))
    (by rw [skipped]; exact idle) front (by rw [skipped]; simpa using before)
  rw [← updateStates_append, List.append_assoc, List.singleton_append] at still counter
  have sum : (vad.updateStates (past ++ q :: front)).speechDurationMs.toNat =
      (vad.updateStates past).speechDurationMs.toNat + 32 * front.countP vad.config.loud := by
    rw [counter, skipped, updateStates_config]
  have onset : (vad.updateStates (past ++ q :: front ++ [p])).state = .speech := by
    have enough : vad.config.minSpeechDurationMs ≤
        (vad.updateStates (past ++ q :: front)).speechDurationMs + 32 := by
      rw [UInt32.le_iff_toNat_le, UInt32.toNat_add, sum]
      exact after.trans_eq (Nat.mod_eq_of_lt (by simp; omega)).symm
    rw [updateStates_concat, updateState_of_loud (by rwa [updateStates_config]),
      updateStates_config]
    exact if_neg fun idle => idle.2 enough
  have run := debounced (past ++ q :: front) p back (by simp [split]) still onset
  rw [List.append_assoc, List.cons_append] at run
  have short := run.trans (length_rtakeWhile_le quiet past (front ++ [p]))
  rw [VadConfig.onsetChunks, ceil_div_le_iff, List.countP_append, List.countP_singleton,
    if_pos loud] at short
  -- what was counted before the quiet chunk is a chunk at least
  have := dvd_speechDurationMs fresh past
  omega

/-- **Speech is debounced exactly when** no quiet chunk interrupts a count that starts speech
later. -/
theorem debounced_iff [Zero Sample] [Zero Rnn] (config : VadConfig) (probabilities : List ℚ) :
    Debounced (create config : SileroVad Sample Rnn) probabilities ↔
      Uninterrupted (create config : SileroVad Sample Rnn) probabilities :=
  ⟨Debounced.uninterrupted rfl, Uninterrupted.debounced rfl⟩

/-- Two loud chunks with a quiet one between them: speech starts on a single loud chunk, where
50 ms take two. -/
theorem onset_not_debounced : ¬ Debounced (create {} : SileroVad ℚ ℚ) [1, 0, 1] := by
  intro debounced
  have run := debounced [1, 0] 1 [] rfl (by decide +kernel) (by decide +kernel)
  revert run
  decide +kernel

end SileroVad

end Saasy.ListeningEngine
