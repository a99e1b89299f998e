import Mathlib.Data.List.Basic

/-!
# Cutting a stream into chunks

A consumer that works on chunks of a fixed size keeps what it was handed until there is a whole
chunk, and takes chunks off the front while there are any.  What it took and what it kept are
functions of the stream alone: not of how the stream was cut into deliveries, and not of what
became of the chunks.

* `chunks`, `leftover` — the whole chunks at the front of a list, and the rest.
* `drain` — the loop, with a state that each chunk changes; `drain_eq` says that it is a fold
  over the chunks.
* `chunks_append`, `leftover_append` — another delivery.

The size of a chunk is positive, which is all that the loop needs to end.  A consumer that has more
state than what it kept, for instance counters that each chunk advances, is a `drain` with that
state, and its result over many deliveries is one fold over the chunks of the whole stream.
-/

namespace Streaming

universe u v

variable {α : Type u} {σ : Type v}

/-- The whole chunks of `n` at the front of a list. -/
def chunks (n : ℕ) (xs : List α) : List (List α) :=
  if 0 < n ∧ n ≤ xs.length then xs.take n :: chunks n (xs.drop n) else []
termination_by xs.length
decreasing_by
  rw [List.length_drop]
  omega

/-- What is left behind them. -/
def leftover (n : ℕ) (xs : List α) : List α :=
  if 0 < n ∧ n ≤ xs.length then leftover n (xs.drop n) else xs
termination_by xs.length
decreasing_by
  rw [List.length_drop]
  omega

/-- Chunks are taken off the front, and processed, while there are any. -/
def drain (n : ℕ) (process : σ → List α → σ) (s : σ) (xs : List α) : σ × List α :=
  if 0 < n ∧ n ≤ xs.length then drain n process (process s (xs.take n)) (xs.drop n) else (s, xs)
termination_by xs.length
decreasing_by
  rw [List.length_drop]
  omega

variable {n : ℕ} {xs : List α}

theorem chunks_of_short (short : xs.length < n) : chunks n xs = [] := by
  rw [chunks, if_neg (by omega)]

theorem leftover_of_short (short : xs.length < n) : leftover n xs = xs := by
  rw [leftover, if_neg (by omega)]

theorem chunks_of_long (positive : 0 < n) (long : n ≤ xs.length) :
    chunks n xs = xs.take n :: chunks n (xs.drop n) := by
  rw [chunks, if_pos ⟨positive, long⟩]

theorem leftover_of_long (positive : 0 < n) (long : n ≤ xs.length) :
    leftover n xs = leftover n (xs.drop n) := by
  rw [leftover, if_pos ⟨positive, long⟩]

/-- **Nothing is lost.** The chunks and what is left behind them are the list, in its order and
without a gap. -/
theorem flatten_chunks_append_leftover (n : ℕ) (xs : List α) :
    (chunks n xs).flatten ++ leftover n xs = xs := by
  fun_induction chunks n xs with
  | case1 xs whole ih =>
      rw [leftover_of_long whole.1 whole.2, List.flatten_cons, List.append_assoc, ih,
        List.take_append_drop]
  | case2 xs short => rw [leftover, if_neg short, List.flatten_nil, List.nil_append]

theorem length_of_mem_chunks (n : ℕ) (xs : List α) : ∀ chunk ∈ chunks n xs, chunk.length = n := by
  fun_induction chunks n xs with
  | case1 xs whole ih =>
      rw [List.forall_mem_cons]
      exact ⟨List.length_take_of_le whole.2, ih⟩
  | case2 xs short => exact List.forall_mem_nil _

theorem length_leftover_lt (positive : 0 < n) (xs : List α) : (leftover n xs).length < n := by
  fun_induction leftover n xs with
  | case1 xs whole ih => exact ih
  | case2 xs short =>
      rw [not_and] at short
      exact Nat.not_le.mp (short positive)

/-- **Another delivery** goes behind what was left of the ones before, and the chunks that were
taken stay what they are. -/
theorem chunks_append (n : ℕ) (xs ys : List α) :
    chunks n (xs ++ ys) = chunks n xs ++ chunks n (leftover n xs ++ ys) := by
  fun_induction chunks n xs with
  | case1 xs whole ih =>
      have longer : n ≤ (xs ++ ys).length := by
        rw [List.length_append]
        omega
      rw [chunks_of_long whole.1 longer, leftover_of_long whole.1 whole.2,
        List.take_append_of_le_length whole.2, List.drop_append_of_le_length whole.2, ih,
        List.cons_append]
  | case2 xs short => rw [leftover, if_neg short, List.nil_append]

theorem leftover_append (n : ℕ) (xs ys : List α) :
    leftover n (xs ++ ys) = leftover n (leftover n xs ++ ys) := by
  fun_induction leftover n xs with
  | case1 xs whole ih =>
      have longer : n ≤ (xs ++ ys).length := by
        rw [List.length_append]
        omega
      rw [leftover_of_long whole.1 longer, List.drop_append_of_le_length whole.2, ih]
  | case2 xs short => rfl

/-- **The loop is a fold over the chunks.** Where the chunks begin does not depend on what
processing does to the state. -/
theorem drain_eq (n : ℕ) (process : σ → List α → σ) (s : σ) (xs : List α) :
    drain n process s xs = ((chunks n xs).foldl process s, leftover n xs) := by
  fun_induction drain n process s xs with
  | case1 s xs whole ih =>
      rw [ih, chunks_of_long whole.1 whole.2, leftover_of_long whole.1 whole.2, List.foldl_cons]
  | case2 s xs short => rw [chunks, if_neg short, leftover, if_neg short, List.foldl_nil]

end Streaming
