import SaasyMediaEngine.Streaming.Chunks

/-!
# Windows that overlap

A consumer that sees each chunk behind the last elements of the one before keeps these between
two chunks.  Over a whole stream, what it sees is a window: `c + n` elements of the stream, padded
in front with `c` elements that are not there.

* `overlap` — the elements before a place of the padded stream.
* `window` — the overlap before a chunk, and the chunk; `window_eq`.
* `overlap_append`, `window_append` — another delivery does not change what is past.
* `overlap_chunk` — what is kept of a window is the overlap of the next one.

Zeros in front, or whatever `pad` is, make the first windows like all others, so that no lemma has
a case for the beginning of the stream.  An overlap may be longer than a chunk; then what is kept
reaches back over several of them, and the lemmas do not notice.
-/

namespace Streaming

universe u

variable {α : Type u} (pad : α) (c n : ℕ)

/-- The `c` elements before element `i`. -/
def overlap (i : ℕ) (xs : List α) : List α :=
  ((List.replicate c pad ++ xs).drop i).take c

/-- Chunk `k`, behind the `c` elements before it. -/
def window (k : ℕ) (xs : List α) : List α :=
  ((List.replicate c pad ++ xs).drop (k * n)).take (c + n)

variable {i k : ℕ} {xs ys : List α}

theorem length_overlap (inside : i ≤ xs.length) : (overlap pad c i xs).length = c := by
  rw [overlap, List.length_take, List.length_drop, List.length_append, List.length_replicate]
  omega

/-- What lies behind the overlap is the stream, as the padding is as long as the overlap. -/
theorem drop_padded (i : ℕ) (xs : List α) :
    ((List.replicate c pad ++ xs).drop i).drop c = xs.drop i := by
  rw [List.drop_drop, Nat.add_comm i c, ← List.drop_drop,
    List.drop_left' List.length_replicate]

/-- A window from element `i` on. -/
theorem take_padded (i : ℕ) (xs : List α) :
    ((List.replicate c pad ++ xs).drop i).take (c + n) =
      overlap pad c i xs ++ (xs.drop i).take n := by
  rw [List.take_add, drop_padded, overlap]

theorem window_eq (k : ℕ) (xs : List α) :
    window pad c n k xs = overlap pad c (k * n) xs ++ (xs.drop (k * n)).take n :=
  take_padded pad c n (k * n) xs

/-- **What is past stays.** What comes before a place that has been reached is not changed by what
is delivered later. -/
theorem overlap_append (inside : i ≤ xs.length) (ys : List α) :
    overlap pad c i (xs ++ ys) = overlap pad c i xs := by
  have padded : i ≤ (List.replicate c pad ++ xs).length := by
    rw [List.length_append]
    omega
  have long : c ≤ ((List.replicate c pad ++ xs).drop i).length := by
    rw [List.length_drop, List.length_append, List.length_replicate]
    omega
  rw [overlap, ← List.append_assoc, List.drop_append_of_le_length padded,
    List.take_append_of_le_length long, overlap]

theorem window_append (inside : (k + 1) * n ≤ xs.length) (ys : List α) :
    window pad c n k (xs ++ ys) = window pad c n k xs := by
  rw [Nat.succ_mul] at inside
  have long : n ≤ (xs.drop (k * n)).length := by
    rw [List.length_drop]
    omega
  rw [window_eq, window_eq, overlap_append pad c (by omega),
    List.drop_append_of_le_length (by omega), List.take_append_of_le_length long]

/-- **What is kept of a window is the overlap of the next one**, also when the overlap is longer
than a chunk. -/
theorem overlap_chunk (i : ℕ) (xs : List α) :
    (overlap pad c i xs ++ (xs.drop i).take n).drop n = overlap pad c (i + n) xs := by
  rw [← take_padded, List.drop_take, List.drop_drop, Nat.add_sub_cancel, overlap]

/-- The window of the chunk that comes next. -/
theorem window_of_next (whole : xs.length = k * n) (size : ys.length = n) :
    window pad c n k (xs ++ ys) = overlap pad c (k * n) xs ++ ys := by
  rw [window_eq, overlap_append pad c (by omega), ← whole, List.drop_left,
    List.take_of_length_le (by omega)]

theorem overlap_of_next (whole : xs.length = k * n) (size : ys.length = n) :
    overlap pad c ((k + 1) * n) (xs ++ ys) = (overlap pad c (k * n) xs ++ ys).drop n := by
  rw [Nat.succ_mul, ← overlap_chunk, ← window_eq, window_of_next pad c n whole size]

end Streaming
