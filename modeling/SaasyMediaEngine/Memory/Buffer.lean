import Mathlib.Data.List.Basic
import Mathlib.Order.Nat

/-!
# Programs on checked buffers

A buffer is a list of cells.  Reading it is `buffer[i]?`, and `write` fails outside of it, so
that a program in `Option` returns exactly if every index it touches is inside.  `Runs` says
that it does, and what holds of its result; there is a rule for each way of putting programs
together, the one for loops with an invariant.

* `loop`, `stride` — counting loops, by one and by a step.
* `fill`, `collect` — a loop that writes one cell after the other, and one that starts with no
  cells; their rules need no invariant.
* `Frame lo hi` — only the cells from `lo` to `hi` have changed.
* `Holds`, `HoldsPairs` — what a stretch of a buffer contains, cell by cell and in pairs.

Pointers into a buffer are indices into it, and a program that moves a pointer moves an index.  So
"stays inside" is not an extra property next to the result: it is that the program returns at all,
and each rule proves both together.  Values are arbitrary, and no rule looks at them.
-/

namespace Memory

universe u

variable {α σ τ : Type u}

/-! ### Programs -/

/-- The program returns, and `post` holds of what it returns.  There is no partial version: a
program that leaves its buffer meets no postcondition. -/
def Runs (program : Option σ) (post : σ → Prop) : Prop :=
  ∃ result, program = some result ∧ post result

theorem Runs.mono {program : Option σ} {post post' : σ → Prop} (runs : Runs program post)
    (weaker : ∀ result, post result → post' result) : Runs program post' := by
  obtain ⟨result, returns, holds⟩ := runs
  exact ⟨result, returns, weaker result holds⟩

theorem runs_some {result : σ} {post : σ → Prop} (holds : post result) :
    Runs (some result) post :=
  ⟨result, rfl, holds⟩

/-- **The rule for sequence.** The first program establishes what the rest needs, and neither
leaves its buffer. -/
theorem runs_bind {program : Option σ} {next : σ → Option τ} {mid : σ → Prop} {post : τ → Prop}
    (first : Runs program mid) (rest : ∀ result, mid result → Runs (next result) post) :
    Runs (program >>= next) post := by
  obtain ⟨result, rfl, holds⟩ := first
  exact rest result holds

/-- A program whose result is known. -/
theorem runs_bind_some {program : Option σ} {next : σ → Option τ} {result : σ} {post : τ → Prop}
    (returns : program = some result) (rest : Runs (next result) post) :
    Runs (program >>= next) post := by
  rw [returns]
  exact rest

/-! ### Reading and writing -/

theorem getElem?_eq_some_getD {buffer : List α} {i : ℕ} (inside : i < buffer.length) (other : α) :
    buffer[i]? = some (buffer.getD i other) := by
  rw [List.getD_eq_getElem?_getD, List.getElem?_eq_getElem inside, Option.getD_some]

/-- Write a cell. -/
def write (buffer : List α) (i : ℕ) (value : α) : Option (List α) :=
  if i < buffer.length then some (buffer.set i value) else none

theorem write_of_lt {buffer : List α} {i : ℕ} {value : α} (inside : i < buffer.length) :
    write buffer i value = some (buffer.set i value) :=
  if_pos inside

/-! ### Frames -/

/-- Only the cells from `lo` to `hi` have changed, and there are as many cells as before. -/
structure Frame (lo hi : ℕ) (old new : List α) : Prop where
  length : new.length = old.length
  outside : ∀ i, i < lo ∨ hi ≤ i → new[i]? = old[i]?

namespace Frame

variable {lo hi lo' hi' i : ℕ} {old mid new : List α}

theorem refl (lo hi : ℕ) (buffer : List α) : Frame lo hi buffer buffer := ⟨rfl, fun _ _ => rfl⟩

theorem trans (first : Frame lo hi old mid) (second : Frame lo hi mid new) :
    Frame lo hi old new where
  length := second.length.trans first.length
  outside i out := (second.outside i out).trans (first.outside i out)

theorem mono (frame : Frame lo hi old new) (below : lo' ≤ lo) (above : hi ≤ hi') :
    Frame lo' hi' old new where
  length := frame.length
  outside i out := frame.outside i (out.imp (·.trans_le below) above.trans)

theorem set (frame : Frame lo hi old new) (low : lo ≤ i) (high : i < hi) (value : α) :
    Frame lo hi old (new.set i value) where
  length := List.length_set.trans frame.length
  outside j out := by
    rw [List.getElem?_set_ne (by omega)]
    exact frame.outside j out

/-- Two cells have changed. -/
theorem of_set_set (buffer : List α) (i : ℕ) (first second : α) :
    Frame i (i + 2) buffer ((buffer.set i first).set (i + 1) second) :=
  ((Frame.refl _ _ _).set (Nat.le_refl _) (by omega) _).set (by omega) (by omega) _

/-- **The rule for writing** inside a frame: the cell is there, as the frame has not changed the
length, and the rest goes on in the same frame. -/
theorem runs_write (frame : Frame lo hi old new) (room : hi ≤ old.length) (low : lo ≤ i)
    (high : i < hi) {value : α} {next : List α → Option τ} {post : τ → Prop}
    (rest : Frame lo hi old (new.set i value) → Runs (next (new.set i value)) post) :
    Runs (write new i value >>= next) post := by
  have inside : i < new.length := by
    rw [frame.length]
    omega
  exact runs_bind_some (write_of_lt inside) (rest (frame.set low high value))

end Frame

/-! ### Stretches -/

/-- The cells from `base` on hold `x 0`, …, `x (n - 1)`. -/
def Holds (buffer : List α) (base n : ℕ) (x : ℕ → α) : Prop :=
  ∀ i < n, buffer[base + i]? = some (x i)

namespace Holds

variable {buffer old new : List α} {base n lo hi : ℕ} {x : ℕ → α}

theorem zero : Holds buffer base 0 x := fun _ less => absurd less (Nat.not_lt_zero _)

theorem of_frame (holds : Holds old base n x) (frame : Frame lo hi old new)
    (apart : base + n ≤ lo ∨ hi ≤ base) : Holds new base n x := by
  intro i less
  rw [frame.outside (base + i) (by omega)]
  exact holds i less

theorem mono (holds : Holds buffer base n x) {m : ℕ} (le : m ≤ n) : Holds buffer base m x :=
  fun i less => holds i (less.trans_le le)

/-- What a buffer has in it. -/
theorem getD (other : α) (inside : n ≤ buffer.length) :
    Holds buffer 0 n fun i => buffer.getD i other := fun i less => by
  rw [Nat.zero_add]
  exact getElem?_eq_some_getD (by omega) other

/-- One more cell. -/
theorem set_next (holds : Holds buffer base n x) (inside : base + n < buffer.length) :
    Holds (buffer.set (base + n) (x n)) base (n + 1) x := by
  intro i less
  obtain earlier | rfl := Nat.lt_succ_iff_lt_or_eq.mp less
  · rw [List.getElem?_set_ne (by omega)]
    exact holds i earlier
  · exact List.getElem?_set_self inside

end Holds

/-- The cells from `base` on hold the two halves of `z 0`, …, `z (n - 1)`. -/
def HoldsPairs (buffer : List α) (base n : ℕ) (z : ℕ → α × α) : Prop :=
  ∀ k < n, buffer[base + 2 * k]? = some (z k).1 ∧ buffer[base + (2 * k + 1)]? = some (z k).2

namespace HoldsPairs

variable {buffer old new : List α} {base n lo hi : ℕ} {z : ℕ → α × α}

theorem zero : HoldsPairs buffer base 0 z := fun _ less => absurd less (Nat.not_lt_zero _)

theorem of_frame (holds : HoldsPairs old base n z) (frame : Frame lo hi old new)
    (apart : base + 2 * n ≤ lo ∨ hi ≤ base) : HoldsPairs new base n z := by
  intro k less
  rw [frame.outside (base + 2 * k) (by omega), frame.outside (base + (2 * k + 1)) (by omega)]
  exact holds k less

/-- One more pair. -/
theorem set_next (holds : HoldsPairs buffer base n z)
    (inside : base + (2 * n + 1) < buffer.length) :
    HoldsPairs ((buffer.set (base + 2 * n) (z n).1).set (base + (2 * n + 1)) (z n).2) base
      (n + 1) z := by
  intro k less
  obtain earlier | rfl := Nat.lt_succ_iff_lt_or_eq.mp less
  · exact holds.of_frame (.of_set_set _ _ _ _) (by omega) k earlier
  · rw [List.getElem?_set_ne (by omega), List.getElem?_set_self (by omega),
      List.getElem?_set_self (by rw [List.length_set]; omega)]
    exact ⟨rfl, rfl⟩

/-- Two stretches, one after the other. -/
theorem append {m : ℕ} (holds : HoldsPairs buffer base n z)
    (behind : HoldsPairs buffer (base + 2 * n) m fun k => z (k + n)) :
    HoldsPairs buffer base (n + m) z := by
  intro k less
  by_cases early : k < n
  · exact holds k early
  · obtain ⟨j, rfl⟩ := Nat.exists_eq_add_of_le' (Nat.not_lt.mp early)
    rw [show base + 2 * (j + n) = base + 2 * n + 2 * j by omega,
      show base + (2 * (j + n) + 1) = base + 2 * n + (2 * j + 1) by omega]
    exact behind j (by omega)

end HoldsPairs

/-! ### Loops -/

/-- `for (i = 0; i < n; i++)`. -/
def loop (n : ℕ) (body : ℕ → σ → Option σ) (s : σ) : Option σ :=
  (List.range n).foldlM (fun s i => body i s) s

theorem loop_succ (n : ℕ) (body : ℕ → σ → Option σ) (s : σ) :
    loop (n + 1) body s = loop n body s >>= body n := by
  rw [loop, List.range_succ, List.foldlM_append]
  exact congrArg _ (funext fun t => bind_pure (body n t))

/-- **The rule for loops.** The invariant is about the number of iterations that are done, so at
the end it speaks of all of them. -/
theorem runs_loop {n : ℕ} {body : ℕ → σ → Option σ} {s : σ} (inv : ℕ → σ → Prop)
    (start : inv 0 s) (step : ∀ i < n, ∀ s, inv i s → Runs (body i s) (inv (i + 1))) :
    Runs (loop n body s) (inv n) := by
  induction n with
  | zero => exact runs_some start
  | succ n ih =>
      rw [loop_succ]
      exact runs_bind (ih fun i less => step i (less.trans (Nat.lt_succ_self n)))
        (step n (Nat.lt_succ_self n))

/-- `for (i = 0; i < n; i++) buffer[base + i] = value;`, where the value may be read from the
buffer. -/
def fill (base n : ℕ) (value : ℕ → List α → Option α) (buffer : List α) : Option (List α) :=
  loop n (fun i buffer => value i buffer >>= write buffer (base + i)) buffer

/-- **The rule for filling.** A value may be read from the buffer, as long as it does not depend on
the cells that were filled before it. -/
theorem runs_fill {base n : ℕ} {value : ℕ → List α → Option α} {buffer : List α} {x : ℕ → α}
    (room : base + n ≤ buffer.length)
    (values : ∀ i < n, ∀ filled, Frame base (base + i) buffer filled →
      value i filled = some (x i)) :
    Runs (fill base n value buffer) fun filled =>
      Frame base (base + n) buffer filled ∧ Holds filled base n x := by
  refine runs_loop (fun i filled => Frame base (base + i) buffer filled ∧ Holds filled base i x)
    ⟨.refl _ _ _, .zero⟩ ?_
  rintro i less filled ⟨frame, holds⟩
  have inside : base + i < filled.length := by
    rw [frame.length]
    omega
  refine runs_bind_some (values i less filled frame) ⟨_, write_of_lt inside, ?_, ?_⟩
  · exact (frame.mono le_rfl (by omega)).set (by omega) (by omega) _
  · exact holds.set_next inside

/-- `for (i = 0; i < n; i++) results.push_back(program(i));`. -/
def collect (n : ℕ) (program : ℕ → Option α) : Option (List α) :=
  loop n (fun i results => do return results ++ [← program i]) []

/-- **The rule for collecting.** The results of the iterations stand in their order, as each of
them promises. -/
theorem runs_collect {n : ℕ} {program : ℕ → Option α} {post : ℕ → α → Prop}
    (each : ∀ i < n, Runs (program i) (post i)) :
    Runs (collect n program) fun results => results.length = n ∧
      ∀ i < n, ∃ result, results[i]? = some result ∧ post i result := by
  refine runs_loop (fun k (results : List α) => results.length = k ∧
    ∀ i < k, ∃ result, results[i]? = some result ∧ post i result)
    ⟨rfl, fun _ less => absurd less (Nat.not_lt_zero _)⟩ ?_
  rintro k less results ⟨rfl, earlier⟩
  refine runs_bind (each _ less) fun result holds => ⟨_, rfl, List.length_append, ?_⟩
  intro i before
  obtain before | rfl := Nat.lt_succ_iff_lt_or_eq.mp before
  · rw [List.getElem?_append_left before]
    exact earlier i before
  · exact ⟨result, List.getElem?_concat_length, holds⟩

/-- A program whose first step fails. -/
theorem bind_eq_none {program : Option σ} {next : σ → Option τ}
    (fails : ∀ result, program = some result → next result = none) : program >>= next = none := by
  cases program with
  | none => rfl
  | some result => exact fails result rfl

/-- Filling fails if its first value does. -/
theorem fill_eq_none {base n : ℕ} {value : ℕ → List α → Option α} {buffer : List α}
    (some : 0 < n) (fails : value 0 buffer = none) : fill base n value buffer = none := by
  obtain ⟨n, rfl⟩ := Nat.exists_eq_succ_of_ne_zero (Nat.pos_iff_ne_zero.mp some)
  rw [fill, loop, List.range_succ_eq_map, List.foldlM_cons, fails]
  rfl

/-- `for (; i < limit; i += step)`, with the `i` it ends on.  A loop that does not advance never
returns. -/
def stride (limit step : ℕ) (body : ℕ → σ → Option σ) (i : ℕ) (s : σ) : Option (ℕ × σ) :=
  if i < limit then
    if 0 < step then body i s >>= stride limit step body (i + step) else none
  else some (i, s)
termination_by limit - i

/-- **The rule for strided loops.** -/
theorem runs_stride {limit step : ℕ} (positive : 0 < step) {body : ℕ → σ → Option σ}
    (inv : ℕ → σ → Prop)
    (kept : ∀ i < limit, ∀ s, inv i s → Runs (body i s) (inv (i + step))) {i : ℕ} {s : σ}
    (start : inv i s) :
    Runs (stride limit step body i s) fun (j, t) => limit ≤ j ∧ inv j t := by
  induction distance : limit - i using Nat.strongRecOn generalizing i s with
  | ind d ih =>
      rw [stride, if_pos positive]
      split_ifs with goesOn
      · refine runs_bind (kept i goesOn s start) fun t holds => ?_
        exact ih (limit - (i + step)) (by omega) holds rfl
      · exact runs_some ⟨by omega, start⟩

end Memory
