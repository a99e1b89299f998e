import Mathlib.Data.List.Basic
import Mathlib.Tactic.NthRewrite

/-!
# Threads that write to one buffer

Threads that only write to what they share are known by their writes.  `interleave` runs them
in the order a scheduler picks and `scatter` applies the writes.  Where all writes to a cell
agree, the schedule does not matter: `getElem?_scatter_interleave`.

A schedule is a list of thread numbers; a number whose thread is done is passed over, and what is
left when the schedule ends is written then, so every schedule is a complete execution.
-/

namespace Memory

universe u

variable {α ω : Type u}

/-- Apply the writes, each a cell and a value, one after the other; a write outside of the buffer
does nothing. -/
def scatter (buffer : List α) (writes : List (ℕ × α)) : List α :=
  writes.foldl (fun buffer w => buffer.set w.1 w.2) buffer

@[simp] theorem length_scatter (buffer : List α) (writes : List (ℕ × α)) :
    (scatter buffer writes).length = buffer.length := by
  induction writes generalizing buffer with
  | nil => rfl
  | cons w writes ih => exact (ih _).trans List.length_set

/-- A cell that is only ever given one value holds it. -/
theorem getElem?_scatter {writes : List (ℕ × α)} {buffer : List α} {cell : ℕ} {value : α}
    (inside : cell < buffer.length) (agree : ∀ v, (cell, v) ∈ writes → v = value)
    (given : buffer[cell]? = some value ∨ (cell, value) ∈ writes) :
    (scatter buffer writes)[cell]? = some value := by
  induction writes generalizing buffer with
  | nil => exact given.resolve_right List.not_mem_nil
  | cons w writes ih =>
      refine ih (Nat.lt_of_lt_of_eq inside List.length_set.symm)
        (fun v later => agree v (List.mem_cons_of_mem _ later)) ?_
      obtain ⟨i, v⟩ := w
      by_cases hit : i = cell
      · subst hit
        rw [agree v List.mem_cons_self, List.getElem?_set_self inside]
        exact Or.inl rfl
      · rw [List.getElem?_set_ne hit]
        refine given.imp id fun given => (List.mem_cons.mp given).resolve_left ?_
        rintro ⟨⟩
        exact hit rfl

/-- The steps of the threads in the order the scheduler picks; once it stops, each thread that
is left runs to its end.  A thread that has ended cannot be picked. -/
def interleave : List ℕ → List (List ω) → List ω
  | [], threads => threads.flatten
  | t :: schedule, threads =>
      match threads[t]? with
      | some (step :: rest) => step :: interleave schedule (threads.set t rest)
      | _ => interleave schedule threads

/-- One thread goes on: its step, or what is left in all of them. -/
theorem exists_mem_set {threads : List (List ω)} {t : ℕ} {first : ω} {rest : List ω}
    (picked : threads[t]? = some (first :: rest)) (step : ω) :
    (∃ thread ∈ threads, step ∈ thread) ↔
      step = first ∨ ∃ thread ∈ threads.set t rest, step ∈ thread := by
  obtain ⟨inside, here⟩ := List.getElem?_eq_some_iff.mp picked
  have split : threads = threads.take t ++ (first :: rest) :: threads.drop (t + 1) := by
    rw [← here, List.getElem_cons_drop, List.take_append_drop]
  rw [List.set_eq_take_append_cons_drop, if_pos inside]
  nth_rewrite 1 [split]
  simp only [List.mem_append, List.mem_cons, or_and_right, exists_or, exists_eq_left]
  rw [or_assoc, or_left_comm]

theorem mem_interleave (schedule : List ℕ) (threads : List (List ω)) (step : ω) :
    step ∈ interleave schedule threads ↔ ∃ thread ∈ threads, step ∈ thread := by
  induction schedule generalizing threads with
  | nil => exact List.mem_flatten
  | cons t schedule ih =>
      rw [interleave]
      split
      · next first rest picked => rw [List.mem_cons, ih, exists_mem_set picked]
      · exact ih threads

/-- **The schedule does not matter** to a cell that all threads agree on: if somebody writes it, it
holds the value that they agree on. -/
theorem getElem?_scatter_interleave {buffer : List α} {threads : List (List (ℕ × α))} {cell : ℕ}
    {value : α} (inside : cell < buffer.length)
    (agree : ∀ thread ∈ threads, ∀ v, (cell, v) ∈ thread → v = value)
    (given : ∃ thread ∈ threads, (cell, value) ∈ thread) (schedule : List ℕ) :
    (scatter buffer (interleave schedule threads))[cell]? = some value := by
  refine getElem?_scatter inside (fun v written => ?_)
    (Or.inr ((mem_interleave schedule threads _).mpr given))
  obtain ⟨thread, among, written⟩ := (mem_interleave schedule threads _).mp written
  exact agree thread among v written

end Memory
