import Mathlib.Data.List.Induction
import Mathlib.Data.List.Nodup
import Mathlib.Data.List.Sort

/-!
# Maps as key-sorted lists

An ordered map, written as the list its iterator walks through: entries in the order
of their keys.  It is a plain list, so that an inductive type can have maps of itself
among its constructors; what keeps the list sorted is that it is built by `insert`
alone.

* `lookup_insert` — reading after writing.
* `ofList` — writing the entries of a list, one after the other.
* `ofList_eq_insertionSort` — of a list with distinct keys that leaves the list itself,
  sorted by key: an ordered map forgets the order of insertion, and nothing else.

Keys are compared with `<` of a linear order; for `std::string` that is the order of the bytes.
`insert` replaces the value of a key that is there, as `operator[]` does.
-/

namespace Codec.SortedMap

universe u v

variable {κ : Type u} {α : Type v} [LinearOrder κ]

/-- Write `value` under `key`, in the place that the order of the keys gives it; what was there
under this key is replaced. -/
def insert (key : κ) (value : α) : List (κ × α) → List (κ × α)
  | [] => [(key, value)]
  | (k, v) :: rest =>
      if key < k then (key, value) :: (k, v) :: rest
      else if key = k then (key, value) :: rest
      else (k, v) :: insert key value rest

/-- Write all entries of a list, a later one replacing an earlier one. -/
def ofList (entries : List (κ × α)) : List (κ × α) :=
  entries.foldl (fun map entry => insert entry.1 entry.2 map) []

/-! ### Reading -/

omit [LinearOrder κ] in
theorem lookup_cons_eq [DecidableEq κ] (key k : κ) (v : α) (rest : List (κ × α)) :
    ((k, v) :: rest).lookup key = if key = k then some v else rest.lookup key := by
  by_cases same : key = k
  · rw [same, List.lookup_cons_self, if_pos rfl]
  · rw [List.lookup_cons, beq_false_of_ne same, if_neg same]

theorem lookup_insert (key key' : κ) (value : α) (map : List (κ × α)) :
    (insert key value map).lookup key' = if key' = key then some value else map.lookup key' := by
  induction map with
  | nil => exact lookup_cons_eq key' key value []
  | cons entry rest ih =>
      obtain ⟨k, v⟩ := entry
      unfold insert
      by_cases less : key < k
      · rw [if_pos less, lookup_cons_eq]
      · rw [if_neg less]
        by_cases equal : key = k
        · rw [if_pos equal, lookup_cons_eq, lookup_cons_eq, ← equal]
          split_ifs <;> rfl
        · rw [if_neg equal, lookup_cons_eq, lookup_cons_eq, ih]
          by_cases same : key' = k
          · rw [if_pos same, if_pos same, if_neg fun clash => equal (clash.symm.trans same)]
          · rw [if_neg same, if_neg same]

theorem mem_insert_self (key : κ) (value : α) (map : List (κ × α)) :
    (key, value) ∈ insert key value map := by
  induction map with
  | nil => exact List.mem_cons_self
  | cons entry rest ih =>
      unfold insert
      split_ifs
      · exact List.mem_cons_self
      · exact List.mem_cons_self
      · exact List.mem_cons_of_mem _ ih

/-- Writing keeps the entries under other keys. -/
theorem mem_insert_of_mem {key : κ} {entry : κ × α} {map : List (κ × α)} (mem : entry ∈ map)
    (other : entry.1 ≠ key) (value : α) : entry ∈ insert key value map := by
  induction map with
  | nil => exact absurd mem List.not_mem_nil
  | cons first rest ih =>
      unfold insert
      split_ifs with less equal
      · exact List.mem_cons_of_mem _ mem
      · obtain rfl | old := List.mem_cons.mp mem
        · exact absurd equal.symm other
        · exact List.mem_cons_of_mem _ old
      · obtain rfl | old := List.mem_cons.mp mem
        · exact List.mem_cons_self
        · exact List.mem_cons_of_mem _ (ih old)

/-- Writing adds no entry but its own. -/
theorem mem_of_mem_insert {key : κ} {value : α} {entry : κ × α} {map : List (κ × α)}
    (mem : entry ∈ insert key value map) : entry = (key, value) ∨ entry ∈ map := by
  induction map with
  | nil => exact .inl (List.mem_singleton.mp mem)
  | cons first rest ih =>
      unfold insert at mem
      split_ifs at mem
      · exact List.mem_cons.mp mem
      · exact (List.mem_cons.mp mem).imp_right (List.mem_cons_of_mem _)
      · obtain rfl | later := List.mem_cons.mp mem
        · exact .inr List.mem_cons_self
        · exact (ih later).imp_right (List.mem_cons_of_mem _)

/-- What was written last is read. -/
theorem lookup_ofList (entries : List (κ × α)) (key : κ) :
    (ofList entries).lookup key = entries.reverse.lookup key := by
  induction entries using List.reverseRecOn with
  | nil => rfl
  | append_singleton front last ih =>
      obtain ⟨k, v⟩ := last
      rw [List.reverse_append, List.reverse_singleton, List.singleton_append, lookup_cons_eq,
        ← ih, ← lookup_insert, ofList, List.foldl_append]
      rfl

/-! ### The order of the entries -/

/-- The order of entries by key. -/
def Before (a b : κ × α) : Prop := a.1 ≤ b.1

instance : DecidableRel (Before (κ := κ) (α := α)) := fun a b =>
  inferInstanceAs (Decidable (a.1 ≤ b.1))

instance : Std.Total (Before (κ := κ) (α := α)) := ⟨fun a b => le_total a.1 b.1⟩

instance : IsTrans (κ × α) Before := ⟨fun _ _ _ => le_trans⟩

/-- In order, no key twice: the maps that writing produces, starting from the empty one. -/
def Ordered (map : List (κ × α)) : Prop := map.Pairwise fun a b => a.1 < b.1

theorem Ordered.insert {map : List (κ × α)} (ordered : Ordered map) (key : κ) (value : α) :
    Ordered (insert key value map) := by
  induction map with
  | nil => exact List.pairwise_singleton _ _
  | cons first rest ih =>
      obtain ⟨before, later⟩ := List.pairwise_cons.mp ordered
      unfold SortedMap.insert
      split_ifs with less equal
      · refine List.pairwise_cons.mpr ⟨fun entry mem => ?_, ordered⟩
        obtain rfl | mem := List.mem_cons.mp mem
        · exact less
        · exact less.trans (before entry mem)
      · exact List.pairwise_cons.mpr ⟨fun entry mem => equal ▸ before entry mem, later⟩
      · refine List.pairwise_cons.mpr ⟨fun entry mem => ?_, ih later⟩
        obtain rfl | mem := mem_of_mem_insert mem
        · exact lt_of_le_of_ne (not_lt.mp less) (Ne.symm equal)
        · exact before entry mem

/-- A new key makes the map longer, a known one does not. -/
theorem Ordered.length_insert {map : List (κ × α)} (ordered : Ordered map) (key : κ) (value : α) :
    (SortedMap.insert key value map).length =
      if map.lookup key = none then map.length + 1 else map.length := by
  induction map with
  | nil => rfl
  | cons first rest ih =>
      obtain ⟨k, v⟩ := first
      obtain ⟨before, later⟩ := List.pairwise_cons.mp ordered
      unfold SortedMap.insert
      rw [lookup_cons_eq]
      by_cases less : key < k
      · have new : rest.lookup key = none := by
          refine List.lookup_eq_none_iff.mpr fun entry mem => ?_
          simpa using (less.trans (before entry mem)).ne
        simp [less, less.ne, new]
      · by_cases equal : key = k
        · simp [equal]
        · rw [if_neg less, if_neg equal, if_neg equal, List.length_cons, ih later,
            List.length_cons]
          split_ifs <;> rfl

/-- Under a new key, `insert` is insertion in order. -/
theorem insert_eq_orderedInsert (key : κ) (value : α) {map : List (κ × α)}
    (new : ∀ entry ∈ map, entry.1 ≠ key) :
    insert key value map = map.orderedInsert Before (key, value) := by
  induction map with
  | nil => rfl
  | cons entry rest ih =>
      obtain ⟨k, v⟩ := entry
      rw [List.forall_mem_cons] at new
      obtain ⟨here, later⟩ := new
      unfold insert
      rw [List.orderedInsert_cons, ← ih later]
      by_cases less : key < k
      · rw [if_pos less, if_pos (show Before (key, value) (k, v) from less.le)]
      · have other : ¬ key = k := fun same => here same.symm
        have behind : ¬ Before (key, value) (k, v) := fun le => less (lt_of_le_of_ne le other)
        rw [if_neg less, if_neg other, if_neg behind]

/-- Entries with distinct keys are inserted in order, none replacing another. -/
theorem perm_ofList_and_pairwise {entries : List (κ × α)}
    (distinct : (entries.map Prod.fst).Nodup) :
    (ofList entries).Perm entries ∧ (ofList entries).Pairwise Before := by
  induction entries using List.reverseRecOn with
  | nil => exact ⟨.nil, .nil⟩
  | append_singleton front last ih =>
      rw [List.map_append, List.map_singleton, ← List.concat_eq_append,
        List.nodup_concat] at distinct
      obtain ⟨fresh, distinct⟩ := distinct
      obtain ⟨perm, sorted⟩ := ih distinct
      have new : ∀ entry ∈ ofList front, entry.1 ≠ last.1 := by
        intro entry hentry same
        exact fresh (same ▸ List.mem_map_of_mem (perm.mem_iff.mp hentry))
      have inserted : ofList (front ++ [last]) = (ofList front).orderedInsert Before last := by
        rw [← insert_eq_orderedInsert last.1 last.2 new, ofList, List.foldl_append]
        rfl
      rw [inserted]
      refine ⟨?_, sorted.orderedInsert last _⟩
      have grown : ((ofList front).orderedInsert Before last).Perm (last :: front) :=
        (List.perm_orderedInsert _ _ _).trans (perm.cons last)
      exact grown.trans (List.perm_append_singleton last front).symm

/-- **An ordered map of entries with distinct keys is the list of them, sorted.** With a key that
occurs twice it would be shorter. -/
theorem ofList_eq_insertionSort {entries : List (κ × α)}
    (distinct : (entries.map Prod.fst).Nodup) :
    ofList entries = entries.insertionSort Before := by
  obtain ⟨perm, inOrder⟩ := perm_ofList_and_pairwise distinct
  have sorted : (entries.insertionSort Before).Perm entries := List.perm_insertionSort _ _
  refine List.Perm.eq_of_pairwise ?_ inOrder (List.pairwise_insertionSort Before entries)
    (perm.trans sorted.symm)
  -- two entries of the list with one key are one entry
  intro a b ha hb le ge
  exact List.inj_on_of_nodup_map distinct (perm.mem_iff.mp ha) (sorted.mem_iff.mp hb)
    (le_antisymm le ge)

end Codec.SortedMap
