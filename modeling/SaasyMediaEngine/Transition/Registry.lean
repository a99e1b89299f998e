import Mathlib.Data.List.AList

/-!
# Names and the entries registered under them

A registry maps names to entries, one at a time: an entry is registered under a name
that is free, and removed by that name.  Whoever keeps a reference to an entry keeps
its number, which is never used again, so that "the entry I got" and "the entry that
has this name now" can be told apart.  An entry is live while its name leads to it.

The registry carries the one fact that ties names to numbers: what a name leads to
was registered under it.  Hence no two names lead to one entry, and a removal ends
the life of exactly the entry its name leads to (`isLive_remove`).

`find?` looks a name up, `get?` a number, and `modify` changes an entry whether it is live or not,
since that is what a holder of a stale reference does.  Nothing is removed from the list of
entries, so that statements about an entry that is gone can be made at all.
-/

namespace Transition

universe u v

/-- Entries, numbered in the order of their registration, and where names lead.  An entry stays in
the list when its name leads elsewhere, so its number says for good which one it was. -/
structure Registry (Name : Type u) (Data : Type v) [DecidableEq Name] where
  current : AList fun _ : Name => ℕ
  entries : List (Name × Data)
  registered : ∀ name number, current.lookup name = some number →
    (entries[number]?).map Prod.fst = some name

namespace Registry

variable {Name : Type u} {Data : Type v} [DecidableEq Name]

/-- Nothing is registered, or ever was. -/
def empty : Registry Name Data where
  current := ∅
  entries := []
  registered := nofun

/-- The number of the entry a name leads to. -/
def find? (r : Registry Name Data) (name : Name) : Option ℕ := r.current.lookup name

/-- The data of an entry, live or not. -/
def get? (r : Registry Name Data) (number : ℕ) : Option Data :=
  (r.entries[number]?).map Prod.snd

/-- How many names are taken. -/
def size (r : Registry Name Data) : ℕ := r.current.entries.length

/-- The names that are taken. -/
def names (r : Registry Name Data) : List Name := r.current.keys

/-- Whether the entry's name leads to it.  A name leads to one entry at most, the one that was
registered last. -/
def isLive (r : Registry Name Data) (number : ℕ) : Bool :=
  match r.entries[number]? with
  | some (name, _) => r.find? name == some number
  | none => false

/-- A new entry under a name. -/
def register (r : Registry Name Data) (name : Name) (data : Data) : Registry Name Data where
  current := r.current.insert name r.entries.length
  entries := r.entries ++ [(name, data)]
  registered := by
    intro name' number found
    by_cases same : name' = name
    · subst same
      rw [AList.lookup_insert] at found
      obtain rfl := Option.some.inj found
      simp
    · rw [AList.lookup_insert_ne same] at found
      have old := r.registered name' number found
      obtain ⟨entry, hentry, -⟩ := Option.map_eq_some_iff.mp old
      rw [List.getElem?_append_left (List.getElem?_eq_some_iff.mp hentry).1]
      exact old

/-- The name leads nowhere from now on. -/
def remove (r : Registry Name Data) (name : Name) : Registry Name Data where
  current := r.current.erase name
  entries := r.entries
  registered := by
    intro name' number found
    by_cases same : name' = name
    · rw [same, AList.lookup_erase] at found
      cases found
    · exact r.registered name' number (AList.lookup_erase_ne same ▸ found)

/-- No name leads anywhere. -/
def clear (r : Registry Name Data) : Registry Name Data where
  current := ∅
  entries := r.entries
  registered := nofun

/-- New data for an entry. -/
def modify (r : Registry Name Data) (number : ℕ) (f : Data → Data) : Registry Name Data where
  current := r.current
  entries := r.entries.modify number (Prod.map id f)
  registered := by
    intro name number' found
    rw [List.getElem?_modify, ← r.registered name number' found]
    split_ifs <;> cases r.entries[number']? <;> rfl

variable (r : Registry Name Data) {name name' : Name} {number : ℕ} {data : Data}

/-! ### Where names lead

The lemmas on look-ups after a change: of the name that was changed, and of all others. -/

@[simp] theorem find?_register_self : (r.register name data).find? name = some r.entries.length :=
  AList.lookup_insert _

theorem find?_register_of_ne (ne : name' ≠ name) :
    (r.register name data).find? name' = r.find? name' :=
  AList.lookup_insert_ne ne

@[simp] theorem find?_remove_self : (r.remove name).find? name = none :=
  AList.lookup_erase _ _

theorem find?_remove_of_ne (ne : name' ≠ name) : (r.remove name).find? name' = r.find? name' :=
  AList.lookup_erase_ne ne

/-- After a removal a name leads nowhere new. -/
theorem find?_of_remove (found : (r.remove name).find? name' = some number) :
    r.find? name' = some number := by
  by_cases same : name' = name
  · rw [same, find?_remove_self] at found
    cases found
  · rwa [find?_remove_of_ne r same] at found

/-! ### The names

The names that are taken, without repetition, so that counting them counts the live entries. -/

theorem mem_names : name ∈ r.names ↔ ∃ number, r.find? name = some number := by
  rw [names, ← AList.mem_keys, ← AList.lookup_isSome, Option.isSome_iff_exists]
  rfl

theorem nodup_names : r.names.Nodup := r.current.keys_nodup

@[simp] theorem length_names : r.names.length = r.size := List.length_map _

/-! ### Live entries

An entry is live as long as its name leads to it.  So registering a name that is taken ends the
life of the entry that it led to, and that is why `isLive_register` asks for a free name. -/

theorem isLive_iff : r.isLive number = true ↔
    ∃ name, (r.entries[number]?).map Prod.fst = some name ∧ r.find? name = some number := by
  unfold isLive
  cases hentry : r.entries[number]? with
  | none => simp
  | some entry => simp

theorem isLive_of_find? (found : r.find? name = some number) : r.isLive number = true :=
  r.isLive_iff.mpr ⟨name, r.registered name number found, found⟩

/-- **A removal ends the life of exactly the entry its name leads to.** Whoever had another one in
mind ends a life that is not theirs. -/
theorem isLive_remove : (r.remove name).isLive number = true ↔
    r.isLive number = true ∧ r.find? name ≠ some number := by
  rw [isLive_iff, isLive_iff]
  constructor
  · rintro ⟨name', hentry, found⟩
    have before := r.find?_of_remove found
    refine ⟨⟨name', hentry, before⟩, fun clash => ?_⟩
    -- the two names of the entry are one, which leads nowhere now
    have same : name' = name :=
      Option.some.inj (hentry.symm.trans (r.registered name number clash))
    rw [same, find?_remove_self] at found
    cases found
  · rintro ⟨⟨name', hentry, found⟩, other⟩
    refine ⟨name', hentry, ?_⟩
    rwa [find?_remove_of_ne]
    rintro rfl
    exact other found

/-- A registration under a free name leaves the live entries alive. -/
theorem isLive_register (free : r.find? name = none) (live : r.isLive number = true) :
    (r.register name data).isLive number = true := by
  obtain ⟨name', hentry, found⟩ := r.isLive_iff.mp live
  have ne : name' ≠ name := by
    rintro rfl
    rw [free] at found
    cases found
  exact (r.register name data).isLive_of_find? (by rwa [find?_register_of_ne r ne])

@[simp] theorem isLive_modify (f : Data → Data) {number' : ℕ} :
    (r.modify number' f).isLive number = r.isLive number := by
  have names : ((r.modify number' f).entries[number]?).map Prod.fst =
      (r.entries[number]?).map Prod.fst := by
    show ((r.entries.modify number' (Prod.map id f))[number]?).map Prod.fst = _
    rw [List.getElem?_modify]
    split_ifs <;> cases r.entries[number]? <;> rfl
  rw [Bool.eq_iff_iff, isLive_iff, isLive_iff, names]
  rfl

@[simp] theorem size_clear : r.clear.size = 0 := rfl

@[simp] theorem names_clear : r.clear.names = [] := rfl

theorem size_eq_zero : r.size = 0 ↔ ∀ number, ¬ r.isLive number = true := by
  rw [← length_names, List.length_eq_zero_iff, List.eq_nil_iff_forall_not_mem]
  constructor
  · intro none number live
    obtain ⟨name, -, found⟩ := r.isLive_iff.mp live
    exact none name (r.mem_names.mpr ⟨number, found⟩)
  · intro none name mem
    obtain ⟨number, found⟩ := r.mem_names.mp mem
    exact none number (r.isLive_of_find? found)

/-- A live entry is where its own name leads. -/
theorem find?_of_isLive (live : r.isLive number = true)
    (named : (r.entries[number]?).map Prod.fst = some name) : r.find? name = some number := by
  obtain ⟨name', hentry, found⟩ := r.isLive_iff.mp live
  obtain rfl : name' = name := Option.some.inj (hentry.symm.trans named)
  exact found

end Registry

end Transition
