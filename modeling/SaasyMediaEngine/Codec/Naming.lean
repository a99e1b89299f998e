import Mathlib.Data.List.Basic

/-!
# Values and their names

A format writes the values of an enumeration by name.  A reader looks a name up in a
table and takes a fallback when it is not there; a printer names every value, the
fallback included.  Both are written down separately, and `Naming` carries the fact
that they agree on the table: what a name in the table stands for is printed as that
name.

Then `print_read` says what becomes of *any* name that is read and printed again: a
name in the table stays what it is, and every other one turns into the name of the
fallback.

The point of a table is that it can be decided: `prints` is a statement about finitely many names,
and whoever instantiates `Naming` proves it by evaluation.  The lemmas about all names, those that
are in no table included, are proved here once, for any reader of this shape.
-/

namespace Codec

universe u v

/-- The table of a reader with its fallback, and the printer that goes with it.  The printer is
total and the table need not have all its values, so only the names of the table are known to come
back. -/
structure Naming (Name : Type u) (Value : Type v) where
  table : List (Name × Value)
  fallback : Value
  print : Value → Name
  prints : ∀ entry ∈ table, print entry.2 = entry.1

namespace Naming

variable {Name : Type u} {Value : Type v} [DecidableEq Name] (naming : Naming Name Value)

/-- Look a name up. -/
def read (name : Name) : Value := (naming.table.lookup name).getD naming.fallback

/-- Whether a name is in the table. -/
def Knows (name : Name) : Prop := name ∈ naming.table.map Prod.fst

instance (name : Name) : Decidable (naming.Knows name) :=
  inferInstanceAs (Decidable (name ∈ naming.table.map Prod.fst))

theorem print_read_of_knows {name : Name} (knows : naming.Knows name) :
    naming.print (naming.read name) = name := by
  have found : (naming.table.lookup name).isSome = true := by
    obtain ⟨entry, hentry, same⟩ := List.mem_map.mp knows
    exact List.lookup_isSome_iff.mpr ⟨entry, hentry, beq_iff_eq.mpr same.symm⟩
  obtain ⟨value, hvalue⟩ := Option.isSome_iff_exists.mp found
  obtain ⟨front, back, htable, -⟩ := List.lookup_eq_some_iff.mp hvalue
  rw [read, hvalue, Option.getD_some]
  exact naming.prints (name, value) (htable ▸ List.mem_append_right _ List.mem_cons_self)

theorem read_of_not_knows {name : Name} (unknown : ¬ naming.Knows name) :
    naming.read name = naming.fallback := by
  have absent : naming.table.lookup name = none := by
    rw [List.lookup_eq_none_iff]
    intro entry hentry
    exact bne_iff_ne.mpr fun same => unknown (List.mem_map.mpr ⟨entry, hentry, same.symm⟩)
  rw [read, absent, Option.getD_none]

/-- **What becomes of a name that is read and printed again**: it stays if the table has it, and is
the name of the fallback if not. -/
theorem print_read (name : Name) :
    naming.print (naming.read name) =
      if naming.Knows name then name else naming.print naming.fallback := by
  split_ifs with knows
  · exact naming.print_read_of_knows knows
  · rw [naming.read_of_not_knows knows]

end Naming

end Codec
