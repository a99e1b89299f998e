import SaasyMediaEngine.Codec.Decoding
import SaasyMediaEngine.Codec.Naming
import SaasyMediaEngine.Codec.SortedMap

/-!
# Documents that are written as they were read

A decoder may accept more documents than its encoder writes.  `Settles` says that one round is
enough: what is written for an accepted document is accepted, and is written again as it is.

`Tidying` is how a round trip shows it.  A value that was read need not be one that survives the
round trip; `tidy` turns it into one that does and is written alike.

It is the companion of `Restores`: there a value survives the document, here a document survives
the value, from the second time on.  The second is what a peer cares about that reads, stores and
sends again, as it says that it will not change a document for ever.
-/

namespace Codec

universe u v w

variable {Failure : Type u} {α β : Type v}

/-- **What is written for an accepted document is a normal form**: it is accepted in its turn, and
what is written for that is the same. -/
def Settles (encode : β → α) (decode : α → Except Failure β) : Prop :=
  ∀ document value, decode document = .ok value →
    ∃ settled, decode (encode value) = .ok settled ∧ encode settled = encode value

/-- How values that were read are made ready for a round trip: the tidy value is valid, and nothing
of what is written for it has changed. -/
structure Tidying (encode : β → α) (decode : α → Except Failure β) (canonical : β → β)
    (Valid : β → Prop) where
  tidy : β → β
  valid : ∀ {document value}, decode document = .ok value → Valid (tidy value)
  encode_tidy : ∀ value, encode (tidy value) = encode value
  encode_canonical : ∀ {value}, Valid value → encode (canonical value) = encode value

namespace Tidying

variable {encode : β → α} {decode : α → Except Failure β} {canonical : β → β} {Valid : β → Prop}

theorem settles (tidying : Tidying encode decode canonical Valid)
    (restores : Restores encode decode canonical Valid) : Settles encode decode := by
  intro document value accepted
  have valid := tidying.valid accepted
  refine ⟨canonical (tidying.tidy value), ?_, ?_⟩
  · rw [← tidying.encode_tidy]
    exact restores _ valid
  · rw [tidying.encode_canonical valid, tidying.encode_tidy]

/-- **The elements of a list**, one by one. -/
def list (tidying : Tidying encode decode canonical Valid) :
    Tidying (List.map encode) (List.mapM decode) (List.map canonical)
      (fun values => ∀ value ∈ values, Valid value) where
  tidy := List.map tidying.tidy
  valid accepted := by
    intro value mem
    obtain ⟨read, hread, rfl⟩ := List.mem_map.mp mem
    have each := mapM_eq_ok_iff.mp accepted
    clear mem accepted
    induction each with
    | nil => cases hread
    | cons first _ ih =>
        obtain rfl | later := List.mem_cons.mp hread
        · exact tidying.valid first
        · exact ih later
  encode_tidy values := by
    rw [List.map_map]
    exact List.map_congr_left fun value _ => tidying.encode_tidy value
  encode_canonical valid := by
    rw [List.map_map]
    exact List.map_congr_left fun value mem => tidying.encode_canonical (valid value mem)

end Tidying

/-- What holds of the values of a table and of the fallback holds of what is read. -/
theorem Naming.forall_read {Name : Type u} {Value : Type w} [DecidableEq Name]
    (naming : Naming Name Value) (P : Value → Prop)
    (known : ∀ entry ∈ naming.table, P entry.2) (unknown : P naming.fallback) (name : Name) :
    P (naming.read name) := by
  unfold read
  cases found : naming.table.lookup name with
  | none => exact unknown
  | some value =>
      obtain ⟨front, back, split, -⟩ := List.lookup_eq_some_iff.mp found
      exact known (name, value) (split ▸ List.mem_append_right _ List.mem_cons_self)

/-- The value that is read for what is printed. -/
def Naming.settle {Name : Type u} {Value : Type w} [DecidableEq Name]
    (naming : Naming Name Value) (value : Value) : Value := naming.read (naming.print value)

namespace SortedMap

variable {κ : Type u} {γ : Type w} [LinearOrder κ]

theorem ordered_ofList (entries : List (κ × γ)) : Ordered (ofList entries) := by
  induction entries using List.reverseRecOn with
  | nil => exact List.Pairwise.nil
  | append_singleton front last ih =>
      rw [ofList, List.foldl_append]
      exact Ordered.insert ih last.1 last.2

/-- A map holds no entry that was not written. -/
theorem mem_of_mem_ofList {entries : List (κ × γ)} {entry : κ × γ}
    (mem : entry ∈ ofList entries) : entry ∈ entries := by
  induction entries using List.reverseRecOn with
  | nil => exact mem
  | append_singleton front last ih =>
      rw [ofList, List.foldl_append] at mem
      obtain rfl | old := mem_of_mem_insert mem
      · exact List.mem_append_right _ List.mem_cons_self
      · exact List.mem_append_left _ (ih old)

theorem Ordered.nodup_keys {map : List (κ × γ)} (ordered : Ordered map) :
    (map.map Prod.fst).Nodup := by
  rw [List.Nodup, List.pairwise_map]
  exact List.Pairwise.imp (fun less => less.ne) ordered

/-- **A map is what its entries make**, as they are in order and no key comes twice. -/
theorem Ordered.ofList_eq {map : List (κ × γ)} (ordered : Ordered map) : ofList map = map := by
  rw [ofList_eq_insertionSort ordered.nodup_keys]
  exact List.Pairwise.insertionSort_eq (List.Pairwise.imp (fun less => less.le) ordered)

end SortedMap

end Codec
