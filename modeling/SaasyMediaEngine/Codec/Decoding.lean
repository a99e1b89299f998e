import Mathlib.Data.List.Forall2
import Mathlib.Order.Basic

/-!
# Decoders that may fail

A decoder reads a value off a document and fails with an error otherwise; an encoder
writes the document.  The encoder loses what the document has no place for, so that a
round trip gives a canonical form of the value.  `Restores` says that it does.

Decoders are written as `do` blocks: `bind_eq_ok` takes one apart, `mapM_eq_ok_iff`
takes a loop over a list apart, and `Restores.list` carries a round trip through such
a loop.

A `Restores` has a domain, `Valid`, outside of which nothing is promised, and a canonical form:
`decode (encode x) = canonical x` for the valid `x`.  With `canonical := id` it is a round trip
proper.  The two compose along the structure of a message, so a converter of a large message is
proved from those of its fields and not by evaluating it.
-/

namespace Codec

universe u v w

variable {Failure : Type u} {α β : Type v}

/-- A sequence of two steps succeeds when both do. -/
theorem bind_eq_ok {first : Except Failure α} {next : α → Except Failure β} {b : β} :
    (first >>= next) = .ok b ↔ ∃ a, first = .ok a ∧ next a = .ok b := by
  cases first with
  | error failure =>
      constructor
      · intro h
        cases h
      · rintro ⟨a, h, -⟩
        cases h
  | ok a =>
      constructor
      · intro h
        exact ⟨a, rfl, h⟩
      · rintro ⟨a', h, hnext⟩
        cases h
        exact hnext

@[simp] theorem ok_bind (a : α) (next : α → Except Failure β) :
    ((.ok a : Except Failure α) >>= next) = next a := rfl

@[simp] theorem pure_eq_ok (a : α) : (pure a : Except Failure α) = .ok a := rfl

/-- **A loop over a list succeeds when each of its steps does**, and then its results stand where
what they were made from stands. -/
theorem mapM_eq_ok_iff {decode : α → Except Failure β} {documents : List α} {values : List β} :
    documents.mapM decode = .ok values ↔
      List.Forall₂ (fun document value => decode document = .ok value) documents values := by
  induction documents generalizing values with
  | nil =>
      rw [List.mapM_nil, List.forall₂_nil_left_iff]
      exact ⟨fun h => (Except.ok.inj h).symm, fun h => congrArg _ h.symm⟩
  | cons document rest ih =>
      rw [List.mapM_cons, bind_eq_ok, List.forall₂_cons_left_iff]
      constructor
      · rintro ⟨value, first, hrest⟩
        obtain ⟨others, hothers, h⟩ := bind_eq_ok.mp hrest
        exact ⟨value, others, first, ih.mp hothers, (Except.ok.inj h).symm⟩
      · rintro ⟨value, others, first, hothers, rfl⟩
        exact ⟨value, first, bind_eq_ok.mpr ⟨others, ih.mpr hothers, rfl⟩⟩

/-- A loop over a list fails with the failure of its steps, if they all fail in one way. -/
theorem mapM_eq_error_of_mem {decode : α → Except Failure β} {failure : Failure}
    {documents : List α}
    (one : ∀ document ∈ documents, decode document = .error failure ∨
      ∃ value, decode document = .ok value)
    (fails : ∃ document ∈ documents, decode document = .error failure) :
    documents.mapM decode = .error failure := by
  induction documents with
  | nil =>
      obtain ⟨document, mem, -⟩ := fails
      cases mem
  | cons document rest ih =>
      rw [List.forall_mem_cons] at one
      rw [List.mapM_cons]
      obtain ⟨first | ⟨value, first⟩, others⟩ := one
      · rw [first]
        rfl
      · obtain ⟨failing, mem, fails⟩ := fails
        have later : failing ∈ rest := by
          rcases List.mem_cons.mp mem with same | later
          · rw [same, first] at fails
            cases fails
          · exact later
        rw [first, ok_bind, ih others ⟨failing, later, fails⟩]
        rfl

/-- An optional value that is written if it is there, and read if it was written, comes back with
its presence. -/
theorem bind_map_of_read {α β : Type u} {write : α → β} {read : β → Option α}
    (reads : ∀ a, read (write a) = some a) (value : Option α) :
    (value.map write).bind read = value := by
  cases value with
  | none => rfl
  | some a => exact reads a

/-- Every valid value survives encoding and decoding, up to its canonical form, which is what the
format does not keep. -/
def Restores (encode : β → α) (decode : α → Except Failure β) (canonical : β → β)
    (Valid : β → Prop) : Prop :=
  ∀ value, Valid value → decode (encode value) = .ok (canonical value)

namespace Restores

variable {encode : β → α} {decode : α → Except Failure β} {canonical : β → β}
  {Valid : β → Prop}

/-- **A round trip of the elements is a round trip of the list.** -/
theorem list (restores : Restores encode decode canonical Valid) :
    Restores (List.map encode) (List.mapM decode) (List.map canonical)
      (fun values => ∀ value ∈ values, Valid value) := by
  intro values valid
  rw [mapM_eq_ok_iff, List.forall₂_map_left_iff, List.forall₂_map_right_iff]
  exact List.forall₂_same.mpr fun value hvalue => restores value (valid value hvalue)

end Restores

end Codec
