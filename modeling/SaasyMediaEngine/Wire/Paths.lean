import SaasyMediaEngine.Wire.Json

/-!
# Positions in a document

A position is a path through a document: a member of an object, an element of an array.
`Json.at?` is the value there.  The elements of an array are decoded one by one, and the
two lemmas at the end go from a position in the array to what was decoded there, and
back.

Positions exist only because two properties of whole documents, `Wire.Respelling` and
`Wire.Numbers`, compare what stands at the same place of two documents.
-/

namespace Saasy.Wire

open Codec Json

/-- One step down a document: into a member of an object, or to an element of an array. -/
inductive PathStep where
  | member (key : String)
  | element (index : ℕ)

namespace Json

/-- The value at a position, if the document goes that far; a member of an array, or an element of
an object, is nowhere. -/
def at? (json : Json) : List PathStep → Option Json
  | [] => some json
  | .member key :: rest => (json.find? key).bind fun value => value.at? rest
  | .element index :: rest => (json.array?.bind (·[index]?)).bind fun value => value.at? rest

theorem at?_member {json value : Json} {key : String} {rest : List PathStep} :
    json.at? (.member key :: rest) = some value ↔
      ∃ child, json.find? key = some child ∧ child.at? rest = some value :=
  Option.bind_eq_some_iff

theorem at?_leaf {json : Json} {key s : String}
    (found : json.at? [.member key] = some (string s)) : json.member? key string? = some s := by
  obtain ⟨child, hchild, leaf⟩ := at?_member.mp found
  cases leaf
  rw [member?, hchild]
  rfl

theorem at?_element {json value : Json} {index : ℕ} {rest : List PathStep} :
    json.at? (.element index :: rest) = some value ↔
      ∃ elements child, json.array? = some elements ∧ elements[index]? = some child ∧
        child.at? rest = some value := by
  show ((json.array?.bind (·[index]?)).bind fun value => value.at? rest) = some value ↔ _
  rw [Option.bind_eq_some_iff]
  constructor
  · rintro ⟨child, helement, hvalue⟩
    obtain ⟨elements, helements, hchild⟩ := Option.bind_eq_some_iff.mp helement
    exact ⟨elements, child, helements, hchild, hvalue⟩
  · rintro ⟨elements, child, helements, hchild, hvalue⟩
    exact ⟨child, Option.bind_eq_some_iff.mpr ⟨elements, helements, hchild⟩, hvalue⟩

end Json

/-! ### Elements of an accepted array -/

/-- What an element was decoded to. -/
theorem exists_decoded_of_at? {α : Type} {decode : Json → Except String α} {json leaf : Json}
    {key : String} {values : List α} {index : ℕ} {path : List PathStep}
    (decoded : ((json.member? key array?).getD []).mapM decode = .ok values)
    (found : json.at? (.member key :: .element index :: path) = some leaf) :
    ∃ element value, element.at? path = some leaf ∧ decode element = .ok value ∧
      values[index]? = some value := by
  obtain ⟨child, hchild, inside⟩ := Json.at?_member.mp found
  obtain ⟨elements, element, helements, helement, leaf⟩ := Json.at?_element.mp inside
  have read : json.member? key array? = some elements := by
    rw [member?, hchild]
    exact helements
  rw [read] at decoded
  have pairs := mapM_eq_ok_iff.mp decoded
  obtain ⟨bound, rfl⟩ := List.getElem?_eq_some_iff.mp helement
  have bound' : index < values.length := pairs.length_eq ▸ bound
  exact ⟨_, values[index], leaf, pairs.get bound bound', List.getElem?_eq_getElem bound'⟩

/-- What an element was decoded from. -/
theorem exists_element_of_decoded {α : Type} {decode : Json → Except String α} {json : Json}
    {key : String} {values : List α} {index : ℕ} {value : α}
    (decoded : ((json.member? key array?).getD []).mapM decode = .ok values)
    (found : values[index]? = some value) :
    ∃ element, decode element = .ok value ∧
      ∀ path, json.at? (.member key :: .element index :: path) = element.at? path := by
  have pairs := mapM_eq_ok_iff.mp decoded
  obtain ⟨bound', rfl⟩ := List.getElem?_eq_some_iff.mp found
  have bound : index < ((json.member? key array?).getD []).length := pairs.length_eq ▸ bound'
  refine ⟨_, pairs.get bound bound', fun path => ?_⟩
  show (json.find? key).bind (fun child =>
    (child.array?.bind (·[index]?)).bind fun element => element.at? path) = _
  generalize hread : json.member? key array? = read at bound
  cases read with
  | none => cases bound
  | some elements =>
      obtain ⟨child, hchild, helements⟩ := Option.bind_eq_some_iff.mp hread
      have element : elements[index]? = some (elements.get ⟨index, bound⟩) :=
        List.getElem?_eq_getElem bound
      rw [hchild, Option.bind_some, helements, Option.bind_some, element, Option.bind_some]
      rfl

end Saasy.Wire
