import Mathlib.Algebra.Group.Int.Defs
import Mathlib.Data.Rat.Defs
import Mathlib.Data.String.Basic
import SaasyMediaEngine.Codec.Decoding
import SaasyMediaEngine.Codec.SortedMap

/-!
# JSON documents as the converters see them

`nlohmann::json`, as far as `json_proto_converter.cpp` and `proto_json_converter.cpp`
use it.  An object is a `std::map`, hence sorted by key; a number is stored as an
`int64_t`, a `uint64_t` or a `double`, and `get<uint32_t>()` casts whichever it is.

The converters ask for the members of an object in two ways only.  A required member
must be there and of the right type, and what is missing is named in the error; an
optional one is passed over when it is not there or not of the right type.  `member`
and `member?` are these two.

How much of `nlohmann::json` is here is decided by what the converters look at.  They never
compare documents, never iterate over an object but for codec parameters, and never print one, so
there are no positions in a text, no duplicate keys and no limits of depth.  The errors of
`member` are those of the converters, with the name of the message and of the member in them.
-/

namespace Saasy.Wire

open Codec

/-- A `double`: a multiple of a power of two, or none of the numbers.  A number may be written in
several ways here, which no converter can tell apart. -/
inductive Double where
  | finite (mantissa exponent : ℤ)
      (representable : mantissa.natAbs < 2 ^ 53 ∧ -1074 ≤ exponent ∧ exponent ≤ 971)
  | infinity (negative : Bool)
  | nan

namespace Double

/-- The number a double denotes. -/
def value? : Double → Option ℚ
  | finite mantissa exponent _ =>
      some (if 0 ≤ exponent then mantissa * 2 ^ exponent.toNat
        else mantissa / 2 ^ (-exponent).toNat)
  | infinity _ | nan => none

/-- What a conversion yields that the standard leaves undefined: the one of a double
whose integer part is not a `uint32_t`. -/
class UndefinedCast where
  toUInt32 : Double → UInt32

/-- The integer part of a double. -/
def truncate? (x : Double) : Option ℤ := x.value?.map fun value => value.num.tdiv value.den

/-- `static_cast<uint32_t>(double)`, which truncates. -/
def toUInt32 [UndefinedCast] (x : Double) : UInt32 :=
  match x.truncate? with
  | some truncated =>
      if 0 ≤ truncated ∧ truncated < 2 ^ 32 then UInt32.ofInt truncated
      else UndefinedCast.toUInt32 x
  | none => UndefinedCast.toUInt32 x

/-- What x86-64 code does: convert to 64 bits, with `INT64_MIN` for what does not fit, and
keep the lower half. -/
@[reducible]
def x86Cast : UndefinedCast where
  toUInt32 x :=
    match x.truncate? with
    | some truncated =>
        if -2 ^ 63 ≤ truncated ∧ truncated < 2 ^ 63 then UInt32.ofInt truncated else 0
    | none => 0

end Double

/-- A JSON value.  Integers keep the type that the parser has given them, signed or not, and an
object its members in the order of their keys. -/
inductive Json where
  | null
  | boolean (value : Bool)
  | numberInteger (value : Int64)
  | numberUnsigned (value : UInt64)
  | numberFloat (value : Double)
  | string (value : String)
  | array (elements : List Json)
  | object (members : List (String × Json))

namespace Json

/-! ### Types and conversions

`is_…()` and then `get<…>()`, as one reader for each type.  A number is converted as `static_cast`
does it, which for some doubles is undefined and is left to a parameter. -/

def typeName : Json → String
  | null => "null"
  | boolean _ => "boolean"
  | numberInteger _ | numberUnsigned _ | numberFloat _ => "number"
  | string _ => "string"
  | array _ => "array"
  | object _ => "object"

/-- `is_number()` and then `get<uint32_t>()`. -/
def uint32? [Double.UndefinedCast] : Json → Option UInt32
  | numberInteger n => some (UInt32.ofInt n.toInt)
  | numberUnsigned n => some n.toUInt32
  | numberFloat x => some x.toUInt32
  | _ => none

/-- `is_string()` and then `get<std::string>()`. -/
def string? : Json → Option String
  | string s => some s
  | _ => none

/-- `is_boolean()` and then `get<bool>()`. -/
def boolean? : Json → Option Bool
  | boolean b => some b
  | _ => none

/-- `is_array()`, and the elements. -/
def array? : Json → Option (List Json)
  | array elements => some elements
  | _ => none

/-- `is_object()`, and the members in the order of their keys. -/
def object? : Json → Option (List (String × Json))
  | object members => some members
  | _ => none

/-- `get<uint32_t>()` of anything: a boolean passes for a number here. -/
def getUInt32 [Double.UndefinedCast] (json : Json) : Except String UInt32 :=
  match json.uint32?, json.boolean? with
  | some n, _ => .ok n
  | none, some b => .ok (if b then 1 else 0)
  | none, none =>
      .error ("[json.exception.type_error.302] type must be number, but is " ++ json.typeName)

/-! ### Members

A look-up on what is not an object finds nothing, except for `value`, which throws. -/

/-- `contains(key)`, and `operator[]` if it does; on what is not an object `contains` is false. -/
def find? (json : Json) (key : String) : Option Json :=
  match json with
  | object members => members.lookup key
  | _ => none

/-- A member that must be there. -/
def member {α : Type} (message key : String) (read : Json → Option α) (json : Json) :
    Except String α :=
  match (json.find? key).bind read with
  | some value => .ok value
  | none => .error (message ++ " missing required field: " ++ key)

/-- A member that may be there. -/
def member? {α : Type} (key : String) (read : Json → Option α) (json : Json) : Option α :=
  (json.find? key).bind read

/-- `value(key, default)` at a `uint32_t`. -/
def valueUInt32 [Double.UndefinedCast] (key : String) (default : UInt32) (json : Json) :
    Except String UInt32 :=
  match json with
  | object members =>
      match members.lookup key with
      | some value => value.getUInt32
      | none => .ok default
  | _ => .error ("[json.exception.type_error.306] cannot use value() with " ++ json.typeName)

theorem member_eq_ok {α : Type} {message key : String} {read : Json → Option α} {json : Json}
    {value : α} :
    json.member message key read = .ok value ↔ json.member? key read = some value := by
  unfold member member?
  cases (json.find? key).bind read with
  | none => exact ⟨fun h => (by cases h), fun h => (by cases h)⟩
  | some found =>
      exact ⟨fun h => congrArg some (Except.ok.inj h), fun h => congrArg _ (Option.some.inj h)⟩

/-! ### Construction

Objects keep their members in the order of the keys, whatever the order in which they were written.
-/

/-- An object from an initializer list. -/
def ofMembers (members : List (String × Json)) : Json := object (SortedMap.ofList members)

/-- `json[key] = value`, on an object. -/
def set (json : Json) (key : String) (value : Json) : Json :=
  match json with
  | object members => object (SortedMap.insert key value members)
  | other => other

/-- An object, member by member; nothing is written for a field that is not set. -/
def ofOptionalMembers (members : List (String × Option Json)) : Json :=
  object (members.foldl (fun written member =>
    match member.2 with
    | some value => SortedMap.insert member.1 value written
    | none => written) [])

/-- A `uint32_t` as a JSON value. -/
def uint32 (n : UInt32) : Json := numberUnsigned n.toUInt64

/-! ### Reading what was written -/

theorem find?_ofMembers (members : List (String × Json)) (key : String) :
    (ofMembers members).find? key = members.reverse.lookup key :=
  SortedMap.lookup_ofList members key

theorem find?_ofOptionalMembers {members : List (String × Option Json)}
    (distinct : (members.map Prod.fst).Nodup) (key : String) :
    (ofOptionalMembers members).find? key = (members.lookup key).join := by
  -- what is read after some of the members are written
  have general : ∀ (rest : List (String × Option Json)) (written : List (String × Json)),
      (rest.map Prod.fst).Nodup → (∀ member ∈ rest, written.lookup member.1 = none) →
      (rest.foldl (fun written member =>
        match member.2 with
        | some value => SortedMap.insert member.1 value written
        | none => written) written).lookup key =
        ((rest.lookup key).join).or (written.lookup key) := by
    intro rest
    induction rest with
    | nil => exact fun written _ _ => rfl
    | cons member rest ih =>
        obtain ⟨k, v⟩ := member
        intro written distinct new
        rw [List.map_cons, List.nodup_cons] at distinct
        rw [List.forall_mem_cons] at new
        obtain ⟨fresh, distinct⟩ := distinct
        obtain ⟨here, later⟩ := new
        have others : ∀ member ∈ rest, member.1 ≠ k := fun member hmember same =>
          fresh (List.mem_map.mpr ⟨member, hmember, same⟩)
        have absent : rest.lookup k = none := List.lookup_eq_none_iff.mpr fun member hmember =>
          bne_iff_ne.mpr (others member hmember).symm
        rw [List.foldl_cons, SortedMap.lookup_cons_eq]
        cases v with
        | none =>
            refine (ih written distinct later).trans ?_
            by_cases same : key = k
            · simp [same, absent, here]
            · simp [same]
        | some value =>
            have written' := ih (SortedMap.insert k value written) distinct
            refine (written' fun member hmember => ?_).trans ?_
            · rw [SortedMap.lookup_insert, if_neg (others member hmember), later member hmember]
            · rw [SortedMap.lookup_insert]
              by_cases same : key = k
              · simp [same, absent]
              · simp [same]
  have read := general members [] distinct fun _ _ => rfl
  rw [List.lookup_nil, Option.or_none] at read
  exact read

end Json

end Saasy.Wire
