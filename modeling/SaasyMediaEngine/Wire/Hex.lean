import Mathlib.Algebra.Group.Int.Defs
import Mathlib.Data.Int.Basic
import Mathlib.Data.List.Induction
import SaasyMediaEngine.Codec.Decoding

/-!
# Fingerprints as hexadecimal strings

`BytesToHexString` and `HexStringToBytes`.  The former writes two digits and a colon
for each byte and drops the last colon; the latter removes all colons, cuts what is
left into pieces of two characters, and hands each to `std::stoi` with base 16.

A `std::string` is its bytes: the cutting does not know about characters, and a
character of two bytes may be cut in half.  `std::stoi` is more generous than two
hexadecimal digits: it skips white space, takes a sign and a prefix `0x`, and stops at
the first character that is not a digit.

Both functions work on the bytes of the string and on nothing else, so everything here is stated
over lists of bytes, and the round trip is by induction on the bytes that are printed: the colons
are removed, each piece consists of the two digits that were printed for its byte, and `std::stoi`
stops at the end of it.
-/

namespace Saasy.Wire

open Codec

/-- The bytes of a string. -/
def stringBytes (s : String) : List UInt8 := s.toList.flatMap String.utf8EncodeChar

/-! ### `std::stoi` with base 16

As the standard describes it: skip blanks, take a sign, take a prefix if a digit follows it, read
digits, and fail if there are none or the number does not fit an `int`. -/

/-- `std::isspace`. -/
def isSpace (c : UInt8) : Bool := c == 0x20 || (0x09 ≤ c && c ≤ 0x0D)

/-- The value of a hexadecimal digit. -/
def hexValue? (c : UInt8) : Option ℕ :=
  if 0x30 ≤ c ∧ c ≤ 0x39 then some (c.toNat - 0x30)
  else if 0x41 ≤ c ∧ c ≤ 0x46 then some (c.toNat - 0x41 + 10)
  else if 0x61 ≤ c ∧ c ≤ 0x66 then some (c.toNat - 0x61 + 10)
  else none

/-- The digits a string starts with. -/
def leadingDigits : List UInt8 → List ℕ
  | [] => []
  | c :: rest =>
      match hexValue? c with
      | some digit => digit :: leadingDigits rest
      | none => []

/-- A sign at the start of a string. -/
def splitSign : List UInt8 → ℤ × List UInt8
  | 0x2D :: rest => (-1, rest)
  | 0x2B :: rest => (1, rest)
  | rest => (1, rest)

/-- A prefix `0x`, which needs a digit behind it. -/
def dropPrefix : List UInt8 → List UInt8
  | 0x30 :: x :: digit :: rest =>
      if (x = 0x78 ∨ x = 0x58) ∧ (hexValue? digit).isSome then digit :: rest
      else 0x30 :: x :: digit :: rest
  | other => other

/-- The number a list of digits denotes. -/
def ofDigits (digits : List ℕ) : ℕ := digits.foldl (fun number digit => 16 * number + digit) 0

/-- `std::stoi(s, nullptr, 16)`; both of its exceptions say `stoi`.  It skips blanks, takes a sign
and a prefix, and reads digits up to where they end. -/
def stoi (s : List UInt8) : Except String ℤ :=
  match splitSign (s.dropWhile isSpace) with
  | (sign, rest) =>
      match leadingDigits (dropPrefix rest) with
      | [] => .error "stoi"
      | digits =>
          if -2 ^ 31 ≤ sign * ofDigits digits ∧ sign * ofDigits digits < 2 ^ 31 then
            .ok (sign * ofDigits digits)
          else .error "stoi"

/-! ### The two converters -/

/-- The loop of `HexStringToBytes`. -/
def hexPairsToBytes : List UInt8 → Except String (List UInt8)
  | [] => .ok []
  | [c] => do
      let byte ← stoi [c]
      return [UInt8.ofInt byte]
  | c :: d :: rest => do
      let byte ← stoi [c, d]
      let bytes ← hexPairsToBytes rest
      return UInt8.ofInt byte :: bytes

/-- `HexStringToBytes`. -/
def hexStringToBytes (hex : String) : Except String (List UInt8) :=
  hexPairsToBytes ((stringBytes hex).filter (· ≠ 0x3A))

/-- A digit of the format `%X`. -/
def upperHexDigit (digit : ℕ) : Char :=
  if digit < 10 then Char.ofNat (0x30 + digit) else Char.ofNat (0x41 + (digit - 10))

/-- The format `%02X`, at a byte. -/
def hexPair (c : UInt8) : List Char := [upperHexDigit (c.toNat / 16), upperHexDigit (c.toNat % 16)]

/-- `BytesToHexString`. -/
def bytesToHexString (bytes : List UInt8) : String :=
  String.ofList (bytes.flatMap fun c => hexPair c ++ [':']).dropLast

/-! ### A byte as two digits

What was printed is read again: the two digits of a byte are no blanks, signs or colons, and their
number is the byte. -/

/-- What is needed of a digit that was printed: it is one byte, a hexadecimal digit of the
value it was printed for, and nothing else `std::stoi` looks for. -/
structure PrintsDigit (digit : ℕ) (c : UInt8) : Prop where
  encoded : String.utf8EncodeChar (upperHexDigit digit) = [c]
  value : hexValue? c = some digit
  not_space : isSpace c = false
  not_sign : c ≠ 0x2D ∧ c ≠ 0x2B
  not_colon : c ≠ 0x3A

theorem exists_printsDigit : ∀ digit < 16, ∃ c, PrintsDigit digit c := by
  intro digit small
  refine ⟨if digit < 10 then UInt8.ofNat (0x30 + digit) else UInt8.ofNat (0x41 + (digit - 10)),
    ?_, ?_, ?_, ?_, ?_⟩ <;> decide +revert

theorem splitSign_of_ne {c : UInt8} (not_sign : c ≠ 0x2D ∧ c ≠ 0x2B) (rest : List UInt8) :
    splitSign (c :: rest) = (1, c :: rest) := by
  unfold splitSign
  split
  · next h => exact absurd (List.cons.inj h).1 not_sign.1
  · next h => exact absurd (List.cons.inj h).1 not_sign.2
  · rfl

/-- Two digits are read as the number they denote. -/
theorem stoi_pair {high low : ℕ} (hhigh : high < 16) (hlow : low < 16) {c d : UInt8}
    (first : hexValue? c = some high) (second : hexValue? d = some low)
    (not_space : isSpace c = false) (not_sign : c ≠ 0x2D ∧ c ≠ 0x2B) :
    stoi [c, d] = .ok (16 * high + low : ℕ) := by
  have trimmed : [c, d].dropWhile isSpace = [c, d] := by
    rw [List.dropWhile_cons, not_space]
    rfl
  have digits : leadingDigits (dropPrefix [c, d]) = [high, low] := by
    have kept : dropPrefix [c, d] = [c, d] := by simp [dropPrefix]
    rw [kept]
    simp [leadingDigits, first, second]
  unfold stoi
  rw [trimmed, splitSign_of_ne not_sign]
  dsimp only
  rw [digits]
  have number : ofDigits [high, low] = 16 * high + low := by simp [ofDigits]
  dsimp only
  rw [number, Int.one_mul, if_pos]
  constructor <;> omega

/-! ### The round trip -/

/-- The bytes a byte is printed as, without the colon. -/
def pairBytes (c : UInt8) : List UInt8 := (hexPair c).flatMap String.utf8EncodeChar

theorem pairBytes_eq (c : UInt8) : ∃ d e, pairBytes c = [d, e] ∧
    PrintsDigit (c.toNat / 16) d ∧ PrintsDigit (c.toNat % 16) e := by
  have bound := c.toNat_lt
  obtain ⟨d, hd⟩ := exists_printsDigit (c.toNat / 16) (by omega)
  obtain ⟨e, he⟩ := exists_printsDigit (c.toNat % 16) (by omega)
  refine ⟨d, e, ?_, hd, he⟩
  simp [pairBytes, hexPair, hd.encoded, he.encoded]

/-- With the colons removed, what is left are the digits of the bytes. -/
theorem filter_stringBytes_bytesToHexString (bytes : List UInt8) :
    (stringBytes (bytesToHexString bytes)).filter (· ≠ 0x3A) = bytes.flatMap pairBytes := by
  -- a byte contributes its digits, whether its colon is written or not
  have pair : ∀ c, (pairBytes c).filter (· ≠ 0x3A) = pairBytes c := by
    intro c
    obtain ⟨d, e, hpair, hd, he⟩ := pairBytes_eq c
    rw [hpair]
    simp [hd.not_colon, he.not_colon]
  have written : ∀ front : List UInt8,
      ((front.flatMap fun c => hexPair c ++ [':']).flatMap String.utf8EncodeChar).filter
        (· ≠ 0x3A) = front.flatMap pairBytes := by
    intro front
    induction front with
    | nil => rfl
    | cons c rest ih =>
        have colon : (String.utf8EncodeChar ':').filter (· ≠ 0x3A) = [] := by decide
        have digits : ((hexPair c ++ [':']).flatMap String.utf8EncodeChar).filter (· ≠ 0x3A) =
            pairBytes c := by
          rw [List.flatMap_append, List.filter_append, List.flatMap_singleton, colon,
            List.append_nil]
          exact pair c
        rw [List.flatMap_cons, List.flatMap_append, List.filter_append, ih, digits,
          List.flatMap_cons]
  unfold stringBytes bytesToHexString
  rw [String.toList_ofList]
  induction bytes using List.reverseRecOn with
  | nil => rfl
  | append_singleton front last _ =>
      rw [List.flatMap_append, List.flatMap_singleton, ← List.append_assoc, List.dropLast_concat,
        List.flatMap_append, List.filter_append, written, List.flatMap_append,
        List.flatMap_singleton]
      congr 1
      exact pair last

theorem hexPairsToBytes_flatMap (bytes : List UInt8) :
    hexPairsToBytes (bytes.flatMap pairBytes) = .ok bytes := by
  induction bytes with
  | nil => rfl
  | cons c rest ih =>
      obtain ⟨d, e, pair, hd, he⟩ := pairBytes_eq c
      have bound := c.toNat_lt
      have number : 16 * (c.toNat / 16) + c.toNat % 16 = c.toNat := Nat.div_add_mod _ _
      rw [List.flatMap_cons, pair]
      show (stoi [d, e] >>= fun byte => hexPairsToBytes (rest.flatMap pairBytes) >>= fun bytes =>
        pure (UInt8.ofInt byte :: bytes)) = .ok (c :: rest)
      rw [stoi_pair (by omega) (by omega) hd.value he.value hd.not_space hd.not_sign, ih, number]
      show Except.ok (UInt8.ofInt (c.toNat : ℤ) :: rest) = .ok (c :: rest)
      rw [UInt8.ofInt, Int.emod_eq_of_lt (by omega) (by omega), Int.toNat_natCast,
        UInt8.ofNat_toNat]

/-- **A byte string survives being printed in hexadecimal.** The colons between the pairs are gone
before the string is read. -/
theorem hexStringToBytes_bytesToHexString (bytes : List UInt8) :
    hexStringToBytes (bytesToHexString bytes) = .ok bytes := by
  rw [hexStringToBytes, filter_stringBytes_bytesToHexString, hexPairsToBytes_flatMap]

example : bytesToHexString [0x0A, 0xFF] = "0A:FF" := by decide

example : hexStringToBytes "+7: f:0xf" = .ok [7, 15, 0, 15] := by decide

end Saasy.Wire
