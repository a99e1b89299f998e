import SaasyMediaEngine.Wire.Hex

/-!
# Which fingerprints are rejected

`HexStringToBytes` hands pieces of two characters to `std::stoi` and takes what it gets.  A
piece is rejected if no number starts in it; whatever follows the number in the piece is
ignored, and so are blanks before it.  So a string is either read as the bytes it spells, or
as other bytes, or rejected, and `printsBack_iff` says when the middle case is excluded.

The question is the converse of `hexStringToBytes_bytesToHexString`: whether a string
that is accepted spells the bytes it is read as.  Strings of pairs of digits do, with or without
colons and in either case of the letters, and so does every string that is rejected, vacuously.
In between are the pieces in which `std::stoi` finds a number without using all of the piece: a
sign, white space, a digit with something else behind it, or a single digit at the end of the
string.  Each of them is accepted, and no such string is printed back.
-/

namespace Saasy.Wire

open Codec

/-- `HexStringToBytes` on a `std::string`, which need not be text. -/
def hexCharsToBytes (hex : List UInt8) : Except String (List UInt8) :=
  hexPairsToBytes (hex.filter (· ≠ 0x3A))

theorem hexStringToBytes_eq (hex : String) :
    hexStringToBytes hex = hexCharsToBytes (stringBytes hex) := rfl

/-- A letter in upper case. -/
def upperByte (c : UInt8) : UInt8 := if 0x61 ≤ c ∧ c ≤ 0x7A then c - 0x20 else c

/-- The bytes are those the string spells, its colons removed and its letter case ignored: printed
again they make that string. -/
def PrintsBack (bytes : List UInt8) (hex : List UInt8) : Prop :=
  ((stringBytes (bytesToHexString bytes)).filter (· ≠ 0x3A)).map upperByte =
    (hex.filter (· ≠ 0x3A)).map upperByte

/-- The pieces of two characters, and the odd one left over, as the loop takes them from the string
without its colons. -/
def pairs : List UInt8 → List (List UInt8)
  | [] => []
  | [c] => [[c]]
  | c :: d :: rest => [c, d] :: pairs rest

def IsHexDigit (c : UInt8) : Prop := (hexValue? c).isSome = true

/-- What `%02X` prints, in either case. -/
def TwoDigits : List UInt8 → Prop
  | [c, d] => IsHexDigit c ∧ IsHexDigit d
  | _ => False

/-- A number starts in the piece: with a digit, or behind one blank or sign. -/
def Readable : List UInt8 → Prop
  | [c] => IsHexDigit c
  | [c, d] => IsHexDigit c ∨ (isSpace c = true ∨ c = 0x2D ∨ c = 0x2B) ∧ IsHexDigit d
  | _ => False

instance (c : UInt8) : Decidable (IsHexDigit c) := inferInstanceAs (Decidable (_ = _))

/-! ### Letters and digits

Facts about single bytes, of which there are 256. -/

/-- There are 256 bytes. -/
theorem forall_byte {motive : UInt8 → Prop} (all : ∀ n < 256, motive (UInt8.ofNat n)) (c : UInt8) :
    motive c := by
  have here := all c.toNat c.toNat_lt
  rwa [UInt8.ofNat_toNat] at here

theorem hexValue?_upperByte (c : UInt8) : hexValue? (upperByte c) = hexValue? c :=
  forall_byte (motive := fun c => hexValue? (upperByte c) = hexValue? c) (by decide +kernel) c

theorem upperByte_upperByte (c : UInt8) : upperByte (upperByte c) = upperByte c :=
  forall_byte (motive := fun c => upperByte (upperByte c) = upperByte c) (by decide +kernel) c

/-- A digit is one number below 16, prints as its own upper case, and is neither a blank nor
a sign. -/
theorem hexDigit_cases {c : UInt8} (digit : IsHexDigit c) :
    ∃ value < 16, hexValue? c = some value ∧
      String.utf8EncodeChar (upperHexDigit value) = [upperByte c] ∧
      isSpace c = false ∧ c ≠ 0x2D ∧ c ≠ 0x2B :=
  forall_byte (motive := fun c => IsHexDigit c → ∃ value < 16, hexValue? c = some value ∧
      String.utf8EncodeChar (upperHexDigit value) = [upperByte c] ∧
      isSpace c = false ∧ c ≠ 0x2D ∧ c ≠ 0x2B) (by decide +kernel) c digit

theorem isHexDigit_of_upperByte {c d : UInt8} (same : upperByte c = upperByte d)
    (digit : IsHexDigit c) : IsHexDigit d := by
  unfold IsHexDigit at *
  rwa [← hexValue?_upperByte, ← same, hexValue?_upperByte]

/-! ### What `std::stoi` makes of a piece

A piece is one or two characters, and there is little in it that can be skipped: a blank, a sign,
or nothing. -/

theorem splitSign_fst (s : List UInt8) : (splitSign s).1 = 1 ∨ (splitSign s).1 = -1 := by
  unfold splitSign
  split <;> simp

theorem dropPrefix_of_short {s : List UInt8} (short : s.length ≤ 2) : dropPrefix s = s := by
  unfold dropPrefix
  split
  · simp at short
  · rfl

/-- Two digits at most denote a number below 256. -/
theorem ofDigits_leadingDigits_lt {s : List UInt8} (short : s.length ≤ 2) :
    ofDigits (leadingDigits s) < 256 := by
  have value_lt : ∀ c value, hexValue? c = some value → value < 16 := by
    intro c value h
    obtain ⟨value', small, h', -⟩ := hexDigit_cases (c := c) (by simp [IsHexDigit, h])
    rw [h] at h'
    cases h'
    exact small
  match s, short with
  | [], _ => decide
  | [c], _ =>
      cases hc : hexValue? c with
      | none => simp [leadingDigits, hc, ofDigits]
      | some x =>
          have := value_lt c x hc
          simp only [leadingDigits, hc, ofDigits, List.foldl_cons, List.foldl_nil]
          omega
  | [c, d], _ =>
      cases hc : hexValue? c with
      | none => simp [leadingDigits, hc, ofDigits]
      | some x =>
          have := value_lt c x hc
          cases hd : hexValue? d with
          | none =>
              simp only [leadingDigits, hc, hd, ofDigits, List.foldl_cons, List.foldl_nil]
              omega
          | some y =>
              have := value_lt d y hd
              simp only [leadingDigits, hc, hd, ofDigits, List.foldl_cons, List.foldl_nil]
              omega

/-- What is left of a piece behind its blanks and its sign. -/
def numberStart (piece : List UInt8) : List UInt8 := (splitSign (piece.dropWhile isSpace)).2

theorem numberStart_nil : numberStart [] = [] := rfl

theorem numberStart_cons (c : UInt8) (rest : List UInt8) :
    numberStart (c :: rest) =
      if isSpace c = true then numberStart rest
      else if c = 0x2D ∨ c = 0x2B then rest
      else c :: rest := by
  unfold numberStart
  split_ifs with blank sign
  · rw [List.dropWhile_cons, if_pos blank]
  · rw [List.dropWhile_cons, if_neg blank]
    obtain rfl | rfl := sign <;> rfl
  · rw [List.dropWhile_cons, if_neg blank, splitSign_of_ne (not_or.mp sign)]

/-- A piece is read if what is left of it starts with a digit. -/
theorem exists_stoi_iff {piece : List UInt8} (short : (numberStart piece).length ≤ 2) :
    (∃ number, stoi piece = .ok number) ↔ ∃ c ∈ (numberStart piece).head?, IsHexDigit c := by
  unfold numberStart stoi at *
  have signs := splitSign_fst (piece.dropWhile isSpace)
  generalize splitSign (piece.dropWhile isSpace) = result at short signs
  obtain ⟨sign, rest⟩ := result
  have small := ofDigits_leadingDigits_lt short
  dsimp only at short signs ⊢
  rw [dropPrefix_of_short short]
  cases rest with
  | nil => simp [leadingDigits]
  | cons c rest =>
      cases hc : hexValue? c with
      | none => simp [leadingDigits, hc, IsHexDigit]
      | some value =>
          have digits : leadingDigits (c :: rest) = value :: leadingDigits rest := by
            simp [leadingDigits, hc]
          rw [digits] at small ⊢
          dsimp only
          rw [if_pos (by obtain rfl | rfl := signs <;> omega)]
          simp [IsHexDigit, hc]

theorem not_isHexDigit_of_isSpace {c : UInt8} (blank : isSpace c = true) : ¬ IsHexDigit c := by
  intro digit
  obtain ⟨-, -, -, -, notBlank, -⟩ := hexDigit_cases digit
  simp [blank] at notBlank

theorem not_isHexDigit_of_sign {c : UInt8} (sign : c = 0x2D ∨ c = 0x2B) : ¬ IsHexDigit c := by
  obtain rfl | rfl := sign <;> decide

theorem exists_stoi_one (c : UInt8) : (∃ number, stoi [c] = .ok number) ↔ IsHexDigit c := by
  have start := numberStart_cons c []
  rw [numberStart_nil] at start
  split_ifs at start with blank sign
  · rw [exists_stoi_iff (by simp [start]), start]
    simpa using not_isHexDigit_of_isSpace blank
  · rw [exists_stoi_iff (by simp [start]), start]
    simpa using not_isHexDigit_of_sign sign
  · rw [exists_stoi_iff (by simp [start]), start]
    simp

theorem exists_stoi_two (c d : UInt8) :
    (∃ number, stoi [c, d] = .ok number) ↔
      IsHexDigit c ∨ (isSpace c = true ∨ c = 0x2D ∨ c = 0x2B) ∧ IsHexDigit d := by
  have start := numberStart_cons c [d]
  split_ifs at start with blank sign
  · -- the blank is skipped, and the rest is a piece of its own
    have single := exists_stoi_one d
    have last := numberStart_cons d []
    rw [numberStart_nil] at last
    have short : (numberStart [d]).length ≤ 2 := by
      rw [last]
      split_ifs <;> simp
    rw [exists_stoi_iff short] at single
    rw [exists_stoi_iff (start ▸ short), start, single]
    simp [blank, not_isHexDigit_of_isSpace blank]
  · rw [exists_stoi_iff (by simp [start]), start]
    simp [sign, not_isHexDigit_of_sign sign]
  · rw [exists_stoi_iff (by simp [start]), start]
    simp [blank, sign]

/-- **Which pieces are read.** A number starts in the piece, and what is behind its digits is not
looked at. -/
theorem exists_stoi_iff_readable {s piece : List UInt8} (mem : piece ∈ pairs s) :
    (∃ number, stoi piece = .ok number) ↔ Readable piece := by
  fun_induction pairs s with
  | case1 => cases mem
  | case2 c =>
      rw [List.mem_singleton.mp mem]
      exact exists_stoi_one c
  | case3 c d rest ih =>
      obtain rfl | mem := List.mem_cons.mp mem
      · exact exists_stoi_two c d
      · exact ih mem

/-- A pair of digits is read as the byte that prints as the pair. -/
theorem pairBytes_of_twoDigits {c d : UInt8} (digits : TwoDigits [c, d]) {number : ℤ}
    (read : stoi [c, d] = .ok number) :
    pairBytes (UInt8.ofInt number) = [upperByte c, upperByte d] := by
  obtain ⟨high, hhigh, chigh, phigh, blank, sign⟩ := hexDigit_cases digits.1
  obtain ⟨low, hlow, clow, plow, -⟩ := hexDigit_cases digits.2
  have value := stoi_pair hhigh hlow chigh clow blank sign
  obtain rfl : number = (16 * high + low : ℕ) := Except.ok.inj (read.symm.trans value)
  have byte : (UInt8.ofInt ((16 * high + low : ℕ) : ℤ)).toNat = 16 * high + low := by
    rw [UInt8.ofInt, Int.emod_eq_of_lt (by omega) (by omega), Int.toNat_natCast,
      UInt8.toNat_ofNat_of_lt' (show 16 * high + low < 2 ^ 8 by omega)]
  have front : (16 * high + low) / 16 = high := by omega
  have back : (16 * high + low) % 16 = low := by omega
  rw [pairBytes, hexPair, byte, front, back]
  simp [phigh, plow]

/-! ### The whole string

The loop reads each piece on its own, so the string is read as what it spells if each piece is. -/

/-- What the loop pushes for a piece. -/
def ReadsAs (piece : List UInt8) (byte : UInt8) : Prop :=
  ∃ number, stoi piece = .ok number ∧ UInt8.ofInt number = byte

/-- **The string is read piece by piece**, two characters at a time whatever they are, and each
piece makes a byte. -/
theorem hexPairsToBytes_eq_ok {s bytes : List UInt8} :
    hexPairsToBytes s = .ok bytes ↔ List.Forall₂ ReadsAs (pairs s) bytes := by
  induction s using pairs.induct generalizing bytes with
  | case1 =>
      simp only [hexPairsToBytes, pairs, List.forall₂_nil_left_iff, Except.ok.injEq]
      exact eq_comm
  | case2 c =>
      simp only [hexPairsToBytes, pairs, ReadsAs, List.forall₂_cons_left_iff,
        List.forall₂_nil_left_iff]
      cases hread : stoi [c] with
      | error message => simp [Bind.bind, Except.bind]
      | ok number =>
          simp only [Bind.bind, Except.bind, pure, Except.pure, Except.ok.injEq]
          constructor
          · rintro rfl
            exact ⟨_, _, ⟨number, rfl, rfl⟩, rfl, rfl⟩
          · rintro ⟨byte, _, ⟨_, rfl, rfl⟩, rfl, rfl⟩
            rfl
  | case3 c d rest ih =>
      simp only [hexPairsToBytes, pairs, ReadsAs, List.forall₂_cons_left_iff]
      cases hread : stoi [c, d] with
      | error message => simp [Bind.bind, Except.bind]
      | ok number =>
          cases hrest : hexPairsToBytes rest with
          | error message =>
              simp only [Bind.bind, Except.bind, reduceCtorEq, false_iff]
              rintro ⟨byte, more, -, later, -⟩
              simp [hrest] at ih
              exact ih later
          | ok more =>
              simp only [Bind.bind, Except.bind, pure, Except.pure, Except.ok.injEq]
              constructor
              · rintro rfl
                exact ⟨_, more, ⟨number, rfl, rfl⟩, ih.mp hrest, rfl⟩
              · rintro ⟨byte, more', ⟨_, rfl, rfl⟩, later, rfl⟩
                obtain rfl : more = more' := Except.ok.inj (hrest.symm.trans (ih.mpr later))
                rfl

/-- **A string is accepted if all its pieces are read.** The first one that is not ends the call
with the exception of `std::stoi`. -/
theorem exists_hexPairsToBytes_iff (s : List UInt8) :
    (∃ bytes, hexPairsToBytes s = .ok bytes) ↔ ∀ piece ∈ pairs s, Readable piece := by
  have pieces : ∀ list : List (List UInt8), (∃ bytes, List.Forall₂ ReadsAs list bytes) ↔
      ∀ piece ∈ list, ∃ number, stoi piece = .ok number := by
    intro list
    induction list with
    | nil => simp
    | cons piece list ih =>
        rw [List.forall_mem_cons, ← ih]
        constructor
        · rintro ⟨_, read⟩
          obtain ⟨byte, bytes, ⟨number, first, -⟩, rest, -⟩ := List.forall₂_cons_left_iff.mp read
          exact ⟨⟨number, first⟩, bytes, rest⟩
        · rintro ⟨⟨number, first⟩, bytes, rest⟩
          exact ⟨UInt8.ofInt number :: bytes, .cons ⟨number, first, rfl⟩ rest⟩
  simp only [hexPairsToBytes_eq_ok, pieces]
  exact forall₂_congr fun piece mem => exists_stoi_iff_readable mem

/-- The bytes spell the string exactly if each of them spells its piece. -/
theorem printsBack_iff_twoDigits {s bytes : List UInt8}
    (read : List.Forall₂ ReadsAs (pairs s) bytes) :
    (bytes.flatMap pairBytes).map upperByte = s.map upperByte ↔
      ∀ piece ∈ pairs s, TwoDigits piece := by
  induction s using pairs.induct generalizing bytes with
  | case1 =>
      obtain rfl := List.forall₂_nil_left_iff.mp read
      simp [pairs]
  | case2 c =>
      -- a byte prints as two digits, and the odd piece has one
      obtain ⟨byte, _, -, empty, rfl⟩ := List.forall₂_cons_left_iff.mp read
      obtain rfl := List.forall₂_nil_left_iff.mp empty
      obtain ⟨x, y, printed, -⟩ := pairBytes_eq byte
      simp [pairs, printed, TwoDigits]
  | case3 c d rest ih =>
      obtain ⟨byte, more, ⟨number, hread, rfl⟩, later, rfl⟩ := List.forall₂_cons_left_iff.mp read
      rw [pairs, List.forall_mem_cons, ← ih later, List.flatMap_cons, List.map_append]
      constructor
      · intro same
        obtain ⟨x, y, printed, hx, hy⟩ := pairBytes_eq (UInt8.ofInt number)
        rw [printed] at same
        simp only [List.map_cons, List.map_nil, List.cons_append, List.nil_append,
          List.cons.injEq] at same
        obtain ⟨first, second, tail⟩ := same
        exact ⟨⟨isHexDigit_of_upperByte first (by simp [IsHexDigit, hx.value]),
          isHexDigit_of_upperByte second (by simp [IsHexDigit, hy.value])⟩, tail⟩
      · rintro ⟨digits, tail⟩
        rw [pairBytes_of_twoDigits digits hread, tail]
        simp [upperByte_upperByte]

/-- **Which strings are rejected or read as what they spell**: those with a piece in which no
number starts, and those made of pairs of digits. -/
theorem printsBack_iff (hex : List UInt8) :
    (∀ bytes, hexCharsToBytes hex = .ok bytes → PrintsBack bytes hex) ↔
      (∃ piece ∈ pairs (hex.filter (· ≠ 0x3A)), ¬ Readable piece) ∨
        ∀ piece ∈ pairs (hex.filter (· ≠ 0x3A)), TwoDigits piece := by
  unfold hexCharsToBytes PrintsBack
  generalize hex.filter (· ≠ 0x3A) = s
  simp only [filter_stringBytes_bytesToHexString]
  constructor
  · intro faithful
    refine or_iff_not_imp_left.mpr fun accepted => ?_
    have readable : ∀ piece ∈ pairs s, Readable piece := fun piece mem =>
      of_not_not fun unread => accepted ⟨piece, mem, unread⟩
    obtain ⟨bytes, read⟩ := (exists_hexPairsToBytes_iff s).mpr readable
    exact (printsBack_iff_twoDigits (hexPairsToBytes_eq_ok.mp read)).mp (faithful bytes read)
  · rintro (⟨piece, mem, unread⟩ | digits) bytes read
    · exact absurd ((exists_hexPairsToBytes_iff s).mp ⟨bytes, read⟩ piece mem) unread
    · exact (printsBack_iff_twoDigits (hexPairsToBytes_eq_ok.mp read)).mpr digits

/-- A sign, a blank, junk behind a digit and a single digit: **seven characters are read as
four bytes they do not spell.** -/
theorem signed_fingerprint_accepted :
    hexCharsToBytes (stringBytes "+7: f:0g:1") = .ok [0x07, 0x0F, 0x00, 0x01] ∧
      bytesToHexString [0x07, 0x0F, 0x00, 0x01] = "07:0F:00:01" ∧
      ¬ PrintsBack [0x07, 0x0F, 0x00, 0x01] (stringBytes "+7: f:0g:1") := by
  refine ⟨by decide +kernel, by decide, ?_⟩
  unfold PrintsBack
  decide +kernel

end Saasy.Wire
