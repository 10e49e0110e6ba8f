import HostHealth.Net.PublicKey
import Mathlib.Data.List.Basic

/- Bytes as hexadecimal digits, two for each. What is read are the bytes of the text, so that a sign
   which takes several is refused for the first of them. -/
namespace HostHealth

namespace Text

def IsHexDigit (c : Char) : Prop := c ∈ "0123456789abcdefABCDEF".toList

instance (c : Char) : Decidable (IsHexDigit c) := inferInstanceAs (Decidable (_ ∈ _))

/-- The number that a digit stands for: its place among the digits. -/
def hexPlace (c : Char) : Nat := "0123456789abcdef".toList.idxOf c.toLower

section HexDigits

variable {c : Char}

theorem hex_digit_facts (digit : IsHexDigit c) :
    c.toNat < 128 ∧ hexDigit? c = some (hexPlace c) ∧ hexPlace c < 16 ∧
      hexChar (hexPlace c) = c.toLower := by
  have all : ("0123456789abcdefABCDEF".toList.all fun c =>
      c.toNat < 128 ∧ hexDigit? c = some (hexPlace c) ∧ hexPlace c < 16 ∧
        hexChar (hexPlace c) = c.toLower) = true := by decide
  exact of_decide_eq_true (List.all_eq_true.mp all c digit)

theorem hex_char_facts : ∀ n < 16, IsHexDigit (hexChar n) ∧ hexPlace (hexChar n) = n := by
  decide

theorem hex_digit_of_range {first last : Char} {count : Nat}
    (all : ∀ k < count, IsHexDigit (Char.ofNat (first.toNat + k)))
    (size : last.toNat < first.toNat + count) (inside : first ≤ c ∧ c ≤ last) : IsHexDigit c := by
  have above : first.toNat ≤ c.toNat := inside.1
  have below : c.toNat ≤ last.toNat := inside.2
  have own := all (c.toNat - first.toNat) (by omega)
  rwa [Nat.add_sub_cancel' above, Char.ofNat_toNat] at own

theorem hex_digit_of_other (other : ¬ IsHexDigit c) : hexDigit? c = none := by
  have figures : ∀ k < 10, IsHexDigit (Char.ofNat ('0'.toNat + k)) := by decide
  have letters : ∀ k < 6, IsHexDigit (Char.ofNat ('a'.toNat + k)) := by decide
  have capitals : ∀ k < 6, IsHexDigit (Char.ofNat ('A'.toNat + k)) := by decide
  -- no digit is in any of the three ranges that are tried
  unfold hexDigit?
  rw [if_neg, if_neg, if_neg]
  · exact fun inside => other (hex_digit_of_range capitals (by decide) inside)
  · exact fun inside => other (hex_digit_of_range letters (by decide) inside)
  · exact fun inside => other (hex_digit_of_range figures (by decide) inside)

theorem wide_is_no_digit (wide : 128 ≤ c.toNat) : ¬ IsHexDigit c := by
  intro digit
  have narrow := (hex_digit_facts digit).1
  omega

end HexDigits

end Text

namespace Net

open Text

def IsHexByte (b : UInt8) : Prop := IsHexDigit (Char.ofNat b.toNat)

instance (b : UInt8) : Decidable (IsHexByte b) := inferInstanceAs (Decidable (IsHexDigit _))

def halves (bytes : List UInt8) : List Nat := bytes.flatMap fun b => [b.toNat / 16, b.toNat % 16]

namespace Hex

section Bytes

variable {c : Char} {text : List Char}

theorem utf8_eq_bytes (text : String) : text.toUTF8.data.toList = utf8 text.toList := by
  obtain ⟨chars, rfl⟩ : ∃ chars, text = String.ofList chars := ⟨_, String.ofList_toList.symm⟩
  rw [String.toList_ofList]
  exact List.toList_data_toByteArray

theorem byte_size_eq (text : String) : text.utf8ByteSize = (utf8 text.toList).length := by
  rw [← utf8_eq_bytes]
  rfl

theorem narrow_byte (narrow : c.toNat < 128) :
    String.utf8EncodeChar c = [UInt8.ofNat c.toNat] ∧ (UInt8.ofNat c.toNat).toNat = c.toNat := by
  have code : c.val.toNat = c.toNat := rfl
  constructor
  · unfold String.utf8EncodeChar
    simp only
    rw [if_pos (by omega), code]
  · exact UInt8.toNat_ofNat_of_lt' (Nat.lt_trans narrow (by decide))

theorem wide_bytes (wide : 128 ≤ c.toNat) : ∀ b ∈ String.utf8EncodeChar c, 128 ≤ b.toNat := by
  have code : c.val.toNat = c.toNat := rfl
  unfold String.utf8EncodeChar
  simp only
  repeat' split
  all_goals
    simp
    omega

theorem wide_byte_is_no_digit {b : UInt8} (wide : 128 ≤ b.toNat) : ¬ IsHexByte b := by
  have small : b.toNat < 256 := b.toNat_lt
  have code : (Char.ofNat b.toNat).toNat = b.toNat := by
    rw [Char.ofNat, dif_pos (Or.inl (by omega))]
    rfl
  exact wide_is_no_digit (by omega)

theorem digit_bytes_iff : (∀ b ∈ String.utf8EncodeChar c, IsHexByte b) ↔ IsHexDigit c := by
  by_cases narrow : c.toNat < 128
  · obtain ⟨single, code⟩ := narrow_byte narrow
    simp [single, IsHexByte, code]
  · -- both sides fail: every byte of such a sign is above the digits, and it has one
    have wide : 128 ≤ c.toNat := by omega
    obtain ⟨b, member⟩ := List.exists_mem_of_ne_nil _ (String.utf8EncodeChar_ne_nil (c := c))
    constructor
    · intro all
      exact absurd (all b member) (wide_byte_is_no_digit (wide_bytes wide b member))
    · intro digit
      exact absurd digit (wide_is_no_digit wide)

theorem utf8_digits_iff : (∀ b ∈ utf8 text, IsHexByte b) ↔ ∀ c ∈ text, IsHexDigit c := by
  unfold utf8
  induction text with
  | nil => simp
  | cons c rest ih =>
    rw [List.flatMap_cons, List.forall_mem_append, List.forall_mem_cons, digit_bytes_iff, ih]

theorem utf8_of_digit (digit : IsHexDigit c) :
    utf8 (c :: text) = UInt8.ofNat c.toNat :: utf8 text := by
  obtain ⟨single, _⟩ := narrow_byte (hex_digit_facts digit).1
  simp [utf8, single]

theorem length_of_digits (each : ∀ c ∈ text, IsHexDigit c) : (utf8 text).length = text.length := by
  induction text with
  | nil => rfl
  | cons c rest ih =>
    obtain ⟨first, later⟩ := List.forall_mem_cons.mp each
    simp [utf8_of_digit first, ih later]

end Bytes

section Halves

variable {bytes : List UInt8}

theorem length_of_halves (bytes : List UInt8) : (halves bytes).length = 2 * bytes.length := by
  induction bytes with
  | nil => rfl
  | cons b rest ih =>
    simp only [halves] at ih
    simp only [halves, List.flatMap_cons, List.length_append, List.length_cons, List.length_nil, ih]
    omega

theorem half_lt {n : Nat} (member : n ∈ halves bytes) : n < 16 := by
  simp only [halves, List.mem_flatMap, List.mem_cons, List.not_mem_nil, or_false] at member
  obtain ⟨b, _, own | own⟩ := member
  · have bound := b.toNat_lt
    omega
  · omega

theorem byte_of_halves (b : UInt8) :
    UInt8.ofNat (b.toNat / 16) * 16 + UInt8.ofNat (b.toNat % 16) = b := by
  have bound : b.toNat < 256 := b.toNat_lt
  apply UInt8.toNat.inj
  simp
  omega

theorem halves_of_some {count : Nat} {places : List Nat} (small : ∀ n ∈ places, n < 16)
    (size : places.length = 2 * count) : ∃ bytes, bytes.length = count ∧ halves bytes = places := by
  induction count generalizing places with
  | zero => exact ⟨[], rfl, (List.length_eq_zero_iff.mp size).symm⟩
  | succ count ih =>
    match places, small, size with
    | high :: low :: rest, small, size =>
      simp only [List.forall_mem_cons] at small
      obtain ⟨first, second, later⟩ := small
      obtain ⟨bytes, many, same⟩ := ih later (by simpa [Nat.mul_succ] using size)
      refine ⟨UInt8.ofNat (16 * high + low) :: bytes, by simp [many], ?_⟩
      have byte : (UInt8.ofNat (16 * high + low)).toNat = 16 * high + low :=
        UInt8.toNat_ofNat_of_lt' (by simp [UInt8.size]; omega)
      have higher : (16 * high + low) / 16 = high := by omega
      have lower : (16 * high + low) % 16 = low := by omega
      simp only [halves] at same
      simp only [halves, List.flatMap_cons, byte, higher, lower, same, List.cons_append,
        List.nil_append]

end Halves

section Writing

variable {bytes : List UInt8}

theorem encode_eq (bytes : List UInt8) : encode bytes = (halves bytes).map hexChar := by
  simp [encode, halves, List.map_flatMap]

theorem mem_encoded {c : Char} (member : c ∈ encode bytes) : ∃ n < 16, c = hexChar n := by
  rw [encode_eq] at member
  obtain ⟨n, half, rfl⟩ := List.mem_map.mp member
  exact ⟨n, half_lt half, rfl⟩

theorem encoded_are_digits : ∀ c ∈ encode bytes, IsHexDigit c := by
  intro c member
  obtain ⟨n, small, rfl⟩ := mem_encoded member
  exact (hex_char_facts n small).1

theorem places_of_encoded (bytes : List UInt8) : (encode bytes).map hexPlace = halves bytes := by
  rw [encode_eq, List.map_map]
  exact (List.map_congr_left fun n half => (hex_char_facts n (half_lt half)).2).trans
    (List.map_id' _)

end Writing

section Reading

variable {digits : List Char} {bytes : List UInt8} {b : UInt8}

theorem digit_of_hex {c : Char} (hex : IsHexDigit c) (position : Nat) :
    digit (UInt8.ofNat c.toNat) position = .ok (UInt8.ofNat (hexPlace c)) := by
  obtain ⟨narrow, place, _⟩ := hex_digit_facts hex
  rw [digit, (narrow_byte narrow).2, Char.ofNat_toNat, place]

theorem digit_of_hex_byte (good : IsHexByte b) (position : Nat) :
    ∃ n, digit b position = .ok n := by
  obtain ⟨_, place, _⟩ := hex_digit_facts good
  exact ⟨_, by rw [digit, place]⟩

theorem digit_of_other (other : ¬ IsHexByte b) (position : Nat) :
    digit b position = .error (.badByte b position) := by
  rw [digit, hex_digit_of_other other]

theorem decode_from_of_places (each : ∀ c ∈ digits, IsHexDigit c)
    (places : digits.map hexPlace = halves bytes) (position : Nat) :
    decodeFrom position (utf8 digits) = .ok bytes := by
  -- By induction on the bytes: each of them takes the first two digits that are left.
  induction bytes generalizing digits position with
  | nil =>
    have nothing : digits = [] := List.map_eq_nil_iff.mp places
    rw [nothing]
    rfl
  | cons b bytes ih =>
    obtain ⟨high, behind, rfl, higher, places⟩ := List.map_eq_cons_iff.mp places
    obtain ⟨low, rest, rfl, lower, others⟩ := List.map_eq_cons_iff.mp places
    simp only [List.forall_mem_cons] at each
    obtain ⟨first, second, later⟩ := each
    rw [utf8_of_digit first, utf8_of_digit second, decodeFrom, digit_of_hex first,
      digit_of_hex second, ih later others, higher, lower]
    exact congrArg (fun own => Except.ok (own :: bytes)) (byte_of_halves b)

theorem decode_of_places (each : ∀ c ∈ digits, IsHexDigit c)
    (places : digits.map hexPlace = halves bytes) : decode (utf8 digits) = .ok bytes := by
  have double : digits.length = 2 * bytes.length := by
    rw [← length_of_halves, ← places, List.length_map]
  rw [decode, length_of_digits each, if_neg (by omega), decode_from_of_places each places]

theorem decode_of_encoded (bytes : List UInt8) : decode (utf8 (encode bytes)) = .ok bytes :=
  decode_of_places encoded_are_digits (places_of_encoded bytes)

theorem encode_of_places (each : ∀ c ∈ digits, IsHexDigit c)
    (places : digits.map hexPlace = halves bytes) : encode bytes = digits.map Char.toLower := by
  rw [encode_eq, ← places, List.map_map]
  exact List.map_congr_left fun c member => (hex_digit_facts (each c member)).2.2.2

theorem bytes_of_digits {count : Nat} (each : ∀ c ∈ digits, IsHexDigit c)
    (size : digits.length = 2 * count) :
    ∃ bytes : List UInt8, bytes.length = count ∧ digits.map hexPlace = halves bytes := by
  have small : ∀ n ∈ digits.map hexPlace, n < 16 := by
    intro n member
    obtain ⟨c, inside, rfl⟩ := List.mem_map.mp member
    exact (hex_digit_facts (each c inside)).2.2.1
  obtain ⟨bytes, many, same⟩ := halves_of_some small (by rw [List.length_map, size])
  exact ⟨bytes, many, same.symm⟩

theorem first_bad (bad : ¬ ∀ b ∈ bytes, IsHexByte b) :
    ∃ before b after, bytes = before ++ b :: after ∧ (∀ b ∈ before, IsHexByte b) ∧
      ¬ IsHexByte b := by
  have found : (bytes.find? fun b => ¬ IsHexByte b).isSome := by simpa using bad
  obtain ⟨b, first⟩ := Option.isSome_iff_exists.mp found
  obtain ⟨other, before, after, whole, good⟩ := List.find?_eq_some_iff_append.mp first
  exact ⟨before, b, after, whole, by simpa using good, by simpa using other⟩

theorem decode_from_of_bad {bad : UInt8} {after : List UInt8} (other : ¬ IsHexByte bad) :
    ∀ (before : List UInt8) (position : Nat), (∀ b ∈ before, IsHexByte b) →
      (before ++ bad :: after).length % 2 = 0 →
      decodeFrom position (before ++ bad :: after) =
        .error (.badByte bad (position + before.length))
  -- The bytes in front are taken in twos, so the bad one may be the first or the second of its two.
  | [], position, _, even => by
    cases after with
    | nil => simp at even
    | cons low rest =>
      rw [List.nil_append, decodeFrom, digit_of_other other]
      rfl
  | [high], position, good, _ => by
    obtain ⟨n, higher⟩ := digit_of_hex_byte (good high (by simp)) position
    rw [List.singleton_append, decodeFrom, higher, digit_of_other other]
    rfl
  | high :: low :: before, position, good, even => by
    simp only [List.forall_mem_cons] at good
    obtain ⟨first, second, later⟩ := good
    obtain ⟨n, higher⟩ := digit_of_hex_byte first position
    obtain ⟨m, lower⟩ := digit_of_hex_byte second (position + 1)
    have shorter : (before ++ bad :: after).length % 2 = 0 := by
      simp only [List.cons_append, List.length_cons] at even
      omega
    have place : position + 2 + before.length = position + (high :: low :: before).length := by
      simp only [List.length_cons]
      omega
    rw [List.cons_append, List.cons_append, decodeFrom, higher, lower,
      decode_from_of_bad other before (position + 2) later shorter, place]
    rfl

theorem decode_of_bad {bad : UInt8} {before after : List UInt8}
    (even : (before ++ bad :: after).length % 2 = 0) (good : ∀ b ∈ before, IsHexByte b)
    (other : ¬ IsHexByte bad) :
    decode (before ++ bad :: after) = .error (.badByte bad before.length) := by
  rw [decode, if_neg (by omega), decode_from_of_bad other before 0 good even, Nat.zero_add]

end Reading

end Hex
end Net
end HostHealth
