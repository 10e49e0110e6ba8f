import HostHealth.Json.Record
import HostHealth.Proofs.Numerals
import Mathlib.Tactic.GCongr
import Mathlib.Tactic.Ring

/- Which integers a reader of JSON can hold. A long one is known by its first digits, and rounding
   moves those and their power of ten by one part in 2^53 each. So little counts only near the
   greatest double, which has 309 digits. -/
namespace HostHealth

open Number Text

namespace Number

theorem round_half_even_close (num : Nat) {den : Nat} (positive : 0 < den) :
    2 * (roundHalfEven num den * den) ≤ 2 * num + den ∧
      2 * num ≤ 2 * (roundHalfEven num den * den) + den := by
  have split := Nat.div_add_mod' num den
  have rest := Nat.mod_lt num positive
  have next : (num / den + 1) * den = num / den * den + den := Nat.succ_mul _ den
  unfold roundHalfEven
  dsimp only
  split_ifs <;> omega

theorem Double.nearest_close (n : Nat) :
    2 ^ 53 * nearest n ≤ (2 ^ 53 + 1) * n ∧ (2 ^ 53 - 1) * n ≤ 2 ^ 53 * nearest n := by
  obtain ⟨above, below⟩ := round_half_even_close n (Nat.two_pow_pos (n.log2 - 52))
  change _ * (nearest n) ≤ _ at above
  change _ ≤ 2 * nearest n + _ at below
  by_cases short : n.log2 < 52
  · rw [Nat.sub_eq_zero_of_le (by omega)] at above below
    omega
  · have step : 2 ^ 52 * 2 ^ (n.log2 - 52) ≤ n := by
      rw [← Nat.pow_add, Nat.add_sub_cancel' (by omega)]
      apply Nat.log2_self_le
      rintro rfl
      exact short (by decide)
    omega

end Number

namespace Text

variable {text : List Char} {c : Char}

theorem digit_below_ten (plain : c.isDigit = true) : c.toNat - '0'.toNat < 10 := by
  obtain ⟨low, high⟩ := Char.isDigit_iff_toNat.mp plain
  change 48 ≤ c.toNat at low
  change c.toNat ≤ 57 at high
  change c.toNat - 48 < 10
  omega

theorem of_digit_chars_between (value : Nat) (digits : ∀ c ∈ text, c.isDigit = true) :
    value * 10 ^ text.length ≤ Nat.ofDigitChars 10 text value ∧
      Nat.ofDigitChars 10 text value < (value + 1) * 10 ^ text.length := by
  induction text generalizing value with
  | nil => simp
  | cons c rest ih =>
    rw [List.forall_mem_cons] at digits
    have below := digit_below_ten digits.1
    obtain ⟨least, most⟩ := ih (10 * value + (c.toNat - '0'.toNat)) digits.2
    rw [Nat.ofDigitChars_cons, List.length_cons, Nat.pow_succ', ← Nat.mul_assoc, ← Nat.mul_assoc]
    constructor
    · refine Nat.le_trans (Nat.mul_le_mul_right _ ?_) least
      omega
    · refine Nat.lt_of_lt_of_le most (Nat.mul_le_mul_right _ ?_)
      omega

end Text

namespace Json.Significand

variable {text : List Char} {value : Nat}

/-- What is taken of a run of digits are its first ones, and what is left out stands below the last
    of them. Only a number that is not zero is cut short. -/
theorem of_whole_leads (value : Nat) (digits : ∀ c ∈ text, c.isDigit = true) :
    let s := ofWhole value text
    ∃ left : Nat, s.power = left ∧ s.value * 10 ^ left ≤ Nat.ofDigitChars 10 text value ∧
      Nat.ofDigitChars 10 text value < (s.value + 1) * 10 ^ left ∧ (s.value = 0 → left = 0) := by
  induction text generalizing value with
  | nil => exact ⟨0, rfl, by simp [ofWhole], by simp [ofWhole], fun _ => rfl⟩
  | cons c rest ih =>
    obtain ⟨least, most⟩ := of_digit_chars_between value digits
    rw [List.forall_mem_cons] at digits
    unfold ofWhole
    rw [digit_of_digit digits.1, Option.getD_some]
    dsimp only
    split
    · rw [Nat.ofDigitChars_cons, Nat.mul_comm 10]
      exact ih _ digits.2
    · refine ⟨rest.length + 1, rfl, least, most, fun none => ?_⟩
      have below := digit_below_ten digits.1
      have room : 9 < UInt64.size := by decide
      dsimp only at none
      omega

theorem rounded_product_close (value power : Nat) :
    let product := Double.nearest value * Double.nearest power
    2 ^ 106 * product ≤ (2 ^ 53 + 1) ^ 2 * (value * power) ∧
      (2 ^ 53 - 1) ^ 2 * (value * power) ≤ 2 ^ 106 * product := by
  obtain ⟨above, below⟩ := Double.nearest_close value
  obtain ⟨abovePower, belowPower⟩ := Double.nearest_close power
  dsimp only
  constructor
  · calc 2 ^ 106 * (Double.nearest value * Double.nearest power)
        = 2 ^ 53 * Double.nearest value * (2 ^ 53 * Double.nearest power) := by ring
      _ ≤ (2 ^ 53 + 1) * value * ((2 ^ 53 + 1) * power) := Nat.mul_le_mul above abovePower
      _ = (2 ^ 53 + 1) ^ 2 * (value * power) := by ring
  · calc (2 ^ 53 - 1) ^ 2 * (value * power)
        = (2 ^ 53 - 1) * value * ((2 ^ 53 - 1) * power) := by ring
      _ ≤ 2 ^ 53 * Double.nearest value * (2 ^ 53 * Double.nearest power) :=
        Nat.mul_le_mul below belowPower
      _ = 2 ^ 106 * (Double.nearest value * Double.nearest power) := by ring

theorem is_finite_iff (s : Significand) {power : Nat} (scaled : s.power = power) :
    s.isFinite = true ↔ s.value = 0 ∨ power ≤ maxPower ∧
      Double.nearest s.value * Double.nearest (10 ^ power) < Double.bound := by
  have notBelow : ¬ (power : Int) < 0 := by omega
  simp [isFinite, scaled, notBelow]

end Json.Significand

namespace Json

theorem natural_is_holdable (n room : Nat) :
    (natural n).isHoldable room = (Significand.ofWhole 0 (digits n)).isFinite := by
  simp [isHoldable, isHoldableNumber, Significand.withPart]

/-- Integers of up to 308 digits can be held, and those of 310 and more cannot. -/
theorem natural_range (n room : Nat) :
    (n < 10 ^ 308 → (natural n).isHoldable room = true) ∧
      (10 ^ 309 ≤ n → (natural n).isHoldable room = false) := by
  have numeral := digits_are_numeral n
  obtain ⟨left, power, least, most, whole⟩ := Significand.of_whole_leads 0 numeral.digits
  rw [numeral.value] at least most
  rw [natural_is_holdable, ← Bool.not_eq_true, Significand.is_finite_iff _ power]
  generalize (Significand.ofWhole 0 (digits n)).value = value at *
  obtain ⟨above, below⟩ := Significand.rounded_product_close value (10 ^ left)
  constructor
  · intro short
    rw [or_iff_not_imp_left]
    intro positive
    have factor : 10 ^ left ≤ value * 10 ^ left :=
      Nat.le_mul_of_pos_left _ (Nat.pos_of_ne_zero positive)
    have fits : left < 308 :=
      (Nat.pow_lt_pow_iff_right (by decide)).mp (by omega : 10 ^ left < 10 ^ 308)
    refine ⟨Nat.le_of_lt fits, ?_⟩
    have margin : (2 ^ 53 + 1) ^ 2 * 10 ^ 308 < 2 ^ 106 * Double.bound := by decide +kernel
    have exact : (2 ^ 53 + 1) ^ 2 * (value * 10 ^ left) ≤ (2 ^ 53 + 1) ^ 2 * 10 ^ 308 :=
      Nat.mul_le_mul_left _ (by omega)
    exact Nat.lt_of_mul_lt_mul_left (a := 2 ^ 106) (by omega)
  · intro long finite
    obtain zero | ⟨fits, finite⟩ := finite
    · rw [whole zero, zero] at most
      omega
    · change left ≤ 308 at fits
      have factor : 10 ^ left ≤ 10 ^ 308 := by gcongr; decide
      have margin : 2 ^ 106 * Double.bound ≤ (2 ^ 53 - 1) ^ 2 * (9 * 10 ^ 308) := by
        decide +kernel
      have exact : (2 ^ 53 - 1) ^ 2 * (9 * 10 ^ 308) ≤ (2 ^ 53 - 1) ^ 2 * (value * 10 ^ left) := by
        apply Nat.mul_le_mul_left
        rw [Nat.succ_mul] at most
        omega
      omega

-- Near the greatest double the reader refuses a number and takes a greater one with more digits.
example : isHoldableNumber ⟨"17976931348623158".toList, [], 292⟩ = false ∧
    isHoldableNumber ⟨"17976931348623158".toList, ['1'], 292⟩ = true := by decide +kernel

end Json
end HostHealth
