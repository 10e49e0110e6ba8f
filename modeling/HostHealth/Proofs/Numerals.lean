import HostHealth.Proofs.WrittenNumbers
import Mathlib.Data.List.Induction

/- What the readers of decimal numbers take: every run of digits, with any zeros in front, for
   the number that it stands for. Of all the numerals of a number, the one that is written is the
   one with no zero to spare. -/
namespace HostHealth.Text

/-- A run of ASCII digits that stands for the number, the highest place first. -/
structure IsNumeral (text : List Char) (n : Nat) : Prop where
  nonempty : text ≠ []
  digits : ∀ c ∈ text, c.isDigit = true
  value : Nat.ofDigitChars 10 text 0 = n

def HasSpareZero (text : List Char) : Prop := text.head? = some '0' ∧ 1 < text.length

instance (text : List Char) : Decidable (HasSpareZero text) := inferInstanceAs (Decidable (_ ∧ _))

def IsUnsigned (text : List Char) (n : Nat) : Prop :=
  ∃ digits, (text = digits ∨ text = '+' :: digits) ∧ IsNumeral digits n

section Numerals

variable {text : List Char} {n limit : Nat}

theorem digit_of_digit {c : Char} (plain : c.isDigit = true) :
    digit? c = some (c.toNat - '0'.toNat) :=
  if_pos (by simpa [Char.isDigit, Char.le_def] using plain)

theorem digit_of_other {c : Char} (other : c.isDigit = false) : digit? c = none :=
  if_neg (by simpa [Char.isDigit, Char.le_def] using other)

theorem digits_fold_of_none :
    text.foldl (fun sum c => do return (← sum) * 10 + (← digit? c)) none = (none : Option Nat) := by
  induction text with
  | nil => rfl
  | cons c rest ih => exact ih

theorem digits_fold_iff (sum : Nat) :
    text.foldl (fun sum c => do return (← sum) * 10 + (← digit? c)) (some sum) = some n ↔
      (∀ c ∈ text, c.isDigit = true) ∧ Nat.ofDigitChars 10 text sum = n := by
  induction text generalizing sum with
  | nil => simp
  | cons c rest ih =>
    rw [List.foldl_cons]
    cases own : c.isDigit with
    | true =>
      have next := ih (10 * sum + (c.toNat - '0'.toNat))
      simpa [digit_of_digit own, own, Nat.ofDigitChars_cons, Nat.mul_comm] using next
    | false =>
      have failed : (do return (← some sum) * 10 + (← digit? c)) = none := by
        rw [digit_of_other own]
        rfl
      rw [failed, digits_fold_of_none]
      simp [own]

theorem read_nat_iff : readNat text = some n ↔ IsNumeral text n := by
  cases text with
  | nil => exact ⟨nofun, fun numeral => absurd rfl numeral.nonempty⟩
  | cons c rest =>
    refine (digits_fold_iff 0).trans ⟨?_, ?_⟩
    · rintro ⟨digits, value⟩
      exact ⟨List.cons_ne_nil c rest, digits, value⟩
    · rintro ⟨-, digits, value⟩
      exact ⟨digits, value⟩

instance (text : List Char) (n : Nat) : Decidable (IsNumeral text n) :=
  decidable_of_iff (readNat text = some n) read_nat_iff

theorem read_below_iff : readBelow limit text = some n ↔ IsNumeral text n ∧ n < limit := by
  simp [readBelow, Option.filter_eq_some_iff, read_nat_iff]

theorem numeral_has_no (numeral : IsNumeral text n) {c : Char} (other : c.isDigit = false) :
    c ∉ text := by
  intro member
  have own := numeral.digits c member
  rw [other] at own
  cases own

theorem read_unsigned_iff :
    readUnsigned limit text = some n ↔ IsUnsigned text n ∧ n < limit := by
  unfold readUnsigned
  split
  · rename_i digits
    rw [read_below_iff]
    refine and_congr_left fun _ => ⟨fun numeral => ⟨digits, .inr rfl, numeral⟩, ?_⟩
    rintro ⟨own, rfl | same, numeral⟩
    · exact absurd List.mem_cons_self (numeral_has_no numeral rfl)
    · cases same
      exact numeral
  · rename_i unsigned
    rw [read_below_iff]
    refine and_congr_left fun _ => ⟨fun numeral => ⟨text, .inl rfl, numeral⟩, ?_⟩
    rintro ⟨own, rfl | same, numeral⟩
    · exact numeral
    · exact absurd same (unsigned own)

theorem unsigned_has_no (number : IsUnsigned text n) {c : Char} (other : c.isDigit = false)
    (unsigned : c ≠ '+') : c ∉ text := by
  obtain ⟨digits, rfl | rfl, numeral⟩ := number
  · exact numeral_has_no numeral other
  · exact List.not_mem_cons_of_ne_of_not_mem unsigned (numeral_has_no numeral other)

theorem digits_are_numeral (n : Nat) : IsNumeral (digits n) n :=
  read_nat_iff.mp (read_nat_of_digits n)

theorem digits_spare_no_zero (n : Nat) : ¬ HasSpareZero (digits n) := by
  rintro ⟨zero, long⟩
  by_cases none : n = 0
  · rw [none, digits_zero] at long
    exact absurd long (by decide)
  · exact digits_without_zeros none zero

theorem digit_char_of_digit {c : Char} (plain : c.isDigit = true) :
    c.toNat - '0'.toNat < 10 ∧ digitChar (c.toNat - '0'.toNat) = c := by
  obtain ⟨low, high⟩ := Char.isDigit_iff_toNat.mp plain
  have places : '0'.toNat = 48 ∧ '9'.toNat = 57 := by decide
  refine ⟨by omega, ?_⟩
  unfold digitChar
  rw [Nat.add_sub_cancel' low, Char.ofNat_toNat]

theorem digits_of_numeral (numeral : IsNumeral text n) (tight : ¬ HasSpareZero text) :
    digits n = text := by
  -- By induction from the last digit, since that is how numbers are written.
  induction text using List.reverseRecOn generalizing n with
  | nil => exact absurd rfl numeral.nonempty
  | append_singleton front last ih =>
    obtain ⟨small, own⟩ := digit_char_of_digit (numeral.digits last (by simp))
    have value : 10 * Nat.ofDigitChars 10 front 0 + (last.toNat - '0'.toNat) = n := by
      rw [← numeral.value, Nat.ofDigitChars_append]
      rfl
    by_cases single : front = []
    · rw [single] at value ⊢
      rw [Nat.ofDigitChars_nil, Nat.mul_zero, Nat.zero_add] at value
      rw [digits, if_pos (by omega), ← value, own, List.nil_append]
    · have numeralFront : IsNumeral front (Nat.ofDigitChars 10 front 0) :=
        ⟨single, fun c member => numeral.digits c (List.mem_append_left _ member), rfl⟩
      have noZero : front.head? ≠ some '0' := by
        intro zero
        have long : 0 < front.length := List.length_pos_of_ne_nil single
        exact tight ⟨by rw [List.head?_append_of_ne_nil _ single, zero], by simp [long]⟩
      have front_written := ih numeralFront fun spare => noZero spare.1
      have positive : Nat.ofDigitChars 10 front 0 ≠ 0 := by
        intro zero
        rw [zero, digits_zero] at front_written
        exact noZero (by rw [← front_written]; rfl)
      rw [digits, if_neg (by omega), ← value, Nat.mul_add_div (by decide),
        Nat.div_eq_of_lt small, Nat.add_zero, front_written, Nat.mul_add_mod, Nat.mod_eq_of_lt small,
        own]

end Numerals

end HostHealth.Text
