import HostHealth.Currency
import HostHealth.Span
import Mathlib.Data.List.Basic

/- Digits that have been written are read as the number that they stand for. So are amounts of
   money. Lengths of time come back in whole milliseconds, up to what 64 bits can hold. -/
namespace HostHealth

namespace Text

/-- Numbers are written in the base, the highest place first and none too many. -/
structure Positional (base : Nat) (char : Nat → Char) (written : Nat → List Char) : Prop where
  proper : 1 < base
  places : ∀ n, written n = if n < base then [char n] else written (n / base) ++ [char (n % base)]

theorem digits_positional : Positional 10 digitChar digits :=
  ⟨by decide, fun n => by rw [digits]⟩

theorem hex_digits_positional : Positional 16 hexChar hexDigits :=
  ⟨by decide, fun n => by rw [hexDigits]⟩

section Positional

variable {base : Nat} {char : Nat → Char} {digit : Char → Option Nat} {written : Nat → List Char}
  {n places : Nat}

theorem positional_cases (h : Positional base char written) {P : Nat → List Char → Prop}
    (one : ∀ n < base, P n [char n])
    (more : ∀ n, base ≤ n → P (n / base) (written (n / base)) →
      P n (written (n / base) ++ [char (n % base)])) (n : Nat) : P n (written n) := by
  induction n using Nat.strongRecOn with
  | ind n ih =>
    rw [h.places]
    split
    · exact one n ‹_›
    · have large : base ≤ n := by omega
      have positive : 0 < n := Nat.lt_of_lt_of_le (Nat.lt_trans Nat.zero_lt_one h.proper) large
      exact more n large (ih (n / base) (Nat.div_lt_self positive h.proper))

theorem written_ne_nil (h : Positional base char written) (n : Nat) : written n ≠ [] := by
  rw [h.places]
  split
  · exact List.cons_ne_nil _ _
  · exact List.concat_ne_nil _ _

theorem mem_written (h : Positional base char written) {c : Char} (member : c ∈ written n) :
    ∃ d < base, c = char d := by
  refine positional_cases h (P := fun _ text => c ∈ text → ∃ d < base, c = char d) ?_ ?_ n member
  · intro n small member
    exact ⟨n, small, List.mem_singleton.mp member⟩
  · intro n _ ih member
    rcases List.mem_append.mp member with front | last
    · exact ih front
    · exact ⟨n % base, Nat.mod_lt n (Nat.lt_trans Nat.zero_lt_one h.proper),
        List.mem_singleton.mp last⟩

theorem read_digits_append {front : List Char} {d : Nat} {last : Char}
    (own : readDigits base digit front = some n) (lowest : digit last = some d) :
    readDigits base digit (front ++ [last]) = some (n * base + d) := by
  cases front with
  | nil => cases own
  | cons first rest =>
    unfold readDigits at own ⊢
    dsimp only [List.cons_append] at own ⊢
    rw [← List.cons_append, List.foldl_append, own]
    simp [lowest]

theorem read_written (h : Positional base char written)
    (each : ∀ d < base, digit (char d) = some d) (n : Nat) :
    readDigits base digit (written n) = some n := by
  refine positional_cases h (P := fun n text => readDigits base digit text = some n) ?_ ?_ n
  · intro n small
    simp [readDigits, each n small]
  · intro n large ih
    have lowest := each (n % base) (Nat.mod_lt n (Nat.lt_trans Nat.zero_lt_one h.proper))
    rw [read_digits_append ih lowest, Nat.div_add_mod']

theorem length_of_written (h : Positional base char written)
    (bound : n < Nat.pow base (places + 1)) : (written n).length ≤ places + 1 := by
  induction places generalizing n with
  | zero =>
    rw [h.places, if_pos (by simpa using bound)]
    exact Nat.le_refl _
  | succ places ih =>
    rw [h.places]
    split
    · simp
    · have shorter := ih (Nat.div_lt_of_lt_mul (by rwa [Nat.mul_comm]) :
        n / base < Nat.pow base (places + 1))
      simp only [List.length_append, List.length_singleton]
      omega

end Positional

theorem read_nat_of_digits (n : Nat) : readNat (digits n) = some n :=
  read_written digits_positional (by decide) n

theorem digits_without_zeros {n : Nat} (positive : n ≠ 0) : (digits n).head? ≠ some '0' := by
  refine positional_cases digits_positional
    (P := fun n text => n ≠ 0 → text.head? ≠ some '0') ?_ ?_ n positive
  · have : ∀ n < 10, n ≠ 0 → digitChar n ≠ '0' := by decide
    intro n small positive zero
    exact this n small positive (Option.some.inj zero)
  · intro n large ih _
    rw [List.head?_append_of_ne_nil _ (written_ne_nil digits_positional _)]
    exact ih (by omega)

theorem digits_zero : digits 0 = ['0'] := by
  rw [digits]
  rfl

theorem read_below_of_digits {n limit : Nat} (bound : n < limit) :
    readBelow limit (digits n) = some n := by
  unfold readBelow
  rw [read_nat_of_digits]
  simp [bound]

theorem read_unsigned_of_digits {n limit : Nat} (bound : n < limit) :
    readUnsigned limit (digits n) = some n := by
  unfold readUnsigned
  split
  · rename_i rest written
    obtain ⟨d, small, sign⟩ := mem_written digits_positional
      (show '+' ∈ digits n by rw [written]; exact List.mem_cons_self)
    have : ∀ d < 10, '+' ≠ digitChar d := by decide
    exact absurd sign (this d small)
  · exact read_below_of_digits bound

theorem digits_have_no {n : Nat} {separates : Char → Bool}
    (none : ∀ d < 10, separates (digitChar d) = false) : ∀ c ∈ digits n, separates c = false := by
  intro c member
  obtain ⟨d, small, rfl⟩ := mem_written digits_positional member
  exact none d small

theorem hex_digits_have_no {n : Nat} {separates : Char → Bool}
    (none : ∀ d < 16, separates (hexChar d) = false) : ∀ c ∈ hexDigits n, separates c = false := by
  intro c member
  obtain ⟨d, small, rfl⟩ := mem_written hex_digits_positional member
  exact none d small

end Text

namespace Currency

theorem read_of_text (c : Currency) : read? c.text = some c := by
  unfold read? text Text.decimal
  rw [String.toList_ofList, Text.read_unsigned_of_digits c.bounded]
  exact dif_pos c.bounded

end Currency

namespace Span

def truncated (span : Nat) : Nat := ofMillis (min (span / 1000000) (UInt64.size - 1))

theorem truncated_eq_data (span : Nat) : truncated span = ofMillis (dataMillis span) := rfl

theorem data_millis_fits (span : Nat) : dataMillis span < UInt64.size := by
  unfold dataMillis
  have : 0 < UInt64.size := by decide
  omega

theorem data_millis_of_truncated (span : Nat) : dataMillis (truncated span) = dataMillis span := by
  rw [truncated_eq_data]
  have fits := data_millis_fits span
  have whole : millis (ofMillis (dataMillis span)) = dataMillis span :=
    Nat.mul_div_cancel _ (by decide)
  rw [dataMillis, whole]
  omega

end Span
end HostHealth
