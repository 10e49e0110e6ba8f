import HostHealth.Proofs.SharedTerms

/- How far the collateral of a host goes, in whole numbers of any size: a ladder of four rungs, from
   no collateral to the double of the storage price. -/
namespace HostHealth

open Net Validation

/-- How much of the storage price is covered. -/
inductive Rung
  | nothing | part | once | twice
  deriving DecidableEq

namespace Rung

def Holds (collateral storagePrice : Nat) : Rung → Prop
  | .nothing => collateral = 0
  | .part => collateral ≠ 0 ∧ collateral < storagePrice
  | .once => collateral ≠ 0 ∧ storagePrice ≤ collateral ∧ collateral < 2 * storagePrice
  | .twice => collateral ≠ 0 ∧ 2 * storagePrice ≤ collateral

instance (collateral storagePrice : Nat) :
    (rung : Rung) → Decidable (rung.Holds collateral storagePrice)
  | .nothing => inferInstanceAs (Decidable (_ = _))
  | .part => inferInstanceAs (Decidable (_ ∧ _))
  | .once => inferInstanceAs (Decidable (_ ∧ _ ∧ _))
  | .twice => inferInstanceAs (Decidable (_ ∧ _))

def warning : Rung → Option String
  | .nothing => some "host has no collateral price"
  | .part => some "host's collateral price is less than storage price"
  | .once => some "host's collateral price is less than double the storage price"
  | .twice => none

variable {collateral storagePrice : Nat} {rung other : Rung}

theorem some_holds (collateral storagePrice : Nat) :
    ∃ rung : Rung, rung.Holds collateral storagePrice := by
  by_cases nothing : collateral = 0
  · exact ⟨.nothing, nothing⟩
  by_cases part : collateral < storagePrice
  · exact ⟨.part, nothing, part⟩
  by_cases once : collateral < 2 * storagePrice
  · exact ⟨.once, nothing, Nat.le_of_not_lt part, once⟩
  · exact ⟨.twice, nothing, Nat.le_of_not_lt once⟩

theorem holds_once (own : rung.Holds collateral storagePrice)
    (its : other.Holds collateral storagePrice) : rung = other := by
  cases rung <;> cases other <;> simp [Holds] at own its ⊢ <;> omega

theorem warning_inj (same : rung.warning = other.warning) : rung = other := by
  revert same
  cases rung <;> cases other <;> decide

end Rung

theorem Currency.times_none_iff (c : Currency) (n : Nat) :
    c.times? n = none ↔ Nat.pow 2 128 ≤ c.amount * n := by
  unfold Currency.times? Currency.ofNat?
  split
  · exact iff_of_false (Option.some_ne_none _) (Nat.not_le.mpr ‹_›)
  · exact iff_of_true rfl (Nat.le_of_not_lt ‹_›)

def Rung.finding : Rung → Option Finding
  | .nothing => some .noCollateral
  | .part => some .collateralBelowStorage
  | .once => some .collateralBelowDouble
  | .twice => none

theorem Rung.message_of_finding (rung : Rung) :
    rung.finding.map Finding.message = rung.warning := by
  cases rung <;> rfl

namespace Validation

variable {terms : Terms} {rung : Rung}

theorem collateral_on_rung (expected : Expectation)
    (holds : rung.Holds terms.collateral.amount terms.storagePrice.amount) :
    collateral terms expected = rung.finding := by
  have covers := double_is_covered_iff terms.collateral terms.storagePrice
  unfold collateral Currency.isZero
  cases rung with
  | nothing =>
    have zero : terms.collateral.amount = 0 := holds
    simp [zero, Rung.finding]
  | part =>
    obtain ⟨some, below⟩ := holds
    simp [some, below, Rung.finding]
  | once =>
    obtain ⟨some, above, below⟩ := holds
    have whole : ¬ terms.collateral.amount < terms.storagePrice.amount := by omega
    have uncovered := covers.not.mpr (by omega)
    cases fits : terms.storagePrice.times? 2 with
    | none => simp [some, whole, Rung.finding] -- out of range, so out of reach
    | some double =>
      have short : terms.collateral.amount < double.amount := by simpa [fits] using uncovered
      simp [some, whole, short, Rung.finding]
  | twice =>
    obtain ⟨some, above⟩ := holds
    have whole : ¬ terms.collateral.amount < terms.storagePrice.amount := by omega
    obtain ⟨double, fits, reached⟩ := covers.mpr above
    simp [some, whole, fits, reached, Rung.finding]

theorem finding_iff_rung (terms : Terms) (expected : Expectation) (rung : Rung) :
    (collateral terms expected).map Finding.message = rung.warning ↔
      rung.Holds terms.collateral.amount terms.storagePrice.amount := by
  constructor
  · intro told
    obtain ⟨own, holds⟩ := Rung.some_holds terms.collateral.amount terms.storagePrice.amount
    rw [collateral_on_rung expected holds, own.message_of_finding] at told
    rwa [← Rung.warning_inj told]
  · intro holds
    rw [collateral_on_rung expected holds, rung.message_of_finding]

theorem findings_about_collateral (settings : Settings) (expected : Expectation) :
    ((settings.validate expected).filter fun f => f.concern = .collateral) =
      (collateral settings.terms expected).toList := by
  have alone : settings.generation.concerns.filter (fun c => decide (c = .collateral)) =
      [.collateral] := by
    cases settings.generation <;> decide
  rw [settings.findings_about expected fun c => decide (c = .collateral), alone]
  cases found : collateral settings.terms expected <;> simp [checkOf, found]

end Validation

open Validation

/-- Any two prices stand on one rung of the ladder, and what is found about them is what the rung
    says, in the row of every generation. The double of a price from the upper half of the range
    is not computed, and then the host is told of one of the lower rungs. -/
theorem prices_stand_on_one_rung :
    (∀ collateral storagePrice : Nat, ∃! rung : Rung, rung.Holds collateral storagePrice) ∧
      (∀ (terms : Terms) (expected : Expectation),
        (∀ rung : Rung, (collateral terms expected).map Finding.message = rung.warning ↔
          rung.Holds terms.collateral.amount terms.storagePrice.amount) ∧
        (∀ finding ∈ collateral terms expected, finding.isError = false) ∧
        (terms.storagePrice.times? 2 = none ↔ Nat.pow 2 128 ≤ 2 * terms.storagePrice.amount) ∧
        (Nat.pow 2 128 ≤ 2 * terms.storagePrice.amount → collateral terms expected ≠ none)) ∧
      ∀ (settings : Settings) (expected : Expectation),
        ((settings.validate expected).filter fun f => f.concern = .collateral) =
          (collateral settings.terms expected).toList := by
  refine ⟨?_, ?_, findings_about_collateral⟩
  · intro collateral storagePrice
    obtain ⟨rung, holds⟩ := Rung.some_holds collateral storagePrice
    exact ⟨rung, holds, fun other its => Rung.holds_once its holds⟩
  · intro terms expected
    refine ⟨finding_iff_rung terms expected, ?_, ?_, ?_⟩
    · intro finding found
      obtain ⟨rung, holds⟩ :=
        Rung.some_holds terms.collateral.amount terms.storagePrice.amount
      rw [collateral_on_rung expected holds] at found
      cases rung <;> cases found <;> rfl
    · rw [Currency.times_none_iff, Nat.mul_comm]
    · intro large silent
      have covered := (finding_iff_rung terms expected .twice).mp (by rw [silent]; rfl)
      have bounded := terms.collateral.bounded
      have above : 2 * terms.storagePrice.amount ≤ terms.collateral.amount := covered.2
      omega

theorem highest_collateral_is_short :
    let half : Currency := ⟨Nat.pow 2 127, by decide⟩
    let most : Currency := ⟨Nat.pow 2 128 - 1, by decide⟩
    let terms := (Settings.v3 ⟨0, most, most, half⟩).terms
    let expected : Expectation := ⟨⟨1, 6, 0, ""⟩, 0, ""⟩
    Nat.pow 2 128 ≤ 2 * terms.storagePrice.amount ∧ terms.storagePrice.times? 2 = none ∧
      collateral terms expected ≠ none ∧
      (collateral terms expected).map Finding.message =
        some "host's collateral price is less than double the storage price" := by
  intro half most terms expected
  have large : Nat.pow 2 128 ≤ 2 * terms.storagePrice.amount := by decide
  have short : Rung.once.Holds terms.collateral.amount terms.storagePrice.amount := by decide
  obtain ⟨_, ladder, _⟩ := prices_stand_on_one_rung
  obtain ⟨graded, _, range, beyond⟩ := ladder terms expected
  exact ⟨large, range.mpr large, beyond large, (graded .once).mpr short⟩

end HostHealth
