import HostHealth.Settings.Validation
import Mathlib.Data.List.Forall2
import Mathlib.Data.List.Nodup

/- What the judgement of a host's settings comes to, beside a table of what a host has to meet in
   each generation. Every check has one concern of its own in that table. -/
namespace HostHealth

open Net

inductive Concern
  | acceptance | address | maxCollateral | collateral | duration | tip | release
  deriving DecidableEq

def Finding.concern : Finding → Concern
  | .notAccepting => .acceptance
  | .noMaxCollateral => .maxCollateral
  | .shortDuration => .duration
  | .noCollateral | .collateralBelowStorage | .collateralBelowDouble => .collateral
  | .offTip _ _ => .tip
  | .unknownRelease _ | .outdatedRelease _ _ => .release
  | .otherAddress _ _ => .address

def Net.Generation.concerns : Generation → List Concern
  | .v2 => [.acceptance, .address, .maxCollateral, .collateral, .duration, .release]
  | .v3 => [.maxCollateral, .collateral, .tip]
  | .v4 => [.acceptance, .maxCollateral, .duration, .collateral, .tip, .release, .address]

def CoversStorage (collateral storagePrice : Currency) : Prop :=
  0 < collateral.amount ∧ 2 * storagePrice.amount ≤ collateral.amount

def NearTip (reported tip : UInt64) : Prop := ((reported.toNat : Int) - tip.toNat).natAbs ≤ 2

def IsUpToDate (text : String) (latest : Version) : Prop :=
  ∃ version, Version.readRelease text = .ok version ∧ version.compare latest ≠ .lt

/-- The settings are as they should be in this respect. What a generation does not report is. -/
def Settings.Meets (expected : Expectation) : Settings → Concern → Prop
  | .v2 s, .acceptance => s.acceptingContracts = true
  | .v2 s, .address => s.netAddress = expected.dialed
  | .v2 s, .maxCollateral => 0 < s.maxCollateral.amount
  | .v2 s, .collateral => CoversStorage s.collateral s.storagePrice
  | .v2 s, .duration => 4320 ≤ s.maxDuration.toNat
  | .v2 s, .release => IsUpToDate s.release expected.latest
  | .v3 t, .maxCollateral => 0 < t.maxCollateral.amount
  | .v3 t, .collateral => CoversStorage t.collateralCost t.writeStoreCost
  | .v3 t, .tip => NearTip t.hostBlockHeight expected.tipHeight
  | .v4 s, .acceptance => s.acceptingContracts = true
  | .v4 s, .maxCollateral => 0 < s.maxCollateral.amount
  | .v4 s, .duration => 4320 ≤ s.maxContractDuration.toNat
  | .v4 s, .collateral => CoversStorage s.prices.collateral s.prices.storagePrice
  | .v4 s, .tip => NearTip s.prices.tipHeight expected.tipHeight
  | .v4 s, .release => IsUpToDate s.release expected.latest
  | .v4 s, .address => ∀ announced, s.netAddress = some announced → announced = expected.dialed
  | _, _ => True

/-- The same of terms, in which any generation's settings are told. -/
def Terms.Meets (terms : Terms) (expected : Expectation) : Concern → Prop
  | .acceptance => terms.acceptingContracts ≠ some false
  | .address => ∀ announced, terms.netAddress = some announced → announced = expected.dialed
  | .maxCollateral => 0 < terms.maxCollateral.amount
  | .collateral => CoversStorage terms.collateral terms.storagePrice
  | .duration => ∀ blocks, terms.maxDuration = some blocks → 4320 ≤ blocks.toNat
  | .tip => ∀ reported, terms.height = some reported → NearTip reported expected.tipHeight
  | .release => ∀ text, terms.release = some text → IsUpToDate text expected.latest

def Finding.Quotes (terms : Terms) (expected : Expectation) : Finding → Prop
  | .offTip reported tip => terms.height = some reported ∧ tip = expected.tipHeight
  | .unknownRelease text => terms.release = some text
  | .outdatedRelease reported latest =>
    (∃ text, terms.release = some text ∧ Version.readRelease text = .ok reported) ∧
      latest = expected.latest
  | .otherAddress announced dialed =>
    terms.netAddress = some announced ∧ dialed = expected.dialed
  | _ => True

theorem terms_meet_iff {settings : Settings} {expected : Expectation} {concern : Concern} :
    settings.terms.Meets expected concern ↔ settings.Meets expected concern := by
  cases settings <;> cases concern <;> simp [Terms.Meets, Settings.Meets, Settings.terms]

theorem meets_what_is_not_reported {settings : Settings} {expected : Expectation}
    {concern : Concern} (unreported : concern ∉ settings.generation.concerns) :
    settings.Meets expected concern := by
  cases settings <;> cases concern <;>
    simp_all [Settings.Meets, Settings.generation, Generation.concerns]

theorem concerns_nodup (generation : Generation) : generation.concerns.Nodup := by
  cases generation <;> decide

namespace Validation

variable {terms : Terms} {expected : Expectation} {finding : Finding}

/-- The check finds something exactly when the terms do not meet the concern, and speaks of nothing
    else. -/
structure Judges (check : Check) (concern : Concern) : Prop where
  about : ∀ {terms expected finding}, check terms expected = some finding →
    finding.concern = concern ∧ finding.Quotes terms expected
  silent_iff : ∀ terms expected, check terms expected = none ↔ terms.Meets expected concern

theorem accepting_judges : Judges accepting .acceptance := by
  constructor
  · intro terms expected finding found
    unfold accepting at found
    split at found
    · cases found
      exact ⟨rfl, trivial⟩
    · cases found
  · intro terms expected
    unfold accepting Terms.Meets
    split <;> simp_all

theorem net_address_judges : Judges netAddress .address := by
  constructor
  · intro terms expected finding found
    obtain ⟨announced, told, own⟩ := Option.bind_eq_some_iff.mp found
    split at own
    · cases own
      exact ⟨rfl, told, rfl⟩
    · cases own
  · intro terms expected
    unfold netAddress Terms.Meets
    cases terms.netAddress <;> simp

theorem max_collateral_judges : Judges maxCollateral .maxCollateral := by
  constructor
  · intro terms expected finding found
    unfold maxCollateral at found
    split at found
    · cases found
      exact ⟨rfl, trivial⟩
    · cases found
  · intro terms expected
    unfold maxCollateral Currency.isZero Terms.Meets
    simp [Nat.pos_iff_ne_zero]

theorem max_duration_judges : Judges maxDuration .duration := by
  constructor
  · intro terms expected finding found
    obtain ⟨blocks, _, own⟩ := Option.bind_eq_some_iff.mp found
    split at own
    · cases own
      exact ⟨rfl, trivial⟩
    · cases own
  · intro terms expected
    unfold maxDuration Terms.Meets
    cases terms.maxDuration with
    | none => simp
    | some blocks =>
      have short : blocks < minDuration ↔ blocks.toNat < 4320 := UInt64.lt_iff_toNat_lt
      simp [short]

theorem double_is_covered_iff (collateral storagePrice : Currency) :
    (∃ double, storagePrice.times? 2 = some double ∧ double.amount ≤ collateral.amount) ↔
      2 * storagePrice.amount ≤ collateral.amount := by
  have bounded := collateral.bounded
  unfold Currency.times? Currency.ofNat?
  split
  · simp only [Option.some.injEq, exists_eq_left']
    omega
  · simp only [reduceCtorEq, false_and, exists_false, false_iff]
    omega

theorem collateral_judges : Judges collateral .collateral := by
  constructor
  · intro terms expected finding found
    unfold collateral at found
    repeat' split at found
    all_goals
      cases found
      try exact ⟨rfl, trivial⟩
  · intro terms expected
    unfold collateral Currency.isZero Terms.Meets CoversStorage
    rw [← double_is_covered_iff]
    by_cases zero : terms.collateral.amount = 0
    · simp [zero]
    by_cases below : terms.collateral.amount < terms.storagePrice.amount
    · have uncovered :=
        (double_is_covered_iff terms.collateral terms.storagePrice).not.mpr (by omega)
      simp [zero, below, uncovered]
    cases terms.storagePrice.times? 2 with
    | none => simp [zero, below]
    | some double => simp [zero, below, Nat.pos_iff_ne_zero]

theorem tip_height_judges : Judges tipHeight .tip := by
  constructor
  · intro terms expected finding found
    obtain ⟨reported, told, own⟩ := Option.bind_eq_some_iff.mp found
    dsimp only at own
    split at own
    · cases own
      exact ⟨rfl, told, rfl⟩
    · cases own
  · intro terms expected
    unfold tipHeight Terms.Meets NearTip tipTolerance
    cases terms.height with
    | none => simp
    | some reported =>
      simp
      omega

theorem release_judges : Judges release .release := by
  constructor
  · intro terms expected finding found
    obtain ⟨text, told, own⟩ := Option.bind_eq_some_iff.mp found
    cases parsed : Version.readRelease text with
    | error e =>
      rw [parsed] at own
      cases own
      exact ⟨rfl, told⟩
    | ok version =>
      rw [parsed] at own
      dsimp only at own
      split at own
      · cases own
        exact ⟨rfl, ⟨text, told, parsed⟩, rfl⟩
      · cases own
  · intro terms expected
    unfold release Terms.Meets IsUpToDate Version.isOlder
    cases terms.release with
    | none => simp
    | some text =>
      simp only [Option.bind_some, Option.some.injEq, forall_eq']
      cases Version.readRelease text with
      | error e => simp
      | ok version => simp

theorem checks_judge (generation : Generation) :
    List.Forall₂ Judges (checks generation) generation.concerns := by
  have nothing : List.Forall₂ Judges [] [] := .nil
  cases generation with
  | v2 =>
    exact .cons accepting_judges <| .cons net_address_judges <| .cons max_collateral_judges <|
      .cons collateral_judges <| .cons max_duration_judges <| .cons release_judges nothing
  | v3 =>
    exact .cons max_collateral_judges <| .cons collateral_judges <| .cons tip_height_judges nothing
  | v4 =>
    exact .cons accepting_judges <| .cons max_collateral_judges <| .cons max_duration_judges <|
      .cons collateral_judges <| .cons tip_height_judges <| .cons release_judges <|
      .cons net_address_judges nothing

theorem found_of_row {row : List Check} {concerns : List Concern}
    (judges : List.Forall₂ Judges row concerns) (terms : Terms) (expected : Expectation) :
    ((row.filterMap fun check => check terms expected).map Finding.concern).Sublist concerns ∧
      ∀ concern, concern ∈ (row.filterMap fun check => check terms expected).map Finding.concern ↔
        concern ∈ concerns ∧ ¬ terms.Meets expected concern := by
  induction judges with
  | nil => exact ⟨.slnil, by simp⟩
  | @cons check concern row concerns own _ ih =>
    obtain ⟨inOrder, unmet⟩ := ih
    have silent := own.silent_iff terms expected
    cases found : check terms expected with
    | none =>
      simp only [List.filterMap_cons, found]
      have met := silent.mp found
      refine ⟨inOrder.cons _, ?_⟩
      intro other
      rw [unmet, List.mem_cons]
      constructor
      · rintro ⟨later, fails⟩
        exact ⟨Or.inr later, fails⟩
      · rintro ⟨rfl | later, fails⟩
        · exact absurd met fails
        · exact ⟨later, fails⟩
    | some finding =>
      simp only [List.filterMap_cons, found, List.map_cons, (own.about found).1]
      have fails : ¬ terms.Meets expected concern := by
        rw [← silent, found]
        exact nofun
      refine ⟨inOrder.cons_cons _, ?_⟩
      intro other
      rw [List.mem_cons, List.mem_cons, unmet]
      constructor
      · rintro (rfl | ⟨later, failsToo⟩)
        · exact ⟨Or.inl rfl, fails⟩
        · exact ⟨Or.inr later, failsToo⟩
      · rintro ⟨rfl | later, failsToo⟩
        · exact Or.inl rfl
        · exact Or.inr ⟨later, failsToo⟩

theorem quotes_of_row {row : List Check} {concerns : List Concern}
    (judges : List.Forall₂ Judges row concerns)
    (found : finding ∈ row.filterMap fun check => check terms expected) :
    finding.Quotes terms expected := by
  obtain ⟨check, member, own⟩ := List.mem_filterMap.mp found
  induction judges with
  | nil => cases member
  | cons judge _ ih =>
    rcases List.mem_cons.mp member with rfl | later
    · exact (judge.about own).2
    · exact ih (List.mem_filterMap.mpr ⟨check, later, own⟩) later

end Validation

theorem is_error_iff (finding : Finding) : finding.isError = true ↔ finding.concern = .tip := by
  cases finding <;> simp [Finding.isError, Finding.concern]

theorem tip_is_no_concern_of_v2 : Concern.tip ∉ Generation.v2.concerns := by decide

open Validation

section Judgement

variable (settings : Settings) (expected : Expectation)

theorem findings_in_order :
    ((settings.validate expected).map Finding.concern).Sublist settings.generation.concerns :=
  (found_of_row (checks_judge settings.generation) settings.terms expected).1

theorem findings_nodup : ((settings.validate expected).map Finding.concern).Nodup :=
  (concerns_nodup settings.generation).sublist (findings_in_order settings expected)

theorem found_iff_unmet (concern : Concern) :
    (∃ finding ∈ settings.validate expected, finding.concern = concern) ↔
      ¬ settings.Meets expected concern := by
  have unmet := (found_of_row (checks_judge settings.generation) settings.terms expected).2 concern
  rw [← List.mem_map, ← terms_meet_iff]
  refine unmet.trans (and_iff_right_of_imp ?_)
  intro fails
  by_contra unreported
  exact fails (terms_meet_iff.mpr (meets_what_is_not_reported unreported))

theorem nothing_found_iff :
    settings.validate expected = [] ↔ ∀ concern, settings.Meets expected concern := by
  rw [List.eq_nil_iff_forall_not_mem]
  constructor
  · intro none concern
    by_contra fails
    obtain ⟨finding, member, _⟩ := (found_iff_unmet settings expected concern).mpr fails
    exact none finding member
  · intro all finding member
    exact (found_iff_unmet settings expected _).mp ⟨finding, member, rfl⟩ (all finding.concern)

variable {settings expected} {finding : Finding} (member : finding ∈ settings.validate expected)
include member

theorem finding_quotes : finding.Quotes settings.terms expected :=
  quotes_of_row (checks_judge settings.generation) member

theorem error_iff_off_tip : finding.isError = true ↔
    ∃ reported, settings.terms.height = some reported ∧
      ¬ NearTip reported expected.tipHeight ∧ finding = .offTip reported expected.tipHeight := by
  constructor
  · intro error
    have quoted := finding_quotes member
    have fails := (found_iff_unmet settings expected .tip).mp
      ⟨finding, member, (is_error_iff finding).mp error⟩
    cases finding with
    | offTip reported tip =>
      obtain ⟨told, rfl⟩ := quoted
      refine ⟨reported, told, ?_, rfl⟩
      intro near
      apply fails
      rw [← terms_meet_iff]
      intro other told'
      cases told.symm.trans told'
      exact near
    | _ => cases error
  · rintro ⟨reported, _, _, rfl⟩
    rfl

theorem no_error_of_v2 (old : settings.generation = .v2) : finding.isError = false := by
  have inOrder := findings_in_order settings expected
  rw [old] at inOrder
  rw [Bool.eq_false_iff]
  intro error
  have tip := (is_error_iff finding).mp error
  exact tip_is_no_concern_of_v2 (inOrder.subset (List.mem_map.mpr ⟨finding, member, tip⟩))

omit member in
theorem one_error_at_most : ((settings.validate expected).filter Finding.isError).length ≤ 1 := by
  have some : ((settings.validate expected).filter Finding.isError).Sublist
      (settings.validate expected) := List.filter_sublist
  have once := (findings_nodup settings expected).sublist (some.map Finding.concern)
  have all : ((settings.validate expected).filter Finding.isError).map Finding.concern =
      List.replicate ((settings.validate expected).filter Finding.isError).length .tip := by
    apply List.eq_replicate_iff.mpr
    refine ⟨List.length_map _, ?_⟩
    intro concern listed
    obtain ⟨finding, error, rfl⟩ := List.mem_map.mp listed
    exact (is_error_iff finding).mp (List.mem_filter.mp error).2
  rw [all] at once
  exact List.nodup_replicate.mp once

end Judgement

/-- What the judgement of any settings finds: at most one thing for each check of their generation,
    in its order, and that exactly when the settings do not meet the concern of the check. Only a
    host off the tip is in error. -/
theorem settings_are_judged (settings : Settings) (expected : Expectation) :
    let findings := settings.validate expected
    List.Forall₂ Judges (checks settings.generation) settings.generation.concerns ∧
      (findings.map Finding.concern).Sublist settings.generation.concerns ∧
      (findings.map Finding.concern).Nodup ∧
      (∀ concern, (∃ finding ∈ findings, finding.concern = concern) ↔
        ¬ settings.Meets expected concern) ∧
      (findings = [] ↔ ∀ concern, settings.Meets expected concern) ∧
      (∀ finding ∈ findings, finding.Quotes settings.terms expected) ∧
      (∀ finding ∈ findings, finding.isError = true ↔
        ∃ reported, settings.terms.height = some reported ∧
          ¬ NearTip reported expected.tipHeight ∧
          finding = .offTip reported expected.tipHeight) ∧
      (settings.generation = .v2 → ∀ finding ∈ findings, finding.isError = false) ∧
      (findings.filter Finding.isError).length ≤ 1 :=
  ⟨checks_judge settings.generation, findings_in_order settings expected,
    findings_nodup settings expected, found_iff_unmet settings expected,
    nothing_found_iff settings expected, fun _ member => finding_quotes member,
    fun _ member => error_iff_off_tip member, fun old _ member => no_error_of_v2 member old,
    one_error_at_most⟩

theorem judgement_of_old_host :
    let expected : Expectation :=
      { latest := ⟨1, 2, 3, ""⟩, tipHeight := 100, dialed := "good.example:1" }
    let settings : Settings := .v2
      { acceptingContracts := false
        netAddress := "good.example:2"
        siamuxPort := "3"
        maxCollateral := ⟨1, by decide⟩
        collateral := ⟨Nat.pow 2 128 - 1, by decide⟩
        storagePrice := ⟨Nat.pow 2 127, by decide⟩
        maxDuration := 4320
        release := "hostd v1.2.3-rc" }
    let findings : List Finding :=
      [.notAccepting, .otherAddress "good.example:2" "good.example:1", .collateralBelowDouble,
        .outdatedRelease ⟨1, 2, 3, "rc"⟩ ⟨1, 2, 3, ""⟩]
    settings.generation = .v2 ∧ settings.validate expected = findings ∧
      (∀ finding ∈ findings, finding.isError = false) ∧
      ¬ settings.Meets expected .collateral ∧ settings.Meets expected .duration := by
  intro expected settings findings
  have found : settings.validate expected = findings := by decide +kernel
  obtain ⟨_, _, _, unmet, _, _, _, old, _⟩ := settings_are_judged settings expected
  rw [found] at unmet old
  refine ⟨rfl, found, old rfl, ?_, ?_⟩
  · exact (unmet .collateral).mp ⟨.collateralBelowDouble, by decide, rfl⟩
  · by_contra fails
    have unsaid : ¬ ∃ finding ∈ findings, finding.concern = .duration := by decide
    exact unsaid ((unmet .duration).mpr fails)

end HostHealth
