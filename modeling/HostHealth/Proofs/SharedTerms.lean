import HostHealth.Proofs.Verdicts
import Mathlib.Data.List.Perm.Basic

/- Where the generations of settings agree. A generation is judged by those of its concerns, and a
   concern by a few terms and no others. -/
namespace HostHealth

open Net Validation

/-- The two tell the same of all that this concern is judged by. -/
def Terms.SameAbout (a b : Terms) : Concern → Prop
  | .acceptance => a.acceptingContracts = b.acceptingContracts
  | .address => a.netAddress = b.netAddress
  | .maxCollateral => a.maxCollateral = b.maxCollateral
  | .collateral => a.collateral = b.collateral ∧ a.storagePrice = b.storagePrice
  | .duration => a.maxDuration = b.maxDuration
  | .tip => a.height = b.height
  | .release => a.release = b.release

structure SettingsV2.AgreesWith (old : SettingsV2) (new : SettingsV4) : Prop where
  acceptance : old.acceptingContracts = new.acceptingContracts
  maxCollateral : old.maxCollateral = new.maxCollateral
  collateral : old.collateral = new.prices.collateral
  storagePrice : old.storagePrice = new.prices.storagePrice
  duration : old.maxDuration = new.maxContractDuration
  release : old.release = new.release
  address : new.netAddress = some old.netAddress

structure PriceTable.AgreesWith (table : PriceTable) (new : SettingsV4) : Prop where
  maxCollateral : table.maxCollateral = new.maxCollateral
  collateral : table.collateralCost = new.prices.collateral
  storagePrice : table.writeStoreCost = new.prices.storagePrice
  height : table.hostBlockHeight = new.prices.tipHeight

namespace Validation

def checkOf : Concern → Check
  | .acceptance => accepting
  | .address => netAddress
  | .maxCollateral => maxCollateral
  | .collateral => collateral
  | .duration => maxDuration
  | .tip => tipHeight
  | .release => release

theorem checks_of_concerns (generation : Generation) :
    checks generation = generation.concerns.map checkOf := by
  cases generation <;> rfl

theorem check_of_judges (concern : Concern) : Judges (checkOf concern) concern := by
  cases concern with
  | acceptance => exact accepting_judges
  | address => exact net_address_judges
  | maxCollateral => exact max_collateral_judges
  | collateral => exact collateral_judges
  | duration => exact max_duration_judges
  | tip => exact tip_height_judges
  | release => exact release_judges

variable {a b : Terms} {concern : Concern}

theorem check_of_same (same : a.SameAbout b concern) (expected : Expectation) :
    checkOf concern a expected = checkOf concern b expected := by
  cases concern with
  | acceptance => simp only [checkOf, accepting, show a.acceptingContracts = _ from same]
  | address => simp only [checkOf, netAddress, show a.netAddress = _ from same]
  | maxCollateral => simp only [checkOf, maxCollateral, show a.maxCollateral = _ from same]
  | collateral => simp only [checkOf, collateral, same.1, same.2]
  | duration => simp only [checkOf, maxDuration, show a.maxDuration = _ from same]
  | tip => simp only [checkOf, tipHeight, show a.height = _ from same]
  | release => simp only [checkOf, release, show a.release = _ from same]

theorem found_about (terms : Terms) (expected : Expectation) (wanted : Concern → Bool)
    (concerns : List Concern) :
    ((concerns.filterMap fun c => checkOf c terms expected).filter fun f => wanted f.concern) =
      (concerns.filter wanted).filterMap fun c => checkOf c terms expected := by
  -- By induction along the concerns: a check that finds something speaks of its own concern.
  induction concerns with
  | nil => rfl
  | cons c rest ih =>
    cases found : checkOf c terms expected with
    | none =>
      by_cases kept : wanted c = true <;> simp [kept, found, ih]
    | some finding =>
      have own := ((check_of_judges c).about found).1
      by_cases kept : wanted c = true <;> simp [kept, found, own, ih]

end Validation

section Agreement

variable {expected : Expectation} {old : SettingsV2} {table : PriceTable} {new : SettingsV4}

theorem Settings.findings_by_concern (settings : Settings) (expected : Expectation) :
    settings.validate expected =
      settings.generation.concerns.filterMap fun c => checkOf c settings.terms expected := by
  unfold Settings.validate
  rw [checks_of_concerns, List.filterMap_map]
  rfl

theorem Settings.findings_about (settings : Settings) (expected : Expectation)
    (wanted : Concern → Bool) :
    ((settings.validate expected).filter fun f => wanted f.concern) =
      (settings.generation.concerns.filter wanted).filterMap fun c =>
        checkOf c settings.terms expected := by
  rw [settings.findings_by_concern, found_about]

theorem same_about_old (agrees : old.AgreesWith new) :
    ∀ c ∈ Generation.v2.concerns, (Settings.v4 new).terms.SameAbout (Settings.v2 old).terms c := by
  simp [Generation.concerns, Terms.SameAbout, Settings.terms, agrees.acceptance, agrees.maxCollateral,
    agrees.collateral, agrees.storagePrice, agrees.duration, agrees.release, agrees.address]

theorem same_about_table (agrees : table.AgreesWith new) :
    ∀ c ∈ Generation.v3.concerns, (Settings.v4 new).terms.SameAbout (Settings.v3 table).terms c := by
  simp [Generation.concerns, Terms.SameAbout, Settings.terms, agrees.maxCollateral,
    agrees.collateral, agrees.storagePrice, agrees.height]

theorem found_alike {concerns : List Concern} {a b : Terms}
    (same : ∀ c ∈ concerns, a.SameAbout b c) :
    (concerns.filterMap fun c => checkOf c a expected) =
      concerns.filterMap fun c => checkOf c b expected :=
  List.filterMap_congr fun c member => check_of_same (same c member) expected

end Agreement

/-- The findings about some concerns are those of their checks. So the findings about settings of the
    newest generation, but for that of their height, are those about older settings that report the
    same; and the findings about a price table are those about its concerns. -/
theorem generations_agree (new : SettingsV4) (expected : Expectation) :
    (∀ wanted : Concern → Bool,
      (((Settings.v4 new).validate expected).filter fun f => wanted f.concern) =
        (Generation.v4.concerns.filter wanted).filterMap fun c =>
          checkOf c (Settings.v4 new).terms expected) ∧
    (∀ old : SettingsV2, old.AgreesWith new →
      (((Settings.v4 new).validate expected).filter fun f => f.concern ≠ .tip).Perm
        ((Settings.v2 old).validate expected)) ∧
    (∀ table : PriceTable, table.AgreesWith new →
      (Settings.v3 table).validate expected =
        ((Settings.v4 new).validate expected).filter fun f =>
          f.concern ∈ [.maxCollateral, .collateral, .tip]) := by
  have about := (Settings.v4 new).findings_about expected
  refine ⟨about, ?_, ?_⟩
  · intro old agrees
    have rows : (Generation.v4.concerns.filter fun c => c ≠ .tip).Perm Generation.v2.concerns := by
      decide
    rw [about fun c => c ≠ .tip, (Settings.v2 old).findings_by_concern]
    exact (rows.filterMap _).trans (.of_eq (found_alike (same_about_old agrees)))
  · intro table agrees
    rw [about fun c => c ∈ [.maxCollateral, .collateral, .tip],
      (Settings.v3 table).findings_by_concern]
    exact (found_alike (same_about_table agrees)).symm

theorem agreement_on_bad_host :
    let new : SettingsV4 :=
      { acceptingContracts := false
        maxCollateral := ⟨0, by decide⟩
        maxContractDuration := 4319
        release := "hostd v1.5.0"
        netAddress := some "good.example:2"
        prices := ⟨⟨10, by decide⟩, ⟨9, by decide⟩, 97⟩ }
    let old : SettingsV2 :=
      { acceptingContracts := false
        netAddress := "good.example:2"
        siamuxPort := "3"
        maxCollateral := ⟨0, by decide⟩
        collateral := ⟨9, by decide⟩
        storagePrice := ⟨10, by decide⟩
        maxDuration := 4319
        release := "hostd v1.5.0" }
    let table : PriceTable := ⟨97, ⟨0, by decide⟩, ⟨9, by decide⟩, ⟨10, by decide⟩⟩
    let expected : Expectation :=
      { latest := ⟨1, 6, 0, ""⟩, tipHeight := 100, dialed := "good.example:1" }
    old.AgreesWith new ∧ table.AgreesWith new ∧
      [Finding.notAccepting, .noMaxCollateral, .shortDuration, .collateralBelowStorage,
        .outdatedRelease ⟨1, 5, 0, ""⟩ ⟨1, 6, 0, ""⟩,
        .otherAddress "good.example:2" "good.example:1"].Perm
        ((Settings.v2 old).validate expected) ∧
      (Settings.v3 table).validate expected =
        [.noMaxCollateral, .collateralBelowStorage, .offTip 97 100] := by
  intro new old table expected
  have asOld : old.AgreesWith new := ⟨rfl, rfl, rfl, rfl, rfl, rfl, rfl⟩
  have asTable : table.AgreesWith new := ⟨rfl, rfl, rfl, rfl⟩
  have found : (Settings.v4 new).validate expected =
      [.notAccepting, .noMaxCollateral, .shortDuration, .collateralBelowStorage, .offTip 97 100,
        .outdatedRelease ⟨1, 5, 0, ""⟩ ⟨1, 6, 0, ""⟩,
        .otherAddress "good.example:2" "good.example:1"] := by decide +kernel
  obtain ⟨_, byOld, byTable⟩ := generations_agree new expected
  have older := byOld old asOld
  have tabled := byTable table asTable
  rw [found] at older tabled
  exact ⟨asOld, asTable, older, tabled⟩

end HostHealth
