import HostHealth.Settings.Basic
import HostHealth.Version

/- Judging a host's settings. Every generation has its own row of checks, each of which
   finds at most one thing. Only a host off the current tip is in error; all other findings
   are warnings. -/
namespace HostHealth

open Net Text

structure Expectation where
  latest : Version
  tipHeight : UInt64
  dialed : String

inductive Finding
  | notAccepting
  | noMaxCollateral
  | shortDuration
  | noCollateral
  | collateralBelowStorage
  | collateralBelowDouble
  | offTip (reported tip : UInt64)
  | unknownRelease (text : String)
  | outdatedRelease (reported latest : Version)
  | otherAddress (announced dialed : String)
  deriving DecidableEq

namespace Finding

def isError : Finding → Bool
  | .offTip _ _ => true
  | _ => false

def message : Finding → String
  | .notAccepting => "host is not accepting contracts"
  | .noMaxCollateral => "host has no max collateral"
  | .shortDuration => "host has a max contract duration less than 1 month"
  | .noCollateral => "host has no collateral price"
  | .collateralBelowStorage => "host's collateral price is less than storage price"
  | .collateralBelowDouble => "host's collateral price is less than double the storage price"
  | .offTip reported tip =>
    "host's tip height " ++ decimal reported.toNat ++ " does not match the current tip height "
      ++ decimal tip.toNat
  | .unknownRelease text =>
    "host is running an unknown version " ++ quote text ++ ", which may not be stable"
  | .outdatedRelease reported latest =>
    "host is running an outdated version \"" ++ reported.text ++ "\", latest is \""
      ++ latest.text ++ "\""
  | .otherAddress announced dialed =>
    "announced net address " ++ quote announced ++ " does not match dialed address "
      ++ quote dialed

end Finding

namespace Validation

/-- Thirty days of blocks, one every ten minutes. -/
def minDuration : UInt64 := 4320

/-- Blocks that a host may be off the tip. -/
def tipTolerance : Nat := 2

abbrev Check := Terms → Expectation → Option Finding

def accepting : Check := fun terms _ =>
  if terms.acceptingContracts = some false then some .notAccepting else none

def maxCollateral : Check := fun terms _ =>
  if terms.maxCollateral.isZero then some .noMaxCollateral else none

def maxDuration : Check := fun terms _ =>
  terms.maxDuration.bind fun d => if d < minDuration then some .shortDuration else none

/-- Collateral has to cover the storage price twice. A double that takes more than 128 bits
    is above every amount. -/
def collateral : Check := fun terms _ =>
  if terms.collateral.isZero then some .noCollateral
  else if terms.collateral.amount < terms.storagePrice.amount then some .collateralBelowStorage
  else match terms.storagePrice.times? 2 with
    | none => some .collateralBelowDouble
    | some double =>
      if terms.collateral.amount < double.amount then some .collateralBelowDouble else none

def tipHeight : Check := fun terms expected =>
  terms.height.bind fun reported =>
    let tip := expected.tipHeight
    if reported.toNat + tipTolerance < tip.toNat ∨ tip.toNat + tipTolerance < reported.toNat
    then some (.offTip reported tip) else none

def release : Check := fun terms expected =>
  terms.release.bind fun text =>
    match Version.readRelease text with
    | .error _ => some (.unknownRelease text)
    | .ok version =>
      if version.isOlder expected.latest then some (.outdatedRelease version expected.latest)
      else none

def netAddress : Check := fun terms expected =>
  terms.netAddress.bind fun announced =>
    if announced ≠ expected.dialed then some (.otherAddress announced expected.dialed) else none

def checks : Generation → List Check
  | .v2 => [accepting, netAddress, maxCollateral, collateral, maxDuration, release]
  | .v3 => [maxCollateral, collateral, tipHeight]
  | .v4 => [accepting, maxCollateral, maxDuration, collateral, tipHeight, release, netAddress]

end Validation

def Settings.validate (settings : Settings) (expected : Expectation) : List Finding :=
  (Validation.checks settings.generation).filterMap fun check => check settings.terms expected

end HostHealth
