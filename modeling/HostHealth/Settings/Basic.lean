import HostHealth.Currency
import HostHealth.Net.Protocol

/- What a host says about itself. Each generation of the host software reports a record of
   its own; `Terms` is what the three have in common. -/
namespace HostHealth

open Net

structure SettingsV2 where
  acceptingContracts : Bool
  netAddress : String
  siamuxPort : String
  maxCollateral : Currency
  collateral : Currency
  storagePrice : Currency
  maxDuration : UInt64
  release : String
  deriving DecidableEq

structure PriceTable where
  hostBlockHeight : UInt64
  maxCollateral : Currency
  collateralCost : Currency
  writeStoreCost : Currency
  deriving DecidableEq

structure Prices where
  storagePrice : Currency
  collateral : Currency
  tipHeight : UInt64
  deriving DecidableEq

structure SettingsV4 where
  acceptingContracts : Bool
  maxCollateral : Currency
  maxContractDuration : UInt64
  release : String
  netAddress : Option String
  prices : Prices
  deriving DecidableEq

inductive Settings
  | v2 (settings : SettingsV2)
  | v3 (table : PriceTable)
  | v4 (settings : SettingsV4)
  deriving DecidableEq

/-- The terms of a host; what its generation does not report is none. -/
structure Terms where
  acceptingContracts : Option Bool
  maxCollateral : Currency
  collateral : Currency
  storagePrice : Currency
  maxDuration : Option UInt64
  height : Option UInt64
  release : Option String
  netAddress : Option String
  deriving DecidableEq

namespace Settings

def generation : Settings → Generation
  | .v2 _ => .v2
  | .v3 _ => .v3
  | .v4 _ => .v4

def release : Settings → Option String
  | .v2 s => some s.release
  | .v3 _ => none
  | .v4 s => some s.release

def terms : Settings → Terms
  | .v2 s =>
    { acceptingContracts := some s.acceptingContracts
      maxCollateral := s.maxCollateral
      collateral := s.collateral
      storagePrice := s.storagePrice
      maxDuration := some s.maxDuration
      height := none
      release := some s.release
      netAddress := some s.netAddress }
  | .v3 t =>
    { acceptingContracts := none
      maxCollateral := t.maxCollateral
      collateral := t.collateralCost
      storagePrice := t.writeStoreCost
      maxDuration := none
      height := some t.hostBlockHeight
      release := none
      netAddress := none }
  | .v4 s =>
    { acceptingContracts := some s.acceptingContracts
      maxCollateral := s.maxCollateral
      collateral := s.prices.collateral
      storagePrice := s.prices.storagePrice
      maxDuration := some s.maxContractDuration
      height := some s.prices.tipHeight
      release := some s.release
      netAddress := s.netAddress }

end Settings
end HostHealth
