import HostHealth.Json.Record
import HostHealth.Settings.Basic

/- Settings as JSON. Nothing in the data names the generation: the first of the three
   records that fits is taken, oldest first. -/
namespace HostHealth

def Currency.ofJson (json : Json) : Option Currency := json.asText.bind read?

def Currency.toJson (c : Currency) : Json := .text c.text

def SettingsV2.ofJson (json : Json) : Option SettingsV2 := do
  match ← json.fields ["acceptingContracts", "netAddress", "siamuxPort", "maxCollateral",
      "collateral", "storagePrice", "maxDuration", "release"] with
  | [some accepting, some address, some port, some maxCollateral, some collateral,
      some storage, some duration, some release] =>
    return {
      acceptingContracts := ← accepting.asBool
      netAddress := ← address.asText
      siamuxPort := ← port.asText
      maxCollateral := ← Currency.ofJson maxCollateral
      collateral := ← Currency.ofJson collateral
      storagePrice := ← Currency.ofJson storage
      maxDuration := ← duration.asWord
      release := ← release.asText }
  | _ => none

def SettingsV2.toJson (s : SettingsV2) : Json :=
  .object [
    ("acceptingContracts", .bool s.acceptingContracts),
    ("netAddress", .text s.netAddress),
    ("siamuxPort", .text s.siamuxPort),
    ("maxCollateral", s.maxCollateral.toJson),
    ("collateral", s.collateral.toJson),
    ("storagePrice", s.storagePrice.toJson),
    ("maxDuration", .word s.maxDuration),
    ("release", .text s.release)]

def PriceTable.ofJson (json : Json) : Option PriceTable := do
  match ← json.fields ["hostBlockHeight", "maxCollateral", "collateralCost",
      "writeStoreCost"] with
  | [some height, some maxCollateral, some collateral, some storage] =>
    return {
      hostBlockHeight := ← height.asWord
      maxCollateral := ← Currency.ofJson maxCollateral
      collateralCost := ← Currency.ofJson collateral
      writeStoreCost := ← Currency.ofJson storage }
  | _ => none

def PriceTable.toJson (t : PriceTable) : Json :=
  .object [
    ("hostBlockHeight", .word t.hostBlockHeight),
    ("maxCollateral", t.maxCollateral.toJson),
    ("collateralCost", t.collateralCost.toJson),
    ("writeStoreCost", t.writeStoreCost.toJson)]

def Prices.ofJson (json : Json) : Option Prices := do
  match ← json.fields ["storagePrice", "collateral", "tipHeight"] with
  | [some storage, some collateral, some height] =>
    return {
      storagePrice := ← Currency.ofJson storage
      collateral := ← Currency.ofJson collateral
      tipHeight := ← height.asWord }
  | _ => none

def Prices.toJson (p : Prices) : Json :=
  .object [
    ("storagePrice", p.storagePrice.toJson),
    ("collateral", p.collateral.toJson),
    ("tipHeight", .word p.tipHeight)]

def SettingsV4.ofJson (json : Json) : Option SettingsV4 := do
  match ← json.fields ["acceptingContracts", "maxCollateral", "maxContractDuration", "release",
      "netAddress", "prices"] with
  | [some accepting, some maxCollateral, some duration, some release, address, some prices] =>
    return {
      acceptingContracts := ← accepting.asBool
      maxCollateral := ← Currency.ofJson maxCollateral
      maxContractDuration := ← duration.asWord
      release := ← release.asText
      netAddress := ← Json.orDefault none (Json.asOptional Json.asText) address
      prices := ← Prices.ofJson prices }
  | _ => none

def SettingsV4.toJson (s : SettingsV4) : Json :=
  .object <|
    [("acceptingContracts", .bool s.acceptingContracts),
     ("maxCollateral", s.maxCollateral.toJson),
     ("maxContractDuration", .word s.maxContractDuration),
     ("release", .text s.release)]
    ++ (s.netAddress.map fun a => ("netAddress", Json.text a)).toList
    ++ [("prices", s.prices.toJson)]

namespace Settings

def ofJson (json : Json) : Option Settings :=
  ((SettingsV2.ofJson json).map .v2)
    <|> ((PriceTable.ofJson json).map .v3)
    <|> ((SettingsV4.ofJson json).map .v4)

def maxNesting : Nat := 127

/-- Settings inside of `outside` containers of a text. They are held as a whole before their
    generation is known, so every part of them counts, foreign members too. -/
def ofNestedJson (outside : Nat) (json : Json) : Option Settings :=
  if json.isHoldable (maxNesting - outside) then ofJson json else none

def toJson : Settings → Json
  | .v2 s => s.toJson
  | .v3 t => t.toJson
  | .v4 s => s.toJson

end Settings
end HostHealth
