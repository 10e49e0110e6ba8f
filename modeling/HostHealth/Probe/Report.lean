import HostHealth.Net.Json
import HostHealth.Settings.Json
import HostHealth.Span

/- What a probe found out at one address: how far it came, how long each stage took, and
   what there is to say about it. -/
namespace HostHealth

open Net

structure ProbeReport where
  netAddress : NetAddress
  resolvedAddresses : List Ip
  connected : Bool
  dialTime : Nat
  handshake : Bool
  handshakeTime : Nat
  scanned : Bool
  scanTime : Nat
  settings : Option Settings
  errors : List String
  warnings : List String
  deriving DecidableEq

namespace ProbeReport

def untouched (address : NetAddress) : ProbeReport :=
  { netAddress := address
    resolvedAddresses := []
    connected := false
    dialTime := 0
    handshake := false
    handshakeTime := 0
    scanned := false
    scanTime := 0
    settings := none
    errors := []
    warnings := [] }

def withError (report : ProbeReport) (error : String) : ProbeReport :=
  { report with errors := report.errors ++ [error] }

/-- An address that is refused before anything is done. -/
def rejected (address : NetAddress) (error : String) : ProbeReport :=
  { untouched address with errors := [error] }

/-- An address that is left out for a reason that is no fault of the host. -/
def skipped (address : NetAddress) (warning : String) : ProbeReport :=
  { untouched address with warnings := [warning] }

def hasErrors (report : ProbeReport) : Bool := !report.errors.isEmpty

def release (report : ProbeReport) : Option String := report.settings.bind Settings.release

def readMillis (json : Json) : Option Nat := (json.asNatural UInt64.size).map Span.ofMillis

def fieldNames : List String :=
  ["netAddress", "resolvedAddresses", "connected", "dialTime", "handshake", "handshakeTime",
   "scanned", "scanTime", "settings", "errors", "warnings"]

def ofNestedJson (outside : Nat) (json : Json) : Option ProbeReport := do
  match ← json.fields fieldNames with
  | [some address, resolved, some connected, some dialTime, some handshake,
      some handshakeTime, some scanned, some scanTime, settings, errors, warnings] =>
    return {
      netAddress := ← NetAddress.ofJson address
      resolvedAddresses := ← Json.orDefault [] (Json.asList Ip.ofJson) resolved
      connected := ← connected.asBool
      dialTime := ← readMillis dialTime
      handshake := ← handshake.asBool
      handshakeTime := ← readMillis handshakeTime
      scanned := ← scanned.asBool
      scanTime := ← readMillis scanTime
      settings :=
        ← Json.orDefault none (Json.asOptional (Settings.ofNestedJson (outside + 1))) settings
      errors := ← Json.orDefault [] (Json.asList Json.asText) errors
      warnings := ← Json.orDefault [] (Json.asList Json.asText) warnings }
  | _ => none

def ofJson (json : Json) : Option ProbeReport := ofNestedJson 0 json

def toJson (report : ProbeReport) : Json :=
  .object <|
    [("netAddress", report.netAddress.toJson),
     ("resolvedAddresses", .array (report.resolvedAddresses.map Ip.toJson)),
     ("connected", .bool report.connected),
     ("dialTime", .natural (Span.dataMillis report.dialTime)),
     ("handshake", .bool report.handshake),
     ("handshakeTime", .natural (Span.dataMillis report.handshakeTime)),
     ("scanned", .bool report.scanned),
     ("scanTime", .natural (Span.dataMillis report.scanTime))]
    ++ (report.settings.map fun s => ("settings", s.toJson)).toList
    ++ [("errors", .texts report.errors), ("warnings", .texts report.warnings)]

end ProbeReport

/-- What the test of a host found out: a report for every announced address, in their order,
    and one for the address that the rhp2 settings imply. -/
structure HostReport where
  publicKey : PublicKey
  version : String
  results : List ProbeReport
  rhp3 : Option ProbeReport
  deriving DecidableEq

namespace HostReport

def all (report : HostReport) : List ProbeReport := report.results ++ report.rhp3.toList

def hasErrors (report : HostReport) : Bool := report.all.any ProbeReport.hasErrors

def ofJson (json : Json) : Option HostReport := do
  match ← json.fields ["publicKey", "version", "results", "rhp3"] with
  | [some key, some version, some results, rhp3] =>
    return {
      publicKey := ← PublicKey.ofJson key
      version := ← version.asText
      results := ← Json.asList (ProbeReport.ofNestedJson 2) results
      rhp3 := ← Json.orDefault none (Json.asOptional (ProbeReport.ofNestedJson 1)) rhp3 }
  | _ => none

def toJson (report : HostReport) : Json :=
  .object <|
    [("publicKey", report.publicKey.toJson),
     ("version", .text report.version),
     ("results", .array (report.results.map ProbeReport.toJson))]
    ++ (report.rhp3.map fun r => ("rhp3", r.toJson)).toList

end HostReport
end HostHealth
