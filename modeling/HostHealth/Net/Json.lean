import HostHealth.Json.Record
import HostHealth.Net.Address
import HostHealth.Net.Ip
import HostHealth.Net.PublicKey

/- Keys, addresses and hosts as JSON. -/
namespace HostHealth.Net

def Protocol.ofJson (json : Json) : Option Protocol := json.asTag.bind ofName?

def Protocol.toJson (p : Protocol) : Json := .text p.name

def Ip.ofJson (json : Json) : Option Ip := json.asText.bind read

def Ip.toJson (ip : Ip) : Json := .text ip.text

def PublicKey.ofJson (json : Json) : Option PublicKey :=
  json.asText.bind fun text => (read text).toOption

def PublicKey.toJson (key : PublicKey) : Json := .text key.text

def NetAddress.ofJson (json : Json) : Option NetAddress := do
  match ← json.fields ["address", "protocol"] with
  | [some address, some protocol] =>
    return { address := ← address.asText, protocol := ← Protocol.ofJson protocol }
  | _ => none

def NetAddress.toJson (a : NetAddress) : Json :=
  .object [("address", .text a.address), ("protocol", a.protocol.toJson)]

structure Host where
  publicKey : PublicKey
  netAddresses : List NetAddress
  deriving DecidableEq

def Host.ofJson (json : Json) : Option Host := do
  match ← json.fields ["publicKey", "netAddresses"] with
  | [some key, addresses] =>
    return {
      publicKey := ← PublicKey.ofJson key
      netAddresses := ← Json.orDefault [] (Json.asList NetAddress.ofJson) addresses }
  | _ => none

def Host.toJson (h : Host) : Json :=
  .object [
    ("publicKey", h.publicKey.toJson),
    ("netAddresses", .array (h.netAddresses.map NetAddress.toJson))]

end HostHealth.Net
