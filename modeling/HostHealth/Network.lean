import HostHealth.Clock
import HostHealth.Dns.Error
import HostHealth.Net.Address
import HostHealth.Net.Ip
import HostHealth.Net.PublicKey
import HostHealth.Settings.Basic

/- The world outside: the requests that are made of it, and what it does with each of them,
   which may change in the course of time. -/
namespace HostHealth

open Net Dns

inductive Call
  | systemLookup (host : String)
  | recordQuery (type : RecordType) (name : String) (server : SocketAddr)
  | dial (protocol : Protocol) (address : String)
  | upgrade (protocol : Protocol) (key : PublicKey)
  | scan (protocol : Protocol) (address : String)
  | consensus
  | release (org repo : String)
  deriving DecidableEq

def Call.text : Call → String
  | .systemLookup host => "system " ++ host
  | .recordQuery type name server => type.name ++ " " ++ name ++ " @" ++ server.text
  | .dial protocol address => protocol.name ++ " dial " ++ address
  | .upgrade protocol key => protocol.name ++ " upgrade " ++ key.text
  | .scan protocol address => protocol.name ++ " scan " ++ address
  | .consensus => "explorer"
  | .release org repo => "release " ++ org ++ "/" ++ repo

inductive Answer
  | ip (address : Ip)
  | alias (target : String)
  deriving DecidableEq

namespace Answer

def ip? : Answer → Option Ip
  | .ip address => some address
  | .alias _ => none

def alias? : Answer → Option String
  | .alias target => some target
  | .ip _ => none

end Answer

structure NameService where
  system : Nat → String → Reply (Except DnsError (List Ip))
  records : Nat → String → RecordType → Reply (Except DnsError (List Answer))
  /-- Whether a lookup is looked at before the token that it races with. This is up to chance, for
      every probe (by its protocol) and every lookup anew. -/
  ahead : Option Protocol → Nat → Call → Bool := fun _ _ _ => false

def NameService.silent : NameService :=
  { system := fun _ _ => .silence, records := fun _ _ _ => .silence }

def NameService.facing (names : NameService) (protocol : Protocol) : NameService :=
  { names with ahead := fun _ => names.ahead (some protocol) }

end HostHealth
