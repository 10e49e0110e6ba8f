import HostHealth.Net.DottedNumbers

/- Dial targets that can be told without asking for a name: an address and a port, in the
   usual form or split at the last colon, the address then in any of its spellings and
   without brackets. -/
namespace HostHealth.Net.SocketAddr

open Text

def withPort (port : UInt16) : Ip → SocketAddr
  | .v4 ip => .v4 ip port
  | .v6 ip => .v6 ip 0 port

/-- An address standing for a host, as the machine's lookup takes it. -/
def ofHost (host : List Char) (port : UInt16) : Option SocketAddr :=
  match Ip.readChars host with
  | some ip => some (withPort port ip)
  | none =>
    match Ipv4.readNumbers host, cutFirst '%' host with
    | some ip, _ => some (.v4 ip port)
    | none, some (ip, scope) => do return .v6 (← Ipv6.readChars ip) (← readScope scope) port
    | none, none => none

def ofTarget (target : List Char) : Option SocketAddr :=
  match cutLast ':' target with
  | none => none
  | some (host, port) => do
    let n ← readUnsigned 65536 port
    ofHost host (UInt16.ofNat n)

def literal? (target : String) : Option SocketAddr :=
  read target <|> ofTarget target.toList

end HostHealth.Net.SocketAddr
