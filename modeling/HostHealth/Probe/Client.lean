import HostHealth.Network
import HostHealth.Probe.Failure

/- Protocol clients: how the three steps of a conversation with a host turn out. -/
namespace HostHealth.Probe

open Net

structure Client where
  dial : Nat → String → Reply (Except DialError Unit)
  upgrade : Nat → PublicKey → Reply (Except TransportError Unit)
  scan : Nat → String → Reply (Except TransportError Settings)

structure Clients where
  find? : Protocol → Option Client

namespace Clients

def empty : Clients := ⟨fun _ => none⟩

def register (clients : Clients) (protocol : Protocol) (client : Client) : Clients :=
  ⟨fun p => if p = protocol then some client else clients.find? p⟩

def present (clients : Clients) : List Protocol :=
  Protocol.all.filter fun p => (clients.find? p).isSome

def describe (clients : Clients) : String :=
  let names := (clients.present.map Protocol.name).mergeSort fun a b => a ≤ b
  "ProtocolTable \x7b protocols: [" ++ ", ".intercalate (names.map Text.quote) ++ "] \x7d"

end Clients
end HostHealth.Probe
