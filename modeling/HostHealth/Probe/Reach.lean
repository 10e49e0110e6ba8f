import HostHealth.Net.Target
import HostHealth.Probe.Client

/- Clients that only find out whether a host can be reached. All that is told here is what a dial
   comes to when no packet leaves the machine. -/
namespace HostHealth.Probe

open Net

namespace Reach

def addresses (target : String) : Except DialError (List SocketAddr) :=
  match SocketAddr.literal? target with
  | some address => .ok [address]
  | none => .error (.dns target)

/-- No stream leads to a group of hosts. -/
def isRefused (transport : Transport) : SocketAddr → Bool
  | .v4 ip _ => transport = .stream && ip.isMulticast
  | .v6 _ _ _ => false

def unreachable : String := "Network is unreachable (os error 101)"

/-- A dial that is refused ends at once; any other one stays without an answer. -/
def dial (transport : Transport) (target : String) : Reply (Except DialError Unit) :=
  match addresses target with
  | .error e => .answer 0 (.error e)
  | .ok found =>
    if found.any (isRefused transport) then .answer 0 (.error (.io target unreachable))
    else .silence

def client (protocol : Protocol) : Client :=
  { dial := fun _ target => dial protocol.transport target
    upgrade := fun _ _ => .answer 0 (.error (.unsupported protocol))
    scan := fun _ _ => .answer 0 (.error (.unsupported protocol)) }

end Reach

def Clients.reaching : Clients :=
  Protocol.all.foldl (fun clients p => clients.register p (Reach.client p)) .empty

end HostHealth.Probe
