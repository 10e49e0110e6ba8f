import HostHealth.Net.Protocol
import HostHealth.Text.Quoted

/- Why a dial target could not be reached, and why the conversation on it failed. -/
namespace HostHealth.Probe

open Net Text

inductive IoKind
  | refused | timedOut | other
  deriving DecidableEq, Repr

inductive DialError
  | dns (address : String)
  | refused (address : String)
  | timeout (address : String)
  | portUnreachable (port : String)
  | io (address reason : String)
  deriving DecidableEq, Repr

namespace DialError

def ofIo (address : String) (kind : IoKind) (reason : String) : DialError :=
  match kind with
  | .refused => .refused address
  | .timedOut => .timeout address
  | .other => .io address reason

def message : DialError → String
  | .dns address => "failed to resolve host " ++ quote address ++ ": check DNS setup"
  | .refused address =>
    "connection refused at " ++ quote address
      ++ ": check if the service is running and port is forwarded"
  | .timeout address =>
    "timeout connecting to " ++ quote address ++ ": check port forwarding or firewall"
  | .portUnreachable port =>
    "failed to connect to quic: check port forwarding and firewall settings for UDP port "
      ++ quote port
  | .io address reason => "failed to connect to host at " ++ quote address ++ ": " ++ reason

end DialError

inductive TransportError
  | handshake (reason : String)
  | rpc (reason : String)
  | unsupported (protocol : Protocol)
  deriving DecidableEq, Repr

def TransportError.message : TransportError → String
  | .handshake reason => reason
  | .rpc reason => reason
  | .unsupported protocol =>
    "no " ++ protocol.name ++ " handshake implementation is available"

end HostHealth.Probe
