import HostHealth.Net.Protocol
import HostHealth.Text.Decimal
import HostHealth.Text.Quoted

/- Dial targets `host:port`, and the addresses `host:port/protocol` under which a host is
   reached. A host that holds colons stands in brackets. -/
namespace HostHealth.Net

open Text

inductive AddressError
  | missingPort (address : String)
  | missingHost (address : String)
  | tooManyColons (address : String)
  | invalidPort (port address : String)
  | unknownProtocol (text : String)
  | missingProtocol (text : String)
  deriving DecidableEq, Repr

def AddressError.message : AddressError → String
  | .missingPort address => "missing port in address " ++ quote address
  | .missingHost address => "missing host in address " ++ quote address
  | .tooManyColons address => "too many colons in address " ++ quote address
  | .invalidPort port address => "invalid port " ++ quote port ++ " in address " ++ quote address
  | .unknownProtocol text => "unknown protocol " ++ quote text
  | .missingProtocol text =>
    "missing protocol in " ++ quote text ++ ", expected <host:port>/<protocol>"

structure HostPort where
  host : String
  port : UInt16
  deriving DecidableEq, Repr

namespace HostPort

def unbracket? : List Char → Option (List Char)
  | '[' :: rest => dropLast? ']' rest
  | _ => none

/-- The host is cut off at the last colon; without brackets it may hold no other. -/
def readChars (text : List Char) : Except AddressError HostPort :=
  let address := String.ofList text
  match cutLast ':' text with
  | none => .error (.missingPort address)
  | some (front, port) => do
    let host ← match unbracket? front with
      | some inside => pure inside
      | none => if ':' ∈ front then .error (.tooManyColons address) else pure front
    if host.isEmpty then .error (.missingHost address)
    else match readUnsigned 65536 port with
      | some n => .ok ⟨String.ofList host, UInt16.ofNat n⟩
      | none => .error (.invalidPort (String.ofList port) address)

def read (text : String) : Except AddressError HostPort := readChars text.toList

/-- Brackets go around exactly the hosts that hold a colon. -/
def join (host port : String) : String :=
  if ':' ∈ host.toList then "[" ++ host ++ "]:" ++ port else host ++ ":" ++ port

end HostPort

structure NetAddress where
  address : String
  protocol : Protocol
  deriving DecidableEq, Repr

def Protocol.read (text : List Char) : Except AddressError Protocol :=
  match Protocol.read? text with
  | some protocol => .ok protocol
  | none => .error (.unknownProtocol (String.ofList text))

namespace NetAddress

def text (a : NetAddress) : String := a.address ++ "/" ++ a.protocol.name

/-- The protocol follows the last slash. -/
def read (text : String) : Except AddressError NetAddress :=
  match cutLast '/' text.toList with
  | none => .error (.missingProtocol text)
  | some (address, protocol) => do
    let _ ← HostPort.readChars address
    return ⟨String.ofList address, ← Protocol.read protocol⟩

end NetAddress
end HostHealth.Net
