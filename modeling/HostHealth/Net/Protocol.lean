import HostHealth.Text.Split

/- The protocols that a host can serve, the generation of the host software that each
   belongs to, and the transport below it. -/
namespace HostHealth.Net

open Text

inductive Generation
  | v2 | v3 | v4
  deriving DecidableEq, Repr

inductive Transport
  | stream | datagram
  deriving DecidableEq, Repr

inductive Protocol
  | rhp2 | rhp3 | siamux | quic
  deriving DecidableEq, Repr

namespace Generation

def newest : Generation := .v4

def newestFirst : List Generation := [.v4, .v3, .v2]

/-- Legacy generations end with the second hardfork. -/
def isLegacy : Generation → Bool
  | .v2 | .v3 => true
  | .v4 => false

def name : Generation → String
  | .v2 => "V2"
  | .v3 => "V3"
  | .v4 => "V4"

end Generation

def Transport.name : Transport → String
  | .stream => "stream"
  | .datagram => "datagram"

namespace Protocol

def all : List Protocol := [.rhp2, .rhp3, .siamux, .quic]

def name : Protocol → String
  | .rhp2 => "rhp2"
  | .rhp3 => "rhp3"
  | .siamux => "siamux"
  | .quic => "quic"

def generation : Protocol → Generation
  | .rhp2 => .v2
  | .rhp3 => .v3
  | .siamux | .quic => .v4

def transport : Protocol → Transport
  | .quic => .datagram
  | .rhp2 | .rhp3 | .siamux => .stream

def ofName? (text : String) : Option Protocol := all.find? fun p => p.name == text

def read? (text : List Char) : Option Protocol :=
  all.find? fun p => p.name.toList == lowerAscii text

end Protocol
end HostHealth.Net
