/- The packet that asks a QUIC server which versions it speaks. It names a version that no
   server has, so that every server answers it with its own. -/
namespace HostHealth.Net.VersionRequest

/-- Servers need not answer smaller packets. -/
def size : Nat := 1200

/-- A long header, its fixed bit set. -/
def header : UInt8 := 0xC0

/-- Versions of the form `?a?a?a?a` are reserved. -/
def reservedVersion : List UInt8 := [0x1A, 0x2A, 0x3A, 0x4A]

def connection (name : String) : List UInt8 :=
  let bytes := name.toList.flatMap String.utf8EncodeChar
  UInt8.ofNat bytes.length :: bytes

def start : List UInt8 :=
  header :: reservedVersion ++ connection "hostchk!" ++ connection "hostchk?"

def bytes : List UInt8 := start ++ List.replicate (size - start.length) 0

end HostHealth.Net.VersionRequest
