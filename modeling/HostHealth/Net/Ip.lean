import HostHealth.Text.Decimal
import HostHealth.Text.Split

/- Internet addresses and their text forms. Reading takes every usual spelling, but no zone and no
   redundant zeros in a dotted part. -/
namespace HostHealth.Net

open Text

structure Ipv4 where
  a : UInt8
  b : UInt8
  c : UInt8
  d : UInt8
  deriving DecidableEq, Repr

structure Ipv6 where
  groups : List UInt16
  size : groups.length = 8 := by rfl
  deriving DecidableEq

inductive Ip
  | v4 (address : Ipv4)
  | v6 (address : Ipv6)
  deriving DecidableEq

namespace Ipv4

/-- One to three digits up to 255, without redundant zeros. -/
def readOctet (text : List Char) : Option UInt8 :=
  if text.length ≤ 3 ∧ (text.head? ≠ some '0' ∨ text.length = 1) then
    (readBelow 256 text).map UInt8.ofNat
  else none

def readChars (text : List Char) : Option Ipv4 :=
  match pieces (· == '.') text with
  | [a, b, c, d] => do return ⟨← readOctet a, ← readOctet b, ← readOctet c, ← readOctet d⟩
  | _ => none

def chars (ip : Ipv4) : List Char :=
  digits ip.a.toNat ++ '.' :: digits ip.b.toNat ++ '.' :: digits ip.c.toNat
    ++ '.' :: digits ip.d.toNat

def high (ip : Ipv4) : UInt16 := ip.a.toUInt16 * 256 + ip.b.toUInt16

def low (ip : Ipv4) : UInt16 := ip.c.toUInt16 * 256 + ip.d.toUInt16

def ofWords (high low : UInt16) : Ipv4 :=
  ⟨(high / 256).toUInt8, high.toUInt8, (low / 256).toUInt8, low.toUInt8⟩

def isMulticast (ip : Ipv4) : Bool := 224 ≤ ip.a && ip.a ≤ 239

end Ipv4

namespace Ipv6

def readGroup (text : List Char) : Option UInt16 :=
  if text.length ≤ 4 then (readDigits 16 hexDigit? text).map UInt16.ofNat else none

/-- Groups between colons; the last two may be written as an IPv4 address. -/
def readTail : List (List Char) → Option (List UInt16)
  | [] => some []
  | [last] =>
    match Ipv4.readChars last with
    | some ip => some [ip.high, ip.low]
    | none => do return [← readGroup last]
  | group :: rest => do return (← readGroup group) :: (← readTail rest)

def groupTexts (text : List Char) : List (List Char) :=
  if text.isEmpty then [] else pieces (· == ':') text

def cutGap : List Char → Option (List Char × List Char)
  | ':' :: ':' :: rest => some ([], rest)
  | c :: rest => (cutGap rest).map fun parts => (c :: parts.1, parts.2)
  | [] => none

def ofGroups? (groups : List UInt16) : Option Ipv6 :=
  if size : groups.length = 8 then some ⟨groups, size⟩ else none

/-- The gap stands for at least one zero group. -/
def readChars (text : List Char) : Option Ipv6 :=
  match cutGap text with
  | none => do ofGroups? (← readTail (groupTexts text))
  | some (front, back) => do
    let head ← (groupTexts front).mapM readGroup
    let tail ← readTail (groupTexts back)
    if head.length + tail.length < 8 then
      ofGroups? (head ++ List.replicate (8 - head.length - tail.length) 0 ++ tail)
    else none

def zerosFrom (groups : List UInt16) (i : Nat) : Nat :=
  ((groups.drop i).takeWhile (· == 0)).length

/-- Where the first longest run of zero groups starts. -/
def gapStart (groups : List UInt16) : Nat :=
  (List.range groups.length).foldl
    (fun best i => if zerosFrom groups best < zerosFrom groups i then i else best) 0

def groupChars (groups : List UInt16) : List Char :=
  [':'].intercalate (groups.map fun g => hexDigits g.toNat)

def gapped (groups : List UInt16) : List Char :=
  let start := gapStart groups
  let count := zerosFrom groups start
  if 2 ≤ count then
    groupChars (groups.take start) ++ ':' :: ':' :: groupChars (groups.drop (start + count))
  else groupChars groups

def chars (ip : Ipv6) : List Char :=
  match ip.groups with
  | [0, 0, 0, 0, 0, 0xFFFF, high, low] => "::ffff:".toList ++ (Ipv4.ofWords high low).chars
  | groups => gapped groups

end Ipv6

namespace Ip

def readChars (text : List Char) : Option Ip :=
  match Ipv4.readChars text with
  | some ip => some (.v4 ip)
  | none => (Ipv6.readChars text).map .v6

def read (text : String) : Option Ip := readChars text.toList

def chars : Ip → List Char
  | .v4 ip => ip.chars
  | .v6 ip => ip.chars

def text (ip : Ip) : String := String.ofList ip.chars

end Ip

/-- An address and a port. Only IPv6 has scopes; scope 0 is none. -/
inductive SocketAddr
  | v4 (ip : Ipv4) (port : UInt16)
  | v6 (ip : Ipv6) (scope : UInt32) (port : UInt16)
  deriving DecidableEq

namespace SocketAddr

def readPort (text : List Char) : Option UInt16 := (readBelow 65536 text).map UInt16.ofNat

def readScope (text : List Char) : Option UInt32 := (readBelow UInt32.size text).map UInt32.ofNat

def readV6 (inside port : List Char) : Option SocketAddr :=
  match cutFirst '%' inside with
  | none => do return .v6 (← Ipv6.readChars inside) 0 (← readPort port)
  | some (ip, scope) => do
    return .v6 (← Ipv6.readChars ip) (← readScope scope) (← readPort port)

def readChars : List Char → Option SocketAddr
  | '[' :: rest =>
    match cutFirst ']' rest with
    | some (inside, ':' :: port) => readV6 inside port
    | _ => none
  | text =>
    match cutFirst ':' text with
    | some (ip, port) => do return .v4 (← Ipv4.readChars ip) (← readPort port)
    | none => none

def read (text : String) : Option SocketAddr := readChars text.toList

def text : SocketAddr → String
  | .v4 ip port => String.ofList (ip.chars ++ ':' :: digits port.toNat)
  | .v6 ip scope port =>
    let zone := if scope = 0 then [] else '%' :: digits scope.toNat
    String.ofList ('[' :: ip.chars ++ zone ++ ']' :: ':' :: digits port.toNat)

end SocketAddr
end HostHealth.Net
