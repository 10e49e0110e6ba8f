import HostHealth.Net.Ip

/- The older spellings of IPv4 addresses: one to four numbers between points, each of them
   decimal, octal after a zero, or hexadecimal after `0x`. Every number but the last is one
   byte; the last one fills all the bytes that are left. -/
namespace HostHealth.Net

open Text

namespace DottedNumbers

def octalDigit? (c : Char) : Option Nat := (digit? c).filter (· < 8)

def readNumber : List Char → Option Nat
  | '0' :: 'x' :: ds => readDigits 16 hexDigit? ds
  | '0' :: 'X' :: ds => readDigits 16 hexDigit? ds
  | '0' :: d :: ds => readDigits 8 octalDigit? (d :: ds)
  | ds => readNat ds

/-- The address of the numbers; `room` is how many values the bytes from here on can take. -/
def combine (room : Nat) : List Nat → Option Nat
  | [] => none
  | [last] => if last < room then some last else none
  | n :: rest => do
    let low ← combine (room / 256) rest
    if n < 256 then return n * (room / 256) + low else none

end DottedNumbers

def Ipv4.ofNat (n : Nat) : Ipv4 :=
  ⟨UInt8.ofNat (n >>> 24), UInt8.ofNat (n >>> 16), UInt8.ofNat (n >>> 8), UInt8.ofNat n⟩

def Ipv4.readNumbers (text : List Char) : Option Ipv4 := do
  let numbers ← (pieces (· == '.') text).mapM DottedNumbers.readNumber
  if numbers.length ≤ 4 then return ofNat (← DottedNumbers.combine UInt32.size numbers) else none

end HostHealth.Net
