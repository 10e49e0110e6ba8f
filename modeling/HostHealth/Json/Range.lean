import HostHealth.Number.Double
import HostHealth.Text.Decimal

/- The numbers that a reader of JSON can hold. It takes the first digits, as many as fit in 64
   bits, and scales them by a power of ten; the digits, the power and the product are rounded to
   doubles, each for itself. -/
namespace HostHealth.Json

open Number Text

/-- The digits of a number that fit in 64 bits, and the power of ten that scales them. -/
structure Significand where
  value : Nat
  power : Int

namespace Significand

/-- The digits before the point. From the first one on that does not fit they only count. -/
def ofWhole (value : Nat) : List Char → Significand
  | [] => ⟨value, 0⟩
  | c :: rest =>
    let longer := value * 10 + (digit? c).getD 0
    if longer < UInt64.size then ofWhole longer rest else ⟨value, Int.ofNat (rest.length + 1)⟩

/-- The digits behind the point. From the first one on that does not fit they are dropped. -/
def withPart (s : Significand) : List Char → Significand
  | [] => s
  | c :: rest =>
    let longer := s.value * 10 + (digit? c).getD 0
    if longer < UInt64.size then withPart ⟨longer, s.power - 1⟩ rest else s

def maxPower : Nat := 308

/-- Whether scaling ends in a finite double. Dividing cannot fail. -/
def isFinite (s : Significand) : Bool :=
  s.value = 0 || s.power < 0 ||
    s.power ≤ maxPower &&
      Double.nearest s.value * Double.nearest (Nat.pow 10 s.power.toNat) < Double.bound

end Significand

/-- Powers of ten are read as far as 32 bits hold them. -/
def maxShift : Nat := Nat.pow 2 31 - 1

def isHoldableNumber (number : Decimal) : Bool :=
  let s := (Significand.ofWhole 0 number.whole).withPart number.part
  if maxShift < number.shift.natAbs then s.value = 0 || number.shift < 0
  else { s with power := s.power + number.shift }.isFinite

end HostHealth.Json
