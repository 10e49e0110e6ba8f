import HostHealth.Number.Single
import HostHealth.Text.Decimal

/- The range of binary numbers of double precision. All that is asked of a written number is
   whether the double that it becomes is finite. -/
namespace HostHealth.Number

open Text

/-- A number as it is written, apart from its sign: the digits on both sides of the point, and
    the power of ten that follows them. -/
structure Decimal where
  whole : List Char
  part : List Char
  shift : Int

def Decimal.ofChars (written : List Char) : Decimal :=
  let body := match written with
    | '-' :: rest => rest
    | rest => rest
  let (mantissa, power) := body.span fun c => !(c == 'e' || c == 'E')
  let (whole, part) := mantissa.span fun c => !(c == '.')
  let shift : Int := match power.drop 1 with
    | '-' :: ds => -(Int.ofNat ((readNat ds).getD 0))
    | '+' :: ds => Int.ofNat ((readNat ds).getD 0)
    | ds => Int.ofNat ((readNat ds).getD 0)
  ⟨whole, part.drop 1, shift⟩

namespace Double

/-- Numbers of at least this size round to no finite double. -/
def bound : Nat := Nat.pow 2 1024 - Nat.pow 2 970

/-- The nearest number of 53 significant bits, which is the nearest double below `bound`. A half
    goes to the even neighbour. -/
def nearest (n : Nat) : Nat :=
  let step := Nat.pow 2 (Nat.log2 n - 52)
  roundHalfEven n step * step

/-- Whether a number written so is within the range, if it is rounded once and as a whole. -/
def isFinite (written : String) : Bool :=
  let number := Decimal.ofChars written.toList
  let mantissa := (readNat (number.whole ++ number.part)).getD 0
  let power := number.shift - Int.ofNat number.part.length
  let size := Int.ofNat (digits mantissa).length + power
  if mantissa = 0 ∨ size < 300 then true
  else if 320 < size then false
  else if 0 ≤ power then mantissa * Nat.pow 10 power.toNat < bound
  else mantissa < bound * Nat.pow 10 (-power).toNat

end Double
end HostHealth.Number
