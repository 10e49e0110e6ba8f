import HostHealth.Number.Single
import HostHealth.Text.Decimal

/- Lengths of time, as whole numbers of nanoseconds, and the three ways to write them:
   briefly for people, exactly for messages, and as milliseconds for data. -/
namespace HostHealth.Span

open Text Number

def ofMillis (ms : Nat) : Nat := ms * 1000000

def ofSeconds (secs : Nat) : Nat := secs * 1000000000

def millis (span : Nat) : Nat := span / 1000000

/-- Milliseconds as data: what does not fit 64 bits is written as the largest that does. -/
def dataMillis (span : Nat) : Nat := min (millis span) (UInt64.size - 1)

/-- Seconds in single precision: whole seconds and the rest are rounded on their own
    before they are added. -/
def singleSeconds (span : Nat) : Single :=
  let whole := Single.ofNat (span / 1000000000)
  let rest := Single.div (Single.ofNat (span % 1000000000)) (Single.ofNat 1000000000)
  whole.add rest

/-- Below a second whole milliseconds, from there on seconds with two decimals. -/
def brief (span : Nat) : String :=
  if millis span < 1000 then decimal (millis span) ++ "ms"
  else
    let cents := (singleSeconds span).hundredths
    String.ofList (digits (cents / 100) ++ '.' :: padded 2 (cents % 100)) ++ "s"

/-- `whole.part` in a unit of `10 ^ places`, without redundant zeros at the end. -/
private def inUnit (places : Nat) (span : Nat) (unit : String) : String :=
  let part := trimZeros (padded places (span % Nat.pow 10 places))
  let point := if part.isEmpty then [] else ['.']
  String.ofList (digits (span / Nat.pow 10 places) ++ point ++ part) ++ unit
where
  trimZeros (ds : List Char) : List Char := (ds.reverse.dropWhile (· == '0')).reverse

def exact (span : Nat) : String :=
  if 1000000000 ≤ span then inUnit 9 span "s"
  else if 1000000 ≤ span then inUnit 6 span "ms"
  else if 1000 ≤ span then inUnit 3 span "µs"
  else decimal span ++ "ns"

end HostHealth.Span
