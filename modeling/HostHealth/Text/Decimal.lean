/- Decimal and hexadecimal digits of natural numbers. Reading is exact: a reader accepts
   only ASCII digits and never more than its stated range; leading zeros are redundant but
   allowed. -/
namespace HostHealth.Text

def digit? (c : Char) : Option Nat :=
  if '0' ≤ c ∧ c ≤ '9' then some (c.toNat - '0'.toNat) else none

def hexDigit? (c : Char) : Option Nat :=
  if '0' ≤ c ∧ c ≤ '9' then some (c.toNat - '0'.toNat)
  else if 'a' ≤ c ∧ c ≤ 'f' then some (c.toNat - 'a'.toNat + 10)
  else if 'A' ≤ c ∧ c ≤ 'F' then some (c.toNat - 'A'.toNat + 10)
  else none

def readDigits (base : Nat) (digit : Char → Option Nat) (text : List Char) : Option Nat :=
  match text with
  | [] => none
  | _ => text.foldl (fun sum c => do return (← sum) * base + (← digit c)) (some 0)

def readNat (text : List Char) : Option Nat := readDigits 10 digit? text

def readBelow (limit : Nat) (text : List Char) : Option Nat :=
  (readNat text).filter (· < limit)

def readUnsigned (limit : Nat) : List Char → Option Nat
  | '+' :: digits => readBelow limit digits
  | digits => readBelow limit digits

def digitChar (n : Nat) : Char := Char.ofNat ('0'.toNat + n)

def digits (n : Nat) : List Char :=
  if n < 10 then [digitChar n] else digits (n / 10) ++ [digitChar (n % 10)]

def decimal (n : Nat) : String := String.ofList (digits n)

def hexChar (n : Nat) : Char :=
  if n < 10 then Char.ofNat ('0'.toNat + n) else Char.ofNat ('a'.toNat + (n - 10))

def hexDigits (n : Nat) : List Char :=
  if n < 16 then [hexChar n] else hexDigits (n / 16) ++ [hexChar (n % 16)]

/-- The digits of `n`, with zeros in front up to `width` places. -/
def padded (width n : Nat) : List Char :=
  let ds := digits n
  List.replicate (width - ds.length) '0' ++ ds

end HostHealth.Text
