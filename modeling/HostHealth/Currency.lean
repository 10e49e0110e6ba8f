import HostHealth.Text.Decimal
import HostHealth.Text.Quoted

/- Amounts of money in the smallest unit: whole numbers of 128 bits. The bound is written with
   `Nat.pow`, which is the same term with and without an algebra of monoids in scope. -/
namespace HostHealth

open Text

structure Currency where
  amount : Nat
  bounded : amount < Nat.pow 2 128
  deriving DecidableEq

inductive CurrencyError
  | invalid (text : String)
  deriving DecidableEq, Repr

def CurrencyError.message : CurrencyError → String
  | .invalid text => "invalid currency " ++ quote text

namespace Currency

def ofNat? (n : Nat) : Option Currency :=
  if bounded : n < Nat.pow 2 128 then some ⟨n, bounded⟩ else none

def isZero (c : Currency) : Bool := c.amount == 0

def times? (c : Currency) (n : Nat) : Option Currency := ofNat? (c.amount * n)

def text (c : Currency) : String := decimal c.amount

def read? (text : String) : Option Currency :=
  (readUnsigned (Nat.pow 2 128) text.toList).bind ofNat?

def read (text : String) : Except CurrencyError Currency :=
  match read? text with
  | some c => .ok c
  | none => .error (.invalid text)

end Currency
end HostHealth
