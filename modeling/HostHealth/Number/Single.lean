/- Binary numbers of single precision (24 significant bits), each held exactly as a count
   of the least positive one, 2^-149. Only values far below the overflow bound occur here,
   so infinities and NaN have no place in the type. -/
namespace HostHealth.Number

/-- The integer nearest to `num / den`; a half goes to the even neighbour. -/
def roundHalfEven (num den : Nat) : Nat :=
  let q := num / den
  let twice := 2 * (num % den)
  if twice < den then q
  else if den < twice then q + 1
  else if q % 2 = 0 then q else q + 1

structure Single where
  units : Nat
  deriving DecidableEq, Repr

namespace Single

def unitsPerOne : Nat := Nat.pow 2 149

def ofQuotient (num den : Nat) : Single :=
  let scaled := num * unitsPerOne
  let step := Nat.pow 2 (Nat.log2 (scaled / den) - 23)
  ⟨roundHalfEven scaled (den * step) * step⟩

def ofNat (n : Nat) : Single := ofQuotient n 1

def add (a b : Single) : Single := ofQuotient (a.units + b.units) unitsPerOne

def div (a b : Single) : Single := ofQuotient a.units b.units

def hundredths (a : Single) : Nat := roundHalfEven (a.units * 100) unitsPerOne

end Single
end HostHealth.Number
