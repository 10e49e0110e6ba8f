import HostHealth.Text.Split

/- The blank characters of Unicode (property White_Space), and text read as a row of
   words between them. -/
namespace HostHealth.Text

def blanks : List (Nat × Nat) :=
  [(0x9, 0xD), (0x20, 0x20), (0x85, 0x85), (0xA0, 0xA0), (0x1680, 0x1680), (0x2000, 0x200A),
   (0x2028, 0x2029), (0x202F, 0x202F), (0x205F, 0x205F), (0x3000, 0x3000)]

def isBlank (c : Char) : Bool := blanks.any fun (lo, hi) => lo ≤ c.toNat && c.toNat ≤ hi

def words (text : List Char) : List (List Char) :=
  (pieces isBlank text).filter (· ≠ [])

end HostHealth.Text
