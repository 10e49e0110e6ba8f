import HostHealth.Clock
import HostHealth.Net.PublicKey

/- The cooldown of hosts. Every test that is let in blocks its host for a while; a refusal
   changes nothing, and what has run out is forgotten when the next test is let in. -/
namespace HostHealth.Inspector

open Net

/-- Until when each host is blocked. -/
structure Cooldown where
  expiries : List (PublicKey × Nat)

namespace Cooldown

def empty : Cooldown := ⟨[]⟩

def remaining (cooldown : Cooldown) (now : Nat) (key : PublicKey) : Option Nat :=
  match cooldown.expiries.lookup key with
  | some expiry => if now < expiry then some (expiry - now) else none
  | none => none

/-- Blocks the host for `window`, unless it is blocked; then the time that is left. -/
def claim (cooldown : Cooldown) (window : Nat) (now : Nat) (key : PublicKey) :
    Except Nat Cooldown :=
  match cooldown.remaining now key with
  | some left => .error left
  | none => .ok ⟨(key, now + window) :: cooldown.expiries.filter fun e => now < e.2⟩

end Cooldown
end HostHealth.Inspector
