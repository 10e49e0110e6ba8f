import HostHealth.Inspector.Basic
import HostHealth.Proofs.Races
import HostHealth.Proofs.Requests

/- Nothing outlasts the token of a test. Every request of a lookup, of a probe and of a whole
   test is made under one token, so once that is cancelled all of them are over, by a value or
   by a crash. Nothing is said here about which of the two. -/
namespace HostHealth

open Net Timed

theorem meet_is_cancelled_no_later (caller : Token) (deadline : Nat) :
    ∃ cut, (caller.meet (.cancelledFrom deadline)).cancelledAt = some cut ∧ cut ≤ deadline := by
  obtain ⟨instant⟩ := caller
  cases instant with
  | none => exact ⟨deadline, rfl, Nat.le_refl _⟩
  | some c => exact ⟨min c deadline, rfl, Nat.min_le_right _ _⟩

theorem meet_stays_cancelled {token : Token} {cut : Nat} (cancelled : token.cancelledAt = some cut)
    (other : Token) : ∃ cut', (token.meet other).cancelledAt = some cut' ∧ cut' ≤ cut := by
  obtain ⟨instant⟩ := token
  obtain ⟨otherInstant⟩ := other
  cases cancelled
  cases otherInstant with
  | none => exact ⟨cut, rfl, Nat.le_refl _⟩
  | some c => exact ⟨min cut c, rfl, Nat.min_le_left _ _⟩

theorem deadline_comes (caller : Token) (deadline : Nat) (closing : Option Nat) :
    ∃ cut, ((caller.meet (.cancelledFrom deadline)).meet ⟨closing⟩).cancelledAt = some cut := by
  obtain ⟨_, atDeadline, _⟩ := meet_is_cancelled_no_later caller deadline
  obtain ⟨cut, atCut, _⟩ := meet_stays_cancelled atDeadline ⟨closing⟩
  exact ⟨cut, atCut⟩

theorem Probe.probe_ends_by {setup : Probe.Setup} {cut : Nat}
    (cancelled : setup.token.cancelledAt = some cut) (key : PublicKey) (address : NetAddress)
    (client : Probe.Client) : EndsBy cut (Probe.run setup key address client) := by
  have asks : Probe.Asks (fun _ activity => EndsBy cut activity) setup key address client := by
    refine ⟨⟨?_, ?_⟩, ?_, ?_, ?_⟩
    · exact fun _ => raced_ends_by _ _ _ _ _ cancelled
    · exact fun _ _ => raced_ends_by _ _ _ _ _ cancelled
    · exact request_ends_by cancelled _ _ _
    · exact request_ends_by cancelled _ _ _
    · exact request_ends_by cancelled _ _ _
  exact Probe.probe_has (ends_by_inherited cut) asks

namespace Inspector.HostTest

open Probe

variable {test : HostTest} {cut : Nat}

theorem lane_ends_by (cancelled : test.token.cancelledAt = some cut) (policy : Policy)
    (resolver : Dns.Resolver) (world : World) (seen : List Protocol) (address : NetAddress) :
    EndsBy cut (test.lane policy resolver world seen address) := by
  unfold lane
  dsimp only
  split
  · exact pure_ends_by cut _
  · split
    · exact pure_ends_by cut _
    · split
      · exact pure_ends_by cut _
      · exact rescued_ends_by _ (probe_ends_by cancelled _ _ _)

theorem derived_if_due_ends_by (cancelled : test.token.cancelledAt = some cut) (policy : Policy)
    (resolver : Dns.Resolver) (world : World) (results : List ProbeReport) :
    EndsBy cut (test.derivedIfDue policy resolver world results) :=
  derived_if_due_has (ends_by_inherited cut)
    (fun _ _ _ => probe_ends_by cancelled _ _ _) results

theorem host_test_ends_by (cancelled : test.token.cancelledAt = some cut) (policy : Policy)
    (resolver : Dns.Resolver) (world : World) : EndsBy cut (test.run policy resolver world) := by
  apply bind_ends_by (together_ends_by
    (every_lane (lane_ends_by cancelled policy resolver world) _ []))
  intro ended
  exact bind_ends_by (derived_if_due_ends_by cancelled policy resolver world _)
    fun _ => pure_ends_by cut _

end Inspector.HostTest
end HostHealth
