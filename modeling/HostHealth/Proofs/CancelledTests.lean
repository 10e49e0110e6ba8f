import HostHealth.Proofs.CallDiscipline
import HostHealth.Proofs.Outcomes

/- A test that is cut at an instant, beside the same test left alone. Its lanes are cut one by one,
   and so is the probe of the derived address, which starts only when all lanes have ended. What
   was over before the cut is in the results as it would have been. -/
namespace HostHealth

open Net Timed

theorem meet_right_comm (a b c : Token) : (a.meet b).meet c = (a.meet c).meet b := by
  obtain ⟨_ | x⟩ := a <;> obtain ⟨_ | y⟩ := b <;> obtain ⟨_ | z⟩ := c
  all_goals simp [Token.meet]
  · omega
  · omega

namespace Inspector

open Probe

namespace HostTest

def cutAt (c : Nat) (test : HostTest) : HostTest :=
  { test with token := test.token.meet (.cancelledFrom c) }

/-- If there was a derived probe at all, it was cut off or had nobody to ask. -/
def DerivedGivenUp (rhp3 : Option ProbeReport) : Prop :=
  ∀ entry, rhp3 = some entry → IsCutOff entry ∨ TurnedAway entry.netAddress entry

theorem nothing_given_up : DerivedGivenUp none := by
  intro entry due
  cases due

def concluded (policy : Policy) (resolver : Dns.Resolver) (world : World) (test : HostTest)
    (ended : List (Nat × ProbeReport)) : Timed Call HostReport := do
  let results := reconcile ended
  let rhp3 ← test.derivedIfDue policy resolver world results
  return {
    publicKey := test.host.publicKey
    version := inferVersion results rhp3
    results := results
    rhp3 := rhp3 }

theorem run_of_lanes {policy : Policy} {resolver : Dns.Resolver} {world : World} {test : HostTest}
    {start u : Nat} {ended : List (Nat × ProbeReport)}
    (joined : (together (test.lanes policy resolver world [] test.host.netAddresses) start).ending =
      .returned u ended) :
    test.run policy resolver world start =
      ⟨(together (test.lanes policy resolver world [] test.host.netAddresses) start).calls ++
        (test.concluded policy resolver world ended u).calls,
        (test.concluded policy resolver world ended u).ending⟩ :=
  bind_of_returned joined

/-- None of these requests is a lookup, of whichever probe, that wins a race at `c`. -/
def Untied (c : Nat) (resolver : Dns.Resolver) (world : World) (calls : List (Nat × Call)) : Prop :=
  ∀ call ∈ calls, ∀ protocol, ¬ resolver.TiedAt c (world.names.facing protocol) call

section AtOnce

variable {c start : Nat} (policy : Policy) (resolver : Dns.Resolver) (world : World)
  {test : HostTest} (cancelled : test.token.isCancelled start = true) (late : c ≤ start)
include cancelled late

theorem lane_at_once (seen : List Protocol) (address : NetAddress) :
    AtOnce start (resolver.TiedAt c (world.names.facing address.protocol))
      (fun report => IsCutOff report ∨ TurnedAway address report)
      (test.lane policy resolver world seen address) := by
  unfold lane
  dsimp only
  split
  · exact pure_at_once (Or.inr ⟨_, Or.inl rfl⟩)
  split
  · exact pure_at_once (Or.inr ⟨_, Or.inr rfl⟩)
  split
  · exact pure_at_once (Or.inr ⟨_, Or.inl rfl⟩)
  · exact rescued_at_once _
      (probe_at_once (test.setup policy resolver world) _ _ _ cancelled late)

theorem derived_at_once (settings : SettingsV2) :
    AtOnce start (resolver.TiedAt c (world.names.facing .rhp3))
      (fun report => IsCutOff report ∨ TurnedAway report.netAddress report)
      (test.derived policy resolver world settings) := by
  unfold derived
  cases HostPort.read settings.netAddress with
  | error e => exact pure_at_once (Or.inr ⟨unreadable settings.netAddress e, Or.inl rfl⟩)
  | ok target =>
    cases world.clients.find? .rhp3 with
    | none => exact pure_at_once (Or.inr ⟨noClient .rhp3, Or.inl rfl⟩)
    | some client =>
      intro apart
      obtain ⟨report, course, fate⟩ := probe_at_once (test.setup policy resolver world)
        test.host.publicKey ⟨HostPort.join target.host settings.siamuxPort, .rhp3⟩ client cancelled
        late apart
      refine ⟨report, course, ?_⟩
      rcases fate with cutOff | ⟨text, rfl | rfl⟩
      · exact Or.inl cutOff
      · exact Or.inr ⟨text, Or.inl rfl⟩
      · exact Or.inr ⟨text, Or.inr rfl⟩

theorem derived_if_due_at_once (results : List ProbeReport) :
    AtOnce start (resolver.TiedAt c (world.names.facing .rhp3)) DerivedGivenUp
      (test.derivedIfDue policy resolver world results) := by
  unfold derivedIfDue
  split
  · split
    · apply bind_at_once (derived_at_once policy resolver world cancelled late _)
      intro report fate
      exact pure_at_once fun other same => by cases same; exact fate
    · exact pure_at_once nothing_given_up
  · exact pure_at_once nothing_given_up

theorem concluded_at_once (ended : List (Nat × ProbeReport)) :
    AtOnce start (resolver.TiedAt c (world.names.facing .rhp3))
      (fun report => DerivedGivenUp report.rhp3)
      (test.concluded policy resolver world ended) := by
  apply bind_at_once (derived_if_due_at_once policy resolver world cancelled late _)
  exact fun rhp3 given => pure_at_once given

end AtOnce

theorem late_probe_is_broken_off {policy : Policy} {resolver : Dns.Resolver} {world : World}
    {test : HostTest} {address : NetAddress} {client : Client} {start t : Nat}
    {report : ProbeReport}
    (returned : (test.probe policy resolver world address client start).ending =
      .returned t report) (cancelled : test.token.isCancelled t = true) : IsBrokenOff report := by
  have staged := returned_probe_is_staged _ _ _ _ _ _ _ returned
  have unscanned : report.scanned = false := by
    cases scanned : report.scanned with
    | false => rfl
    | true => cases cancelled.symm.trans (scanned_probe_is_open returned scanned)
  obtain ⟨one, nothing⟩ := staged.stopped unscanned
  have noSettings : report.settings = none := by
    cases settings : report.settings with
    | none => rfl
    | some own =>
      have scanned := staged.settings_iff_scanned.mp (by rw [settings]; rfl)
      cases unscanned.symm.trans scanned
  exact ⟨one, nothing, unscanned, noSettings⟩

theorem cancelled_since_cut {c start : Nat} (test : HostTest) (late : c ≤ start) :
    (test.cutAt c).token.isCancelled start = true := by
  change (test.token.meet (.cancelledFrom c)).isCancelled start = true
  rw [cancelled_meet, cancelled_from_iff.mpr late, Bool.or_true]

section Cut

variable (c : Nat) (policy : Policy) (resolver : Dns.Resolver) (world : World) (test : HostTest)

/-- The entry of a probe that was cut: the stages that it had come through, and its one error. -/
def IsCutEntry (start : Nat) (address : NetAddress) (entry : ProbeReport) : Prop :=
  ∃ client, world.clients.find? address.protocol = some client ∧
    entry = (latestBefore c (.untouched address)
      (history (test.setup policy resolver world) test.host.publicKey address client
        start)).withError canceled

variable {c policy resolver world test} in
theorem cut_entry_is_cut_off {start : Nat} {address : NetAddress} {entry : ProbeReport}
    (h : test.IsCutEntry c policy resolver world start address entry) : IsCutOff entry := by
  obtain ⟨client, _, rfl⟩ := h
  exact latest_is_cut_off

theorem lane_cut (seen : List Protocol) (address : NetAddress) :
    CleanCut c (resolver.TiedAt c (world.names.facing address.protocol))
      (test.lane policy resolver world seen address)
      ((test.cutAt c).lane policy resolver world seen address)
      fun start entry => test.IsCutEntry c policy resolver world start address entry := by
  have allowed : (test.cutAt c).legacyAllowed = test.legacyAllowed := rfl
  unfold lane
  dsimp only
  rw [allowed]
  by_cases repeated : address.protocol ∈ seen
  · rw [if_pos repeated, if_pos repeated]
    exact pure_cut _ _
  rw [if_neg repeated, if_neg repeated]
  by_cases past : (address.protocol.generation.isLegacy && !test.legacyAllowed) = true
  · rw [if_pos past, if_pos past]
    exact pure_cut _ _
  rw [if_neg past, if_neg past]
  cases registered : world.clients.find? address.protocol with
  | none => exact pure_cut _ _
  | some client =>
    apply (rescued_cut _ (probe_cut c (test.setup policy resolver world) test.host.publicKey
      address client)).weaken
    rintro start entry rfl
    exact ⟨client, registered, rfl⟩

theorem lanes_cut (seen : List Protocol) (addresses : List NetAddress) :
    List.Forall₂ (CutShort c) (test.lanes policy resolver world seen addresses)
      ((test.cutAt c).lanes policy resolver world seen addresses) := by
  induction addresses generalizing seen with
  | nil => exact .nil
  | cons address rest ih =>
    exact .cons (lane_cut c policy resolver world test seen address).toCutShort (ih _)

theorem derived_cut (settings : SettingsV2) :
    CleanCut c (resolver.TiedAt c (world.names.facing .rhp3)) (test.derived policy resolver world settings)
      ((test.cutAt c).derived policy resolver world settings)
      fun start entry => ∃ address, address.protocol = .rhp3 ∧
        test.IsCutEntry c policy resolver world start address entry := by
  unfold derived
  cases HostPort.read settings.netAddress with
  | error e => exact pure_cut _ _
  | ok target =>
    dsimp only
    cases registered : world.clients.find? .rhp3 with
    | none => exact pure_cut _ _
    | some client =>
      apply (probe_cut c (test.setup policy resolver world) test.host.publicKey
        ⟨HostPort.join target.host settings.siamuxPort, .rhp3⟩ client).weaken
      rintro start entry rfl
      exact ⟨_, rfl, client, registered, rfl⟩

theorem derived_if_due_cut (results : List ProbeReport) :
    CleanCut c (resolver.TiedAt c (world.names.facing .rhp3))
      (test.derivedIfDue policy resolver world results)
      ((test.cutAt c).derivedIfDue policy resolver world results)
      fun start rhp3 => ∃ entry address, rhp3 = some entry ∧ address.protocol = .rhp3 ∧
        test.IsCutEntry c policy resolver world start address entry := by
  have allowed : (test.cutAt c).legacyAllowed = test.legacyAllowed := rfl
  have same : (test.cutAt c).host = test.host := rfl
  unfold derivedIfDue
  rw [allowed, same]
  by_cases due : (test.legacyAllowed &&
      !(test.host.netAddresses.any fun a => a.protocol = .rhp3)) = true
  · rw [if_pos due, if_pos due]
    cases announced? results with
    | none => exact pure_cut _ _
    | some settings =>
      apply bind_cut (fun _ _ _ => False) (derived_cut c policy resolver world test settings)
      · exact fun entry => pure_cut _ _
      · rintro start entry _ ⟨address, rhp3, isCut⟩
        exact ⟨some entry, rfl, entry, address, rfl, rhp3, isCut⟩
      · intro start t entry result _ _ nothing
        exact nothing.elim
  · rw [if_neg due, if_neg due]
    exact pure_cut _ _

theorem concluded_cut (ended : List (Nat × ProbeReport)) :
    CleanCut c (resolver.TiedAt c (world.names.facing .rhp3)) (test.concluded policy resolver world ended)
      ((test.cutAt c).concluded policy resolver world ended)
      fun _ report => DerivedGivenUp report.rhp3 := by
  apply bind_cut (fun _ _ _ => False) (derived_if_due_cut c policy resolver world test _)
  · exact fun rhp3 => pure_cut _ _
  · rintro start _ _ ⟨entry, address, rfl, _, isCut⟩
    exact ⟨_, rfl, fun other same => by cases same; exact Or.inl (cut_entry_is_cut_off isCut)⟩
  · intro start t rhp3 report _ _ nothing
    exact nothing.elim

theorem host_test_cut :
    CutShort c (test.run policy resolver world) ((test.cutAt c).run policy resolver world) := by
  have lanes := together_cut_short
    (lanes_cut c policy resolver world test [] test.host.netAddresses)
    (every_lane (lane_never_crashes policy resolver world test) _ [])
    (every_lane (lane_never_crashes policy resolver world (test.cutAt c)) _ [])
  exact bind_cut_short lanes fun ended =>
    (concluded_cut c policy resolver world test ended).toCutShort

end Cut

section Outcomes

variable {c start : Nat} {wholes cuts : List (Timed Call ProbeReport)}

theorem ended_by_of_late {lane : Timed Call ProbeReport} {lanes : List (Timed Call ProbeReport)}
    {t : Nat} (late : ∀ u, (lane start).ending.instant? = some u → ¬ u ≤ t) :
    endedBy t (lane :: lanes) start = endedBy t lanes start := by
  apply List.filterMap_cons_none
  cases ended : (lane start).ending with
  | returned u report => simp [late u (by rw [ended]; rfl)]
  | crashed | pending => rfl

theorem ended_by_before_cut
    (each : List.Forall₂ (CutShort c) wholes cuts)
    {t : Nat} (soon : t < c) :
    endedBy t cuts start = endedBy t wholes start := by
  induction each with
  | nil => rfl
  | @cons whole cut wholes cuts h _ ih =>
    by_cases early : ∃ u ≤ t, (whole start).ending.instant? = some u ∨
        (cut start).ending.instant? = some u
    · obtain ⟨u, byThen, ended⟩ := early
      unfold endedBy at ih ⊢
      simp only [List.filterMap_cons, ih, h.same_if_early (by omega) ended]
    · -- Neither of the two is there by `t`, the one being cut only later.
      rw [ended_by_of_late fun u ended byThen => early ⟨u, byThen, .inr ended⟩,
        ended_by_of_late fun u ended byThen => early ⟨u, byThen, .inl ended⟩]
      exact ih

theorem outcome_before_cut
    (each : List.Forall₂ (CutShort c) wholes cuts)
    {place t : Nat} {whole : Timed Call ProbeReport} {entry : ProbeReport}
    (there : wholes[place]? = some whole)
    (outcome : outcome? wholes start whole = some (t, entry)) (soon : t < c) :
    ∃ cut, cuts[place]? = some cut ∧ outcome? cuts start cut = some (t, entry) := by
  obtain ⟨cut, found, h⟩ := forall₂_at each there
  refine ⟨cut, found, ?_⟩
  unfold outcome? at outcome ⊢
  cases ended : (whole start).ending with
  | crashed u reason =>
    rw [ended] at outcome
    cases outcome
  | pending =>
    rw [ended] at outcome
    cases outcome
  | returned u own =>
    rw [ended] at outcome
    cases outcome
    have begun : start < c := Nat.lt_of_le_of_lt (ends_after_start h.orderly ended) soon
    have same := h.kept start begun ⟨t, by rw [ended]; rfl, soon⟩
    rw [same, ended]
    dsimp only
    rw [ended_by_before_cut each soon]

end Outcomes

theorem result_before_cut {policy : Policy} {resolver : Dns.Resolver} {world : World}
    {test : HostTest} {c start t place u : Nat} {report : HostReport} {lane : Timed Call ProbeReport}
    {entry : ProbeReport}
    (returned : ((test.cutAt c).run policy resolver world start).ending = .returned t report)
    (there : (test.lanes policy resolver world [] test.host.netAddresses)[place]? = some lane)
    (outcome : outcome? (test.lanes policy resolver world [] test.host.netAddresses) start lane =
      some (u, entry)) (soon : u < c) :
    report.results[place]? = some entry := by
  have each := lanes_cut c policy resolver world test [] test.host.netAddresses
  obtain ⟨lane', found, outcome'⟩ := outcome_before_cut each there outcome soon
  obtain ⟨_, ended, joined, _⟩ := returned_bind_iff.mp returned
  obtain ⟨ran, _⟩ := returned_together_iff.mp joined
  obtain ⟨_, entry', own, listed⟩ := reconciled_outcomes ran found
  cases outcome'.symm.trans own
  rw [host_test_results joined returned, listed]

end HostTest
end Inspector
end HostHealth
