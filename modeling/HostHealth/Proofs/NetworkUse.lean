import HostHealth.Proofs.CancelledTests
import HostHealth.Proofs.Entries
import HostHealth.Proofs.RequestLogs
import Mathlib.Data.List.Nodup
import Mathlib.Data.List.Perm.Subperm

/- What a test asks of the network, and on whose account. Each protocol has one client, and that is
   dialed once at most: for the first address that is listed with the protocol, or for the derived
   rhp3 address. -/
namespace HostHealth

open Net Timed

namespace Inspector

open Probe

namespace HostTest

theorem ended_by_last {lanes : List (Timed Call ProbeReport)} {start t : Nat}
    {ended : List (Nat × ProbeReport)}
    (ran : (together lanes start).ending = .returned t ended) : ∀ e ∈ ended, e.1 ≤ t := by
  rw [(returned_together_iff.mp ran).2]
  clear ran
  induction ended with
  | nil =>
    intro e member
    cases member
  | cons head rest ih =>
    intro e member
    rcases List.mem_cons.mp member with rfl | member
    · exact Nat.le_max_left _ _
    · exact Nat.le_trans (ih e member) (Nat.le_max_right _ _)

section Lanes

variable (policy : Policy) (resolver : Dns.Resolver) (world : World) (test : HostTest)

theorem lane_is_quiet {place : Nat} {address : NetAddress} {lane : Timed Call ProbeReport}
    (listed : test.host.netAddresses[place]? = some address)
    (there : (test.lanes policy resolver world [] test.host.netAddresses)[place]? = some lane)
    (unprobed : test.IsRepeated place address.protocol ∨ test.IsPast address.protocol ∨
      world.clients.find? address.protocol = none) (start : Nat) :
    (lane start).calls = [] := by
  obtain ⟨_, own, ofRepeated, ofFresh⟩ := lane_of_place policy resolver world listed
  cases there.symm.trans own
  by_cases repeated : test.IsRepeated place address.protocol
  · rw [ofRepeated repeated]
    rfl
  obtain ⟨ofPast, ofServed⟩ := ofFresh repeated
  by_cases past : test.IsPast address.protocol
  · rw [ofPast past]
    rfl
  rw [(ofServed past).1 (by tauto)]
  rfl

theorem lane_is_quiet_or_probes (seen : List Protocol) (address : NetAddress) :
    (∀ start, (test.lane policy resolver world seen address start).calls = []) ∨
      address.protocol ∉ seen ∧ ¬ test.IsPast address.protocol ∧ ∃ client,
        test.lane policy resolver world seen address =
          test.guardedProbe policy resolver world address client := by
  have quiet : ∀ {report : ProbeReport},
      test.lane policy resolver world seen address = pure report →
        ∀ start, (test.lane policy resolver world seen address start).calls = [] := by
    intro report same start
    rw [same]
    rfl
  by_cases repeated : address.protocol ∈ seen
  · exact Or.inl (quiet (if_pos repeated))
  by_cases past : (address.protocol.generation.isLegacy && !test.legacyAllowed) = true
  · exact Or.inl (quiet ((if_neg repeated).trans (if_pos past)))
  cases registered : world.clients.find? address.protocol with
  | none =>
    have same : test.lane policy resolver world seen address =
        pure (.rejected address (noClient address.protocol)) := by
      unfold lane
      dsimp only
      rw [if_neg repeated, if_neg past, registered]
    exact Or.inl (quiet same)
  | some client =>
    refine Or.inr ⟨repeated, mt (past_iff_not_allowed test _).mpr past, client, ?_⟩
    unfold lane
    dsimp only
    rw [if_neg repeated, if_neg past, registered]
    rfl

theorem lane_log (seen : List Protocol) (address : NetAddress) (start : Nat) :
    dialed (test.lane policy resolver world seen address start).calls <+: [address] ∧
      ∀ call ∈ (test.lane policy resolver world seen address start).calls, ∀ protocol,
        call.2.client? = some protocol → ¬ test.IsPast protocol := by
  rcases lane_is_quiet_or_probes policy resolver world test seen address
    with quiet | ⟨_, served, client, same⟩
  · rw [quiet]
    exact ⟨List.nil_prefix, fun _ member => by cases member⟩
  · rw [same, guardedProbe, calls_of_rescued]
    refine ⟨probe_dials _ _ _ _ start, ?_⟩
    intro call member protocol asked
    rw [probe_asks_own_client _ _ _ _ _ call member protocol asked]
    exact served

theorem dials_of_lanes (addresses : List NetAddress) (seen : List Protocol) (start : Nat) :
    let asked := dialed (together (test.lanes policy resolver world seen addresses) start).calls
    (asked.map NetAddress.protocol).Nodup ∧
      ∀ address ∈ asked, address.protocol ∉ seen ∧
        ∃ place : Nat, addresses[place]? = some address ∧
          ∀ j < place, ∀ other, addresses[j]? = some other →
            other.protocol ≠ address.protocol := by
  -- `seen` has the protocol of the head when it comes to the rest, so the rest cannot dial for it.
  induction addresses generalizing seen with
  | nil => exact ⟨List.nodup_nil, fun _ member => by cases member⟩
  | cons head rest ih =>
    obtain ⟨distinct, each⟩ := ih (head.protocol :: seen)
    have split : (together (test.lanes policy resolver world seen (head :: rest)) start).calls =
        (test.lane policy resolver world seen head start).calls ++
          (together (test.lanes policy resolver world (head.protocol :: seen) rest) start).calls :=
      rfl
    have later : ∀ address ∈ dialed
          (together (test.lanes policy resolver world (head.protocol :: seen) rest) start).calls,
        address.protocol ≠ head.protocol ∧ address.protocol ∉ seen ∧
          ∃ place : Nat, (head :: rest)[place]? = some address ∧ ∀ j < place, ∀ other,
            (head :: rest)[j]? = some other → other.protocol ≠ address.protocol := by
      intro address member
      obtain ⟨fresh, place, listed, first⟩ := each address member
      have unlike : address.protocol ≠ head.protocol :=
        fun same => fresh (same ▸ List.mem_cons_self)
      refine ⟨unlike, fun old => fresh (List.mem_cons_of_mem _ old), place + 1, listed, ?_⟩
      intro j before other there
      cases j with
      | zero =>
        cases there
        exact unlike.symm
      | succ j => exact first j (Nat.lt_of_succ_lt_succ before) other there
    dsimp only
    rw [split, dialed_append]
    rcases List.prefix_cons_iff.mp (lane_log policy resolver world test seen head start).1
      with none | ⟨tail, one, empty⟩
    · rw [none, List.nil_append]
      exact ⟨distinct, fun address member => (later address member).2⟩
    · cases List.prefix_nil.mp empty
      have fresh : head.protocol ∉ seen := by
        rcases lane_is_quiet_or_probes policy resolver world test seen head
          with quiet | ⟨fresh, _⟩
        · rw [quiet] at one
          cases one
        · exact fresh
      rw [one]
      refine ⟨List.nodup_cons.mpr ⟨?_, distinct⟩, ?_⟩
      · intro member
        obtain ⟨address, dials, same⟩ := List.mem_map.mp member
        exact (later address dials).1 same
      · intro address member
        rcases List.mem_cons.mp member with rfl | member
        · exact ⟨fresh, 0, rfl, fun j before => absurd before (Nat.not_lt_zero j)⟩
        · exact (later address member).2

theorem clients_of_lanes (addresses : List NetAddress) (seen : List Protocol) (start : Nat) :
    ∀ call ∈ (together (test.lanes policy resolver world seen addresses) start).calls,
      ∀ protocol, call.2.client? = some protocol → ¬ test.IsPast protocol := by
  intro call member
  rw [calls_of_together] at member
  obtain ⟨lane, there, own⟩ := List.mem_flatMap.mp member
  have each : ∀ lane ∈ test.lanes policy resolver world seen addresses,
      ∀ call ∈ (lane start).calls, ∀ protocol, call.2.client? = some protocol →
        ¬ test.IsPast protocol :=
    every_lane (fun seen address => (lane_log policy resolver world test seen address start).2)
      addresses seen
  exact each lane there call own

end Lanes

section Derived

variable (policy : Policy) (resolver : Dns.Resolver) (world : World) (test : HostTest)
  (results : List ProbeReport)

theorem derived_log (start : Nat) :
    (∃ address client, test.IsDerived world results address client ∧
      (test.derivedIfDue policy resolver world results start).calls =
        (test.probe policy resolver world address client start).calls) ∨
    (∀ address client, ¬ test.IsDerived world results address client) ∧
      (test.derivedIfDue policy resolver world results start).calls = [] := by
  unfold derivedIfDue
  by_cases due : (test.legacyAllowed &&
      !(test.host.netAddresses.any fun a => a.protocol = .rhp3)) = true
  · rw [if_pos due]
    obtain ⟨served, unlisted⟩ := (derived_due_iff test).mp due
    cases found : announced? results with
    | none =>
      refine Or.inr ⟨?_, rfl⟩
      rintro address client ⟨_, _, ⟨settings, _, same, _⟩, _⟩
      cases found.symm.trans same
    | some settings =>
      dsimp only
      rw [calls_of_bind_pure]
      unfold derived
      cases readable : HostPort.read settings.netAddress with
      | error e =>
        refine Or.inr ⟨?_, rfl⟩
        rintro address client ⟨_, _, ⟨other, target, same, read, _⟩, _⟩
        cases found.symm.trans same
        cases readable.symm.trans read
      | ok target =>
        dsimp only
        cases registered : world.clients.find? .rhp3 with
        | none =>
          refine Or.inr ⟨?_, rfl⟩
          rintro address client ⟨_, _, _, some⟩
          cases registered.symm.trans some
        | some client =>
          exact Or.inl ⟨_, client, ⟨served, unlisted, ⟨settings, target, found, readable, rfl⟩,
            registered⟩, rfl⟩
  · rw [if_neg due]
    refine Or.inr ⟨?_, rfl⟩
    rintro address client ⟨served, unlisted, _⟩
    exact due ((derived_due_iff test).mpr ⟨served, unlisted⟩)

theorem derived_dials (start : Nat) :
    ∀ address ∈ dialed (test.derivedIfDue policy resolver world results start).calls,
      ∃ client, test.IsDerived world results address client := by
  rcases derived_log policy resolver world test results start
    with ⟨address, client, derived, log⟩ | ⟨_, quiet⟩
  · rw [log]
    intro other member
    cases List.mem_singleton.mp ((probe_dials _ _ _ _ start).subset member)
    exact ⟨client, derived⟩
  · rw [quiet]
    intro _ member
    cases member

end Derived

section Whole

variable {policy : Policy} {resolver : Dns.Resolver} {world : World} {test : HostTest}

theorem host_test_log {start t : Nat} {ended : List (Nat × ProbeReport)}
    (ran : (together (test.lanes policy resolver world [] test.host.netAddresses) start).ending =
      .returned t ended) :
    (test.run policy resolver world start).calls =
      (together (test.lanes policy resolver world [] test.host.netAddresses) start).calls ++
        (test.derivedIfDue policy resolver world (reconcile ended) t).calls := by
  unfold run
  rw [bind_of_returned ran]
  exact congrArg (_ ++ ·) (calls_of_bind_pure _ _ _)

theorem dials_of_test {start t : Nat} {ended : List (Nat × ProbeReport)}
    (ran : (together (test.lanes policy resolver world [] test.host.netAddresses) start).ending =
      .returned t ended) :
    ((dialed (test.run policy resolver world start).calls).map NetAddress.protocol).Nodup ∧
      ∀ address ∈ dialed (test.run policy resolver world start).calls,
        (∃ place, test.host.netAddresses[place]? = some address ∧
          ¬ test.IsRepeated place address.protocol) ∨
        ∃ client, test.IsDerived world (reconcile ended) address client := by
  obtain ⟨distinct, listed⟩ := dials_of_lanes policy resolver world test
    test.host.netAddresses [] start
  have derived := derived_dials policy resolver world test (reconcile ended) t
  rw [host_test_log ran, dialed_append]
  refine ⟨?_, ?_⟩
  · rw [List.map_append]
    apply List.Nodup.append distinct
    · rcases derived_log policy resolver world test (reconcile ended) t
        with ⟨address, client, _, log⟩ | ⟨_, quiet⟩
      · rw [log]
        exact (List.nodup_singleton _).sublist
          ((probe_dials _ _ address client t).sublist.map NetAddress.protocol)
      · rw [quiet]
        exact List.nodup_nil
    · -- A derived address is one of rhp3, and there is none among the listed ones.
      intro protocol ofListed ofDerived
      obtain ⟨address, dials, rfl⟩ := List.mem_map.mp ofListed
      obtain ⟨other, dials', same⟩ := List.mem_map.mp ofDerived
      obtain ⟨_, place, there, _⟩ := listed address dials
      obtain ⟨client, h⟩ := derived other dials'
      obtain ⟨_, _, _, _, rfl⟩ := h.implied
      exact h.unlisted address (List.mem_of_getElem? there) same.symm
  · intro address member
    rcases List.mem_append.mp member with own | later
    · obtain ⟨_, place, there, first⟩ := listed address own
      refine Or.inl ⟨place, there, ?_⟩
      rintro ⟨j, before, other, earlier, same⟩
      exact first j before other earlier same
    · exact Or.inr (derived address later)

theorem clients_of_test {start t : Nat} {ended : List (Nat × ProbeReport)}
    (ran : (together (test.lanes policy resolver world [] test.host.netAddresses) start).ending =
      .returned t ended) :
    ∀ call ∈ (test.run policy resolver world start).calls, ∀ protocol,
      call.2.client? = some protocol → ¬ test.IsPast protocol := by
  intro call member protocol asked
  rw [host_test_log ran] at member
  rcases List.mem_append.mp member with own | later
  · exact clients_of_lanes _ _ _ _ _ [] start call own protocol asked
  · rcases derived_log policy resolver world test (reconcile ended) t
      with ⟨address, client, derived, log⟩ | ⟨_, quiet⟩
    · rw [log] at later
      obtain ⟨_, _, _, _, rfl⟩ := derived.implied
      rw [probe_asks_own_client _ _ _ _ _ call later protocol asked, ← past_iff_not_allowed,
        derived.served]
      exact Bool.false_ne_true
    · rw [quiet] at later
      cases later

end Whole

theorem protocols_are_four {protocols : List Protocol} (distinct : protocols.Nodup) :
    protocols.length ≤ 4 := by
  have all : protocols ⊆ Protocol.all := by
    intro protocol _
    cases protocol <;> decide
  exact (List.subperm_of_subset distinct all).length_le

end HostTest

open HostTest

/-- The whole log of an admitted test, whatever its clients do and whenever the inspector is
    closed. It is made of the logs of the listed addresses and of that of the derived probe, which
    starts when all of the others have ended. No protocol is dialed for twice. -/
theorem network_use_is_attributed (self next : Inspector) (known world : World) (now : Nat)
    (host : Host) (caller : Token) (test : HostTest) (closing : Option Nat)
    (admitted : self.ask known now host caller = (.ok test, next)) :
    let inspector := { next with closedAt := closing }
    let guarded := { test with token := test.token.meet ⟨closing⟩ }
    let probe := guarded.probe inspector.policy inspector.resolver world
    let lanes := guarded.lanes inspector.policy inspector.resolver world [] host.netAddresses
    let log := (inspector.course world test now).calls
    let consensus := (self.snapshot known now).consensus
    ∃ t ended later, (together lanes now).ending = .returned t ended ∧
      log = lanes.flatMap (fun lane => (lane now).calls) ++ later ∧
      ((dialed log).map NetAddress.protocol).Nodup ∧ (dialed log).length ≤ 4 ∧
      (∀ address ∈ dialed log,
        (∃ place, host.netAddresses[place]? = some address ∧
          ¬ guarded.IsRepeated place address.protocol) ∨
        ∃ client, guarded.IsDerived world (reconcile ended) address client) ∧
      (consensus.hardfork.allowHeight ≤ consensus.index.height →
        ∀ call ∈ log, call.2.client? ≠ some .rhp2 ∧ call.2.client? ≠ some .rhp3) ∧
      (∀ lane ∈ lanes, ∃ u own, (lane now).ending = .returned u own ∧
        ∀ call ∈ later, u ≤ call.1) ∧
      (∀ (place : Nat) address lane, host.netAddresses[place]? = some address →
        lanes[place]? = some lane →
        guarded.IsRepeated place address.protocol ∨ guarded.IsPast address.protocol ∨
          world.clients.find? address.protocol = none → (lane now).calls = []) ∧
      ((∃ address client, guarded.IsDerived world (reconcile ended) address client ∧
          later = (probe address client t).calls) ∨
        (∀ address client, ¬ guarded.IsDerived world (reconcile ended) address client) ∧
          later = []) := by
  intro inspector guarded probe lanes log consensus
  obtain ⟨rfl, guardedBy⟩ := test_of_admission admitted
  obtain ⟨cut, atCut⟩ := deadline_comes caller (now + self.policy.testTimeout) closing
  rw [← guardedBy] at atCut
  obtain ⟨t, ended, ran⟩ := lanes_return inspector.policy inspector.resolver world guarded atCut now
  obtain ⟨each, _⟩ := returned_together_iff.mp ran
  have split := host_test_log ran
  rw [calls_of_together] at split
  obtain ⟨distinct, owners⟩ := dials_of_test ran
  refine ⟨t, ended, _, ran, split, distinct, ?_, owners, ?_, ?_, ?_, derived_log _ _ _ _ _ t⟩
  · have few := protocols_are_four distinct
    rwa [List.length_map] at few
  · intro reached call member
    have reached' : guarded.snapshot.consensus.hardfork.allowHeight ≤
        guarded.snapshot.consensus.index.height := by
      change test.snapshot.consensus.hardfork.allowHeight ≤ test.snapshot.consensus.index.height
      rw [snapshot_of_admission admitted]
      exact reached
    exact ⟨fun asked => clients_of_test ran call member _ asked ⟨Or.inl rfl, reached'⟩,
      fun asked => clients_of_test ran call member _ asked ⟨Or.inr rfl, reached'⟩⟩
  · intro lane member
    obtain ⟨place, there⟩ := List.getElem?_of_mem member
    obtain ⟨e, found, returned⟩ := forall₂_at each there
    refine ⟨e.1, e.2, returned, ?_⟩
    intro call later
    have started := ((derived_if_due_cut 0 inspector.policy inspector.resolver world guarded
      (reconcile ended)).orderly t).1 call later
    exact Nat.le_trans (ended_by_last ran e (List.mem_of_getElem? found)) started
  · intro place address lane listed there unprobed
    exact lane_is_quiet _ _ world guarded listed there unprobed now

namespace Deriving

def known : Snapshot := ⟨⟨⟨0, ""⟩, ⟨1, 1⟩⟩, .zero⟩

def inspector : Inspector := opened .standard .standard 0 known

def host : Host :=
  ⟨.filled 1, [⟨"1.2.3.4:1", .rhp2⟩, ⟨"1.2.3.4:8", .rhp2⟩, ⟨"1.2.3.4:9", .quic⟩]⟩

def world : World :=
  { names := .silent
    clients := (Clients.empty.register .rhp2 (.answering Crashing.settings)).register .rhp3
      (.answering Crashing.settings)
    consensus := fun _ => .silence
    releaseName := fun _ => .silence }

def test : HostTest := ⟨host, known, .cancelledFrom Policy.standard.testTimeout⟩

def next : Inspector :=
  { inspector with cooldown := ⟨[(host.publicKey, Policy.standard.cooldown)]⟩ }

theorem dials_of_derived_address :
    inspector.ask world 0 host .never = (.ok test, next) ∧
      dialed (next.course world test 0).calls = [⟨"1.2.3.4:1", .rhp2⟩, ⟨"1.2.3.4:2", .rhp3⟩] ∧
      ∃ results client, test.IsDerived world results ⟨"1.2.3.4:2", .rhp3⟩ client := by
  have admitted : inspector.ask world 0 host .never = (.ok test, next) := by
    unfold ask
    rw [snapshot_before_refresh inspector world (by decide) (by decide)]
    rfl
  have dials : dialed (next.course world test 0).calls =
    [⟨"1.2.3.4:1", .rhp2⟩, ⟨"1.2.3.4:2", .rhp3⟩] := by rfl
  obtain ⟨_, ended, _, _, _, _, _, owners, _⟩ :=
    network_use_is_attributed inspector next world world 0 host .never test none admitted
  refine ⟨admitted, dials, reconcile ended, ?_⟩
  have second : (⟨"1.2.3.4:2", .rhp3⟩ : NetAddress) ∈ dialed (next.course world test 0).calls := by
    rw [dials]
    decide
  rcases owners _ second with ⟨place, listed, _⟩ | derived
  · exact absurd (List.mem_of_getElem? listed) (by decide)
  · exact derived

end Deriving
end Inspector
end HostHealth
