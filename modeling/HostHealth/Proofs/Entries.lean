import HostHealth.Proofs.CancelledProbes
import HostHealth.Proofs.Outcomes

/- One entry for each address of a host, in their order. An address that repeats a protocol, one
   whose generation is over, and one without a client each have an entry that no other reason
   can leave, and that no probe can come to. -/
namespace HostHealth

open Net Timed

namespace Probe

/-- What a probe has to complain about before it has seen any settings. -/
inductive Complaint : String → Prop
  | canceled : Complaint canceled
  | unreadable (address : String) (e : AddressError) : Complaint (unreadable address e)
  | unresolved (host : String) (e : Dns.DnsError) : Complaint (resolveFailure host e)
  | undialed (e : DialError) : Complaint e.message
  | unshaken (e : TransportError) : Complaint ("failed to complete handshake: " ++ e.message)
  | unscanned (e : TransportError) : Complaint ("failed to get settings: " ++ e.message)

/-- A report that came through to the settings, or has one complaint. -/
def Complains (report : ProbeReport) : Prop :=
  report.scanned = true ∨ ∃ error, report.errors = [error] ∧ Complaint error

def firstChar (text : String) : Option Char := text.toList.head?

section Texts

theorem first_char_append {text : String} {c : Char} (h : firstChar text = some c) (rest : String) :
    firstChar (text ++ rest) = some c := by
  unfold firstChar at h ⊢
  simp [String.toList_append, List.head?_append, h]

theorem first_char_of_complaint {error : String} (h : Complaint error) :
    firstChar error ∈ [some 't', some 'f', some 'D', some 'c'] := by
  cases h with
  | canceled => decide
  | unreadable address e =>
    have : firstChar (unreadable address e) = some 'f' :=
      first_char_append (first_char_append (first_char_append rfl _) _) _
    simp [this]
  | unresolved host e =>
    unfold resolveFailure
    split
    · decide
    · have : firstChar ("DNS lookup " ++ Text.quote host ++
          " failed: check DNS records or wait for propagation") = some 'D' :=
        first_char_append (first_char_append rfl _) _
      simp [this]
    · have : firstChar ("failed to resolve host " ++ Text.quote host ++ ": " ++ e.message) =
          some 'f' := first_char_append (first_char_append (first_char_append rfl _) _) _
      simp [this]
  | undialed e =>
    cases e with
    | dns address =>
      have : firstChar (DialError.dns address).message = some 'f' :=
        first_char_append (first_char_append rfl _) _
      simp [this]
    | refused address =>
      have : firstChar (DialError.refused address).message = some 'c' :=
        first_char_append (first_char_append rfl _) _
      simp [this]
    | timeout address =>
      have : firstChar (DialError.timeout address).message = some 't' :=
        first_char_append (first_char_append rfl _) _
      simp [this]
    | portUnreachable port =>
      have : firstChar (DialError.portUnreachable port).message = some 'f' := first_char_append rfl _
      simp [this]
    | io address reason =>
      have : firstChar (DialError.io address reason).message = some 'f' :=
        first_char_append (first_char_append (first_char_append rfl _) _) _
      simp [this]
  | unshaken e =>
    have : firstChar ("failed to complete handshake: " ++ e.message) = some 'f' := first_char_append rfl _
    simp [this]
  | unscanned e =>
    have : firstChar ("failed to get settings: " ++ e.message) = some 'f' := first_char_append rfl _
    simp [this]

end Texts

section Stages

variable {setup : Setup} {key : PublicKey} {address : NetAddress} {client : Client}
  {report result : ProbeReport} {start t : Nat}

theorem complains_with_error (clean : report.errors = []) {error : String} (h : Complaint error) :
    Complains (report.withError error) :=
  Or.inr ⟨error, by simp [ProbeReport.withError, clean], h⟩

theorem scan_complains (clean : report.errors = [])
    (returned : (scan setup address client report start).ending = .returned t result) :
    Complains result := by
  obtain ⟨u, ⟨response, elapsed⟩, _, rest⟩ := returned_bind_iff.mp returned
  rcases response with (e | settings) | _ | _
  all_goals obtain ⟨_, rfl⟩ := returned_pure_iff.mp rest
  · have clean' : { report with scanTime := elapsed }.errors = [] := clean
    exact complains_with_error clean' (.unscanned e)
  · exact Or.inl rfl
  · exact complains_with_error clean .canceled
  · exact complains_with_error clean .canceled

theorem handshake_complains (clean : report.errors = [])
    (returned : (handshake setup key address client report start).ending = .returned t result) :
    Complains result := by
  obtain ⟨u, ⟨response, elapsed⟩, _, rest⟩ := returned_bind_iff.mp returned
  rcases response with (e | ⟨⟩) | _ | _
  · obtain ⟨_, rfl⟩ := returned_pure_iff.mp rest
    have clean' : { report with handshakeTime := elapsed }.errors = [] := clean
    exact complains_with_error clean' (.unshaken e)
  · have clean' : ({ report with handshake := true, handshakeTime := elapsed } :
        ProbeReport).errors = [] := clean
    exact scan_complains clean' rest
  · obtain ⟨_, rfl⟩ := returned_pure_iff.mp rest
    exact complains_with_error clean .canceled
  · obtain ⟨_, rfl⟩ := returned_pure_iff.mp rest
    exact complains_with_error clean .canceled

theorem dial_complains (clean : report.errors = [])
    (returned : (dial setup key address client report start).ending = .returned t result) :
    Complains result := by
  obtain ⟨u, ⟨response, elapsed⟩, _, rest⟩ := returned_bind_iff.mp returned
  rcases response with (e | ⟨⟩) | _ | _
  · obtain ⟨_, rfl⟩ := returned_pure_iff.mp rest
    have clean' : { report with dialTime := elapsed }.errors = [] := clean
    exact complains_with_error clean' (.undialed _)
  · have clean' : ({ report with connected := true, dialTime := elapsed } :
        ProbeReport).errors = [] := clean
    exact handshake_complains clean' rest
  · obtain ⟨_, rfl⟩ := returned_pure_iff.mp rest
    have clean' : { report with dialTime := elapsed }.errors = [] := clean
    exact complains_with_error clean' (.undialed _)
  · obtain ⟨_, rfl⟩ := returned_pure_iff.mp rest
    exact complains_with_error clean .canceled

theorem probe_complains
    (returned : (run setup key address client start).ending = .returned t result) :
    Complains result := by
  have clean : (ProbeReport.untouched address).errors = [] := rfl
  unfold run at returned
  cases readable : HostPort.read address.address with
  | error e =>
    rw [readable] at returned
    obtain ⟨_, rfl⟩ := returned_pure_iff.mp returned
    exact complains_with_error clean (.unreadable _ e)
  | ok target =>
    rw [readable] at returned
    obtain ⟨u, outcome, _, rest⟩ := returned_bind_iff.mp returned
    cases outcome with
    | error e =>
      obtain ⟨_, rfl⟩ := returned_pure_iff.mp rest
      exact complains_with_error clean (.unresolved _ e)
    | ok ips =>
      have clean' : { ProbeReport.untouched address with resolvedAddresses := ips }.errors = [] :=
        rfl
      exact dial_complains clean' rest

end Stages
end Probe

namespace Inspector

open Probe

namespace HostTest

def repeatedText (protocol : Protocol) : String :=
  "duplicate protocol " ++ Text.quote protocol.name

def pastText (protocol : Protocol) : String :=
  "protocol " ++ protocol.name ++ " is not supported after the v2 hardfork"

def IsRepeated (test : HostTest) (place : Nat) (protocol : Protocol) : Prop :=
  ∃ j < place, ∃ other, test.host.netAddresses[j]? = some other ∧ other.protocol = protocol

def IsPast (test : HostTest) (protocol : Protocol) : Prop :=
  (protocol = .rhp2 ∨ protocol = .rhp3) ∧
    test.snapshot.consensus.hardfork.allowHeight ≤ test.snapshot.consensus.index.height

section Lanes

variable {policy : Policy} {resolver : Dns.Resolver} {world : World} {test : HostTest}

def guardedProbe (policy : Policy) (resolver : Dns.Resolver) (world : World) (test : HostTest)
    (address : NetAddress) (client : Client) : Timed Call ProbeReport :=
  (test.probe policy resolver world address client).rescued
    fun reason => .rejected address (crashText reason)

/-- What the entry of an address says about it, beside the lanes of all addresses. -/
structure IsEntry (policy : Policy) (resolver : Dns.Resolver) (world : World) (test : HostTest)
    (start place : Nat) (address : NetAddress) (entry : ProbeReport) : Prop where
  about : entry.netAddress = address
  repeated_iff : entry = .rejected address (repeatedText address.protocol) ↔
    test.IsRepeated place address.protocol
  past_iff : ¬ test.IsRepeated place address.protocol →
    (entry = .skipped address (pastText address.protocol) ↔ test.IsPast address.protocol)
  unserved_iff : ¬ test.IsRepeated place address.protocol → ¬ test.IsPast address.protocol →
    (entry = .rejected address (noClient address.protocol) ↔
      world.clients.find? address.protocol = none)
  probed : ¬ test.IsRepeated place address.protocol → ¬ test.IsPast address.protocol →
    ∀ client, world.clients.find? address.protocol = some client →
      ∃ t own, (test.guardedProbe policy resolver world address client start).ending =
          .returned t own ∧
        entry = agreed
          (firstRelease (endedBy t
            (test.lanes policy resolver world [] test.host.netAddresses) start)) own

theorem past_iff_not_allowed (test : HostTest) (protocol : Protocol) :
    (protocol.generation.isLegacy && !test.legacyAllowed) = true ↔ test.IsPast protocol := by
  unfold IsPast legacyAllowed ConsensusState.legacyAllowed
  cases protocol <;> simp [Protocol.generation, Generation.isLegacy]

theorem lanes_length (seen : List Protocol) (addresses : List NetAddress) :
    (test.lanes policy resolver world seen addresses).length = addresses.length := by
  induction addresses generalizing seen with
  | nil => rfl
  | cons address rest ih => simp [lanes, ih]

theorem lane_of_place (policy : Policy) (resolver : Dns.Resolver) (world : World) {place : Nat}
    {address : NetAddress}
    (listed : test.host.netAddresses[place]? = some address) :
    ∃ lane, (test.lanes policy resolver world [] test.host.netAddresses)[place]? = some lane ∧
      (test.IsRepeated place address.protocol →
        lane = pure (.rejected address (repeatedText address.protocol))) ∧
      (¬ test.IsRepeated place address.protocol →
        (test.IsPast address.protocol →
          lane = pure (.skipped address (pastText address.protocol))) ∧
        (¬ test.IsPast address.protocol →
          (world.clients.find? address.protocol = none →
            lane = pure (.rejected address (noClient address.protocol))) ∧
          ∀ client, world.clients.find? address.protocol = some client →
            lane = test.guardedProbe policy resolver world address client)) := by
  obtain ⟨seen, found, known⟩ := lane_at listed []
  have seen_iff : address.protocol ∈ seen ↔ test.IsRepeated place address.protocol := by
    simpa [IsRepeated] using known address.protocol
  refine ⟨_, found policy resolver world test, ?_, ?_⟩
  · intro repeated
    unfold lane
    dsimp only
    rw [if_pos (seen_iff.mpr repeated)]
    rfl
  · intro fresh
    have unseen : address.protocol ∉ seen := fun member => fresh (seen_iff.mp member)
    unfold lane
    dsimp only
    rw [if_neg unseen]
    constructor
    · intro past
      rw [if_pos ((past_iff_not_allowed test _).mpr past)]
      rfl
    · intro served
      rw [if_neg fun past => served ((past_iff_not_allowed test _).mp past)]
      constructor
      · intro unregistered
        rw [unregistered]
      · intro client registered
        rw [registered]
        rfl

theorem guarded_probe_returned {address : NetAddress} {client : Client} {start t : Nat}
    {own : ProbeReport}
    (returned : (test.guardedProbe policy resolver world address client start).ending =
      .returned t own) :
    (test.probe policy resolver world address client start).ending = .returned t own ∨
      ∃ reason, own = .rejected address (crashText reason) := by
  unfold guardedProbe at returned
  rw [ending_of_rescued] at returned
  cases ended : (test.probe policy resolver world address client start).ending with
  | returned u value =>
    rw [ended] at returned
    exact Or.inl returned
  | crashed u reason =>
    rw [ended] at returned
    cases returned
    exact Or.inr ⟨reason, rfl⟩
  | pending =>
    rw [ended] at returned
    cases returned

/-- What no address that is not probed has to show: settings, or an error of a probe. -/
def IsProbeError (error : String) : Prop :=
  firstChar error ∈ [some 't', some 'f', some 'D', some 'c', some 'p']

theorem guarded_probe_shows {address : NetAddress} {client : Client} {start t : Nat}
    {own : ProbeReport}
    (returned : (test.guardedProbe policy resolver world address client start).ending =
      .returned t own) :
    own.netAddress = address ∧
      (own.scanned = true ∨
        newestRelease? own = none ∧ ∃ error, own.errors = [error] ∧ IsProbeError error) := by
  rcases guarded_probe_returned returned with probed | ⟨reason, rfl⟩
  · refine ⟨(probe_keeps probed).1.about, ?_⟩
    rcases probe_complains probed with scanned | ⟨error, one, complaint⟩
    · exact Or.inl scanned
    · have staged := returned_probe_is_staged _ _ _ _ _ _ _ probed
      by_cases scanned : own.scanned = true
      · exact Or.inl scanned
      · right
        refine ⟨?_, error, one, ?_⟩
        · have unset : own.settings = none := by
            rw [← Option.not_isSome_iff_eq_none, staged.settings_iff_scanned]
            exact scanned
          unfold newestRelease? ProbeReport.release
          simp [unset]
        · have := first_char_of_complaint complaint
          unfold IsProbeError
          simp only [List.mem_cons] at this ⊢
          tauto
  · refine ⟨rfl, Or.inr ⟨rejected_has_no_release _ _, crashText reason, rfl, ?_⟩⟩
    have : firstChar (crashText reason) = some 'p' := first_char_append rfl _
    simp [IsProbeError, this]

theorem outcome_of_probe_is_unlike {address : NetAddress} {client : Client} {start t : Nat}
    {own : ProbeReport}
    (returned : (test.guardedProbe policy resolver world address client start).ending =
      .returned t own) (reported : Option (Nat × String)) (other : ProbeReport)
    (unscanned : other.scanned = false)
    (unlike : ∀ error, other.errors = [error] → ¬ IsProbeError error) :
    agreed reported own ≠ other := by
  intro same
  obtain ⟨_, scanned | ⟨silent, error, one, own_error⟩⟩ := guarded_probe_shows returned
  · obtain ⟨added, kept⟩ := agreed_keeps_rest reported own
    rw [kept] at same
    rw [← same] at unscanned
    exact Bool.false_ne_true (unscanned.symm.trans scanned)
  · rw [agreed_of_silent silent] at same
    rw [← same] at unlike
    exact unlike error one own_error

theorem repeated_is_no_probe_error (protocol : Protocol) :
    ¬ IsProbeError (repeatedText protocol) := by
  have : firstChar (repeatedText protocol) = some 'd' := first_char_append rfl _
  simp [IsProbeError, this]

theorem unserved_is_no_probe_error (protocol : Protocol) :
    ¬ IsProbeError (noClient protocol) := by
  have : firstChar (noClient protocol) = some 'n' := first_char_append rfl _
  simp [IsProbeError, this]

theorem repeated_ne_unserved (protocol other : Protocol) :
    repeatedText protocol ≠ noClient other := by
  intro same
  have d : firstChar (repeatedText protocol) = some 'd' := first_char_append rfl _
  have n : firstChar (noClient other) = some 'n' := first_char_append rfl _
  rw [same, n] at d
  cases d

theorem rejected_ne_skipped (address other : NetAddress) (error warning : String) :
    ProbeReport.rejected address error ≠ .skipped other warning := by
  intro same
  cases congrArg ProbeReport.errors same

theorem rejected_inj {address : NetAddress} {error other : String}
    (same : ProbeReport.rejected address error = .rejected address other) : error = other := by
  simpa [ProbeReport.rejected] using congrArg ProbeReport.errors same

theorem outcome_of_pure {lanes : List (Timed Call ProbeReport)} {start : Nat}
    {report : ProbeReport} (silent : newestRelease? report = none) :
    outcome? lanes start (pure report) = some (start, report) := by
  change some (start, agreed (firstRelease (endedBy start lanes start)) report) = _
  rw [agreed_of_silent silent]

theorem outcome_is_entry {start place t : Nat} {address : NetAddress} {entry : ProbeReport}
    {lane : Timed Call ProbeReport}
    (listed : test.host.netAddresses[place]? = some address)
    (found : (test.lanes policy resolver world [] test.host.netAddresses)[place]? = some lane)
    (outcome : outcome? (test.lanes policy resolver world [] test.host.netAddresses) start lane =
      some (t, entry)) :
    test.IsEntry policy resolver world start place address entry := by
  obtain ⟨_, own, ofRepeated, ofFresh⟩ :=
    lane_of_place policy resolver world listed
  cases found.symm.trans own
  -- In the order of the refusals. The lane of a refused address is known, and its entry is unlike
  -- those of the refusals before; the complaints of a probe are unlike them all.
  by_cases repeated : test.IsRepeated place address.protocol
  · rw [ofRepeated repeated, outcome_of_pure (untouched_is_silent rfl)] at outcome
    cases outcome
    exact ⟨rfl, iff_of_true rfl repeated, absurd repeated, absurd repeated, absurd repeated⟩
  obtain ⟨ofPast, ofServed⟩ := ofFresh repeated
  by_cases past : test.IsPast address.protocol
  · rw [ofPast past, outcome_of_pure (untouched_is_silent rfl)] at outcome
    cases outcome
    have unlike := (rejected_ne_skipped address address (repeatedText address.protocol)
      (pastText address.protocol)).symm
    exact ⟨rfl, iff_of_false unlike repeated, fun _ => iff_of_true rfl past,
      fun _ => absurd past, fun _ => absurd past⟩
  obtain ⟨ofNone, ofSome⟩ := ofServed past
  cases registered : world.clients.find? address.protocol with
  | none =>
    rw [ofNone registered, outcome_of_pure (untouched_is_silent rfl)] at outcome
    cases outcome
    have unlike : ProbeReport.rejected address (noClient address.protocol) ≠
        .rejected address (repeatedText address.protocol) :=
      fun same => repeated_ne_unserved _ _ (rejected_inj same).symm
    refine ⟨rfl, iff_of_false unlike repeated,
      fun _ => iff_of_false (rejected_ne_skipped _ _ _ _) past,
      fun _ _ => iff_of_true rfl registered, ?_⟩
    intro _ _ client some
    cases registered.symm.trans some
  | some client =>
    rw [ofSome client registered] at outcome
    unfold outcome? at outcome
    cases ended : (test.guardedProbe policy resolver world address client start).ending with
    | crashed u reason =>
      rw [ended] at outcome
      cases outcome
    | pending =>
      rw [ended] at outcome
      cases outcome
    | returned u own =>
      rw [ended] at outcome
      cases outcome
      have unlike := outcome_of_probe_is_unlike ended
        (firstRelease (endedBy t
          (test.lanes policy resolver world [] test.host.netAddresses) start))
      obtain ⟨added, kept⟩ := agreed_keeps_rest (firstRelease (endedBy t
        (test.lanes policy resolver world [] test.host.netAddresses) start)) own
      refine ⟨?_, iff_of_false ?_ repeated, fun _ => iff_of_false ?_ past,
        fun _ _ => iff_of_false ?_ (by simp [registered]), ?_⟩
      · rw [kept]
        exact (guarded_probe_shows ended).1
      · refine unlike _ rfl fun error one => ?_
        cases one
        exact repeated_is_no_probe_error _
      · refine unlike _ rfl fun error one => ?_
        cases one
      · refine unlike _ rfl fun error one => ?_
        cases one
        exact unserved_is_no_probe_error _
      · intro _ _ other same
        cases registered.symm.trans same
        exact ⟨t, own, ended, rfl⟩

end Lanes
end HostTest

open HostTest

/-- The entries of an admitted test that returns, whenever the inspector is closed. There is one
    for each address, and what it says is the first reason not to probe the address, or else what
    the probe came to. -/
theorem every_address_has_its_entry (self next : Inspector) (known world : World) (now : Nat)
    (host : Host) (caller : Token) (test : HostTest) (closing : Option Nat) (t : Nat)
    (report : HostReport)
    (admitted : self.ask known now host caller = (.ok test, next))
    (returned : ({ next with closedAt := closing }.course world test now).ending =
      .returned t report) :
    let guarded := { test with token := test.token.meet ⟨closing⟩ }
    guarded.host = host ∧ guarded.snapshot = self.snapshot known now ∧
    report.results.length = host.netAddresses.length ∧
    ∀ place address, host.netAddresses[place]? = some address →
      ∃ entry, report.results[place]? = some entry ∧
        guarded.IsEntry next.policy next.resolver world now place address entry := by
  intro guarded
  obtain ⟨rfl, _⟩ := test_of_admission admitted
  have snapshot := snapshot_of_admission admitted
  have ran : (guarded.run next.policy next.resolver world now).ending = .returned t report :=
    returned
  obtain ⟨u, ended, joined, _⟩ := returned_bind_iff.mp ran
  obtain ⟨each, _⟩ := returned_together_iff.mp joined
  have results := host_test_results joined ran
  refine ⟨rfl, snapshot, ?_, ?_⟩
  · rw [results, reconcile_eq_map_agreed, List.length_map, ← each.length_eq, lanes_length]
  · intro place address listed
    have present : guarded.host.netAddresses[place]? = some address := listed
    obtain ⟨lane, found, _⟩ := lane_of_place next.policy next.resolver world present
    obtain ⟨v, entry, outcome, there⟩ := reconciled_outcomes each found
    exact ⟨entry, by rw [results, there], outcome_is_entry listed found outcome⟩

namespace Mixed

def known : Snapshot := ⟨⟨⟨2, ""⟩, ⟨1, 1⟩⟩, .zero⟩

def inspector : Inspector := opened .standard .standard 0 known

def host : Host :=
  ⟨.filled 1, [⟨"1.2.3.4:1", .rhp2⟩, ⟨"1.2.3.4:2", .siamux⟩, ⟨"1.2.3.4:3", .siamux⟩,
    ⟨"1.2.3.4:4", .quic⟩]⟩

def refusing : Client :=
  { dial := fun _ address => .answer 1 (.error (.refused address))
    upgrade := fun _ _ => .silence
    scan := fun _ _ => .silence }

def world : World :=
  { names := .silent
    clients := Clients.empty.register .siamux refusing
    consensus := fun _ => .silence
    releaseName := fun _ => .silence }

def test : HostTest := ⟨host, known, .cancelledFrom Policy.standard.testTimeout⟩

def next : Inspector :=
  { inspector with cooldown := ⟨[(host.publicKey, Policy.standard.cooldown)]⟩ }

def refused : ProbeReport :=
  { ProbeReport.untouched ⟨"1.2.3.4:2", .siamux⟩ with
    resolvedAddresses := [.v4 ⟨1, 2, 3, 4⟩]
    dialTime := 1
    errors := [(DialError.refused "1.2.3.4:2").message] }

def report : HostReport :=
  { publicKey := host.publicKey
    version := ""
    results :=
      [.skipped ⟨"1.2.3.4:1", .rhp2⟩ (pastText .rhp2), refused,
        .rejected ⟨"1.2.3.4:3", .siamux⟩ (repeatedText .siamux),
        .rejected ⟨"1.2.3.4:4", .quic⟩ (noClient .quic)]
    rhp3 := none }

theorem entries_of_mixed_host :
    inspector.ask world 0 host .never = (.ok test, next) ∧
      (next.course world test 0).ending = .returned 1 report ∧
      report.results.length = host.netAddresses.length ∧
      report.results[2]? = some (.rejected ⟨"1.2.3.4:3", .siamux⟩ (repeatedText .siamux)) := by
  have admitted : inspector.ask world 0 host .never = (.ok test, next) := by
    unfold ask
    rw [snapshot_before_refresh inspector world (by decide) (by decide)]
    rfl
  have returned : (next.course world test 0).ending = .returned 1 report := by rfl
  obtain ⟨_, _, size, each⟩ := every_address_has_its_entry inspector next world world 0 host .never
    test none 1 report admitted returned
  obtain ⟨entry, there, h⟩ := each 2 ⟨"1.2.3.4:3", .siamux⟩ rfl
  have repeated : test.IsRepeated 2 .siamux := ⟨1, by decide, ⟨"1.2.3.4:2", .siamux⟩, rfl, rfl⟩
  refine ⟨admitted, returned, size, ?_⟩
  rw [there, h.repeated_iff.mpr repeated]

end Mixed
end Inspector
end HostHealth
