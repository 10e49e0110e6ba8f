import HostHealth.Proofs.Deadlines
import HostHealth.Proofs.ProbeStages

/- What becomes of a crash in a test. A listed probe that crashes leaves an entry of its own and
   harms nobody else. The probe of the derived rhp3 address has no such guard: the test as a
   whole crashes exactly when that probe does. -/
namespace HostHealth.Inspector

open Net Probe Timed

namespace HostTest

structure CrashEntry (address : NetAddress) (report : ProbeReport) : Prop where
  about : report.netAddress = address
  nothing_done : report.connected = false ∧ report.handshake = false ∧ report.scanned = false
  no_warnings : report.warnings = []
  one_error : ∃ crash, report.errors = ["probe failed: " ++ crash]

/-- The listed address at the place is probed with the client: no address before it has its
    protocol, and its generation is still served. -/
structure IsProbed (test : HostTest) (world : World) (place : Nat) (address : NetAddress)
    (client : Client) : Prop where
  listed : test.host.netAddresses[place]? = some address
  first : ∀ j < place, ∀ other, test.host.netAddresses[j]? = some other →
    other.protocol ≠ address.protocol
  served : address.protocol.generation.isLegacy = true → test.legacyAllowed = true
  registered : world.clients.find? address.protocol = some client

/-- The rhp3 address that the results of the listed addresses imply, to be probed with the
    client. -/
structure IsDerived (test : HostTest) (world : World) (results : List ProbeReport)
    (address : NetAddress) (client : Client) : Prop where
  served : test.legacyAllowed = true
  unlisted : ∀ a ∈ test.host.netAddresses, a.protocol ≠ .rhp3
  implied : ∃ settings target, announced? results = some settings ∧
    HostPort.read settings.netAddress = .ok target ∧
    address = ⟨HostPort.join target.host settings.siamuxPort, .rhp3⟩
  registered : world.clients.find? .rhp3 = some client

theorem crash_entry_of_rejected (address : NetAddress) (reason : String) :
    CrashEntry address (.rejected address (crashText reason)) := by
  refine ⟨rfl, ⟨rfl, rfl, rfl⟩, rfl, ?_⟩
  refine ⟨"task N panicked with message " ++ Text.quote reason, ?_⟩
  unfold ProbeReport.rejected crashText
  rw [← String.append_assoc]
  rfl

section Lanes

variable (policy : Policy) (resolver : Dns.Resolver) (world : World) (test : HostTest)

theorem lane_never_crashes (seen : List Protocol) (address : NetAddress) :
    NeverCrashes (test.lane policy resolver world seen address) := by
  unfold lane
  dsimp only
  split
  · exact pure_never_crashes _
  · split
    · exact pure_never_crashes _
    · split
      · exact pure_never_crashes _
      · exact rescued_never_crashes _ _

theorem lanes_return {cut : Nat} (cancelled : test.token.cancelledAt = some cut) (start : Nat) :
    ∃ t ended,
      (together (test.lanes policy resolver world [] test.host.netAddresses) start).ending =
        .returned t ended := by
  obtain ⟨t, joined, _, _⟩ := together_ends_by
    (every_lane (lane_ends_by cancelled policy resolver world) _ []) start
  obtain ⟨ended, ran⟩ := returned_of_ended joined
    (together_never_crashes (every_lane (lane_never_crashes policy resolver world test) _ [])
      start)
  exact ⟨t, ended, ran⟩

theorem lane_at {addresses : List NetAddress} {place : Nat} {address : NetAddress}
    (listed : addresses[place]? = some address) (seen : List Protocol) :
    ∃ earlier, (∀ policy resolver world (test : HostTest),
      (test.lanes policy resolver world seen addresses)[place]? =
        some (test.lane policy resolver world earlier address)) ∧
      ∀ p, p ∈ earlier ↔
        p ∈ seen ∨ ∃ j < place, ∃ other, addresses[j]? = some other ∧ other.protocol = p := by
  -- `seen` grows by each address that is passed on the way to the place.
  induction addresses generalizing place seen with
  | nil => simp at listed
  | cons head rest ih =>
    cases place with
    | zero =>
      cases listed
      exact ⟨seen, fun _ _ _ _ => rfl, by simp⟩
    | succ place =>
      obtain ⟨earlier, found, known⟩ := ih listed (head.protocol :: seen)
      refine ⟨earlier, found, ?_⟩
      intro p
      rw [known p, List.mem_cons]
      constructor
      · rintro ((rfl | old) | ⟨j, before, other, there, same⟩)
        · exact Or.inr ⟨0, Nat.succ_pos _, head, rfl, rfl⟩
        · exact Or.inl old
        · exact Or.inr ⟨j + 1, Nat.succ_lt_succ before, other, there, same⟩
      · rintro (old | ⟨j, before, other, there, same⟩)
        · exact Or.inl (Or.inr old)
        · cases j with
          | zero =>
            cases there
            exact Or.inl (Or.inl same.symm)
          | succ j => exact Or.inr ⟨j, Nat.lt_of_succ_lt_succ before, other, there, same⟩

theorem lane_of_probed {place : Nat} {address : NetAddress} {client : Client}
    (h : test.IsProbed world place address client) :
    (test.lanes policy resolver world [] test.host.netAddresses)[place]? =
      some ((test.probe policy resolver world address client).rescued
        fun reason => .rejected address (crashText reason)) := by
  obtain ⟨earlier, found, known⟩ := lane_at h.listed []
  have fresh : address.protocol ∉ earlier := by
    intro repeated
    rcases (known _).mp repeated with none | ⟨j, before, other, there, same⟩
    · cases none
    · exact h.first j before other there same
  have served : (address.protocol.generation.isLegacy && !test.legacyAllowed) = false := by
    cases legacy : address.protocol.generation.isLegacy with
    | false => rfl
    | true => simp [h.served legacy]
  rw [found]
  unfold lane
  simp [fresh, served, h.registered]

end Lanes

theorem forall₂_at {α β : Type} {related : α → β → Prop} {left : List α} {right : List β}
    (h : List.Forall₂ related left right) {place : Nat} {a : α} (there : left[place]? = some a) :
    ∃ b, right[place]? = some b ∧ related a b := by
  induction h generalizing place with
  | nil => simp at there
  | cons first _ ih =>
    cases place with
    | zero =>
      cases there
      exact ⟨_, rfl, first⟩
    | succ place => exact ih there

theorem reconcile_keeps {ended : List (Nat × ProbeReport)} {place : Nat}
    {e : Nat × ProbeReport} (there : ended[place]? = some e) (silent : newestRelease? e.2 = none) :
    (reconcile ended)[place]? = some e.2 := by
  unfold reconcile
  rw [List.getElem?_map, there, Option.map_some, silent]
  cases firstRelease ended <;> rfl

theorem rejected_has_no_release (address : NetAddress) (error : String) :
    newestRelease? (.rejected address error) = none := by
  unfold newestRelease?
  split
  · rfl
  · rfl

theorem listed_crash_is_entry {policy : Policy} {resolver : Dns.Resolver} {world : World}
    {test : HostTest} {start t : Nat} {ended : List (Nat × ProbeReport)}
    (ran : (together (test.lanes policy resolver world [] test.host.netAddresses) start).ending =
      .returned t ended)
    {place : Nat} {address : NetAddress} {client : Client}
    (probed : test.IsProbed world place address client) {u : Nat} {reason : String}
    (crashed : (test.probe policy resolver world address client start).ending =
      .crashed u reason) :
    (reconcile ended)[place]? = some (.rejected address (crashText reason)) := by
  obtain ⟨each, _⟩ := returned_together_iff.mp ran
  obtain ⟨e, there, own⟩ := forall₂_at each (lane_of_probed policy resolver world test probed)
  rw [rescued_after_crash crashed] at own
  obtain ⟨instant, report⟩ := e
  cases own
  exact reconcile_keeps there (rejected_has_no_release address (crashText reason))

theorem derived_probe_crashes_iff {policy : Policy} {resolver : Dns.Resolver} {world : World}
    {test : HostTest} {settings : SettingsV2} {start t : Nat} {reason : String} :
    (test.derived policy resolver world settings start).ending = .crashed t reason ↔
      ∃ target client, HostPort.read settings.netAddress = .ok target ∧
        world.clients.find? .rhp3 = some client ∧
        (test.probe policy resolver world
          ⟨HostPort.join target.host settings.siamuxPort, .rhp3⟩ client start).ending =
            .crashed t reason := by
  unfold derived
  cases readable : HostPort.read settings.netAddress with
  | error e => simpa using pure_never_crashes _ start t reason
  | ok target =>
    cases registered : world.clients.find? .rhp3 with
    | none => simpa using pure_never_crashes _ start t reason
    | some client => simp

theorem derived_due_iff (test : HostTest) :
    (test.legacyAllowed && !(test.host.netAddresses.any fun a => a.protocol = .rhp3)) = true ↔
      test.legacyAllowed = true ∧ ∀ a ∈ test.host.netAddresses, a.protocol ≠ .rhp3 := by
  simp

theorem derived_crashes_iff {policy : Policy} {resolver : Dns.Resolver} {world : World}
    {test : HostTest} {results : List ProbeReport} {start t : Nat} {reason : String} :
    (test.derivedIfDue policy resolver world results start).ending = .crashed t reason ↔
      ∃ address client, test.IsDerived world results address client ∧
        (test.probe policy resolver world address client start).ending = .crashed t reason := by
  unfold derivedIfDue
  constructor
  · intro crashed
    split at crashed
    · rename_i due
      obtain ⟨served, unlisted⟩ := (derived_due_iff test).mp due
      cases found : announced? results with
      | none =>
        rw [found] at crashed
        exact absurd crashed (pure_never_crashes _ start t reason)
      | some settings =>
        rw [found] at crashed
        rcases crashed_bind_iff.mp crashed with own | ⟨_, _, _, after⟩
        · obtain ⟨target, client, readable, registered, crash⟩ := derived_probe_crashes_iff.mp own
          exact ⟨_, client, ⟨served, unlisted, ⟨settings, target, found, readable, rfl⟩,
            registered⟩, crash⟩
        · exact absurd after (pure_never_crashes _ _ t reason)
    · exact absurd crashed (pure_never_crashes _ start t reason)
  · rintro ⟨address, client, derived, crash⟩
    obtain ⟨settings, target, found, readable, rfl⟩ := derived.implied
    rw [if_pos ((derived_due_iff test).mpr ⟨derived.served, derived.unlisted⟩), found]
    apply crashed_bind_iff.mpr
    exact Or.inl (derived_probe_crashes_iff.mpr
      ⟨target, client, readable, derived.registered, crash⟩)

section AfterLanes

variable {policy : Policy} {resolver : Dns.Resolver} {world : World} {test : HostTest}
  {start t u : Nat} {ended : List (Nat × ProbeReport)}
  (ran : (together (test.lanes policy resolver world [] test.host.netAddresses) start).ending =
    .returned t ended)
include ran

theorem host_test_returns_iff {report : HostReport} :
    (test.run policy resolver world start).ending = .returned u report ↔
      ∃ rhp3, (test.derivedIfDue policy resolver world (reconcile ended) t).ending =
          .returned u rhp3 ∧
        report = ⟨test.host.publicKey, inferVersion (reconcile ended) rhp3, reconcile ended,
          rhp3⟩ := by
  unfold run
  rw [ending_of_bind, ran]
  dsimp only
  rw [returned_bind_iff]
  constructor
  · rintro ⟨_, rhp3, derived, rest⟩
    obtain ⟨rfl, rfl⟩ := returned_pure_iff.mp rest
    exact ⟨rhp3, derived, rfl⟩
  · rintro ⟨rhp3, derived, rfl⟩
    exact ⟨u, rhp3, derived, returned_pure_iff.mpr ⟨rfl, rfl⟩⟩

theorem host_test_crashes_as_derived {reason : String} :
    (test.run policy resolver world start).ending = .crashed u reason ↔
      (test.derivedIfDue policy resolver world (reconcile ended) t).ending =
        .crashed u reason := by
  unfold run
  rw [ending_of_bind, ran]
  dsimp only
  rw [crashed_bind_iff]
  constructor
  · rintro (own | ⟨_, _, _, after⟩)
    · exact own
    · exact absurd after (pure_never_crashes _ _ u reason)
  · exact Or.inl

theorem host_test_crashes_iff {reason : String} :
    (test.run policy resolver world start).ending = .crashed u reason ↔
      ∃ address client, test.IsDerived world (reconcile ended) address client ∧
        (test.probe policy resolver world address client t).ending = .crashed u reason :=
  (host_test_crashes_as_derived ran).trans derived_crashes_iff

theorem host_test_results {report : HostReport}
    (returned : (test.run policy resolver world start).ending = .returned u report) :
    report.results = reconcile ended := by
  obtain ⟨rhp3, _, rfl⟩ := (host_test_returns_iff ran).mp returned
  rfl

end AfterLanes

end HostTest

theorem series_not_due {α : Type} (period : Nat) (fetch : Nat → Reply (Option α)) (free : Nat)
    {horizon due : Nat} (early : horizon < due) :
    Fetch.series period fetch horizon due free = [] := by
  unfold Fetch.series
  rw [if_neg (by omega)]

theorem snapshot_before_refresh (self : Inspector) (world : World) {t : Nat}
    (tipDue : t < self.begun + self.policy.tipRefresh)
    (releaseDue : t < self.begun + self.policy.releaseRefresh) :
    self.snapshot world t = self.initial := by
  have stillNothing : ∀ {α : Type}, Fetch.stopped self.closedAt ([] : List (Fetch α)) = [] := by
    intro α
    cases self.closedAt <;> rfl
  unfold snapshot consensusFetches releaseFetches Fetch.loop
  rw [series_not_due _ _ _ tipDue, series_not_due _ _ _ releaseDue, stillNothing, stillNothing]
  rfl

theorem test_of_admission {self next : Inspector} {world : World} {now : Nat} {host : Host}
    {caller : Token} {test : HostTest}
    (admitted : self.ask world now host caller = (.ok test, next)) :
    test.host = host ∧
      test.token = caller.meet (.cancelledFrom (now + self.policy.testTimeout)) := by
  unfold ask at admitted
  split at admitted
  · cases admitted
  · split at admitted
    · cases admitted
    · cases admitted
      exact ⟨rfl, rfl⟩

theorem snapshot_of_admission {self next : Inspector} {world : World} {now : Nat} {host : Host}
    {caller : Token} {test : HostTest}
    (admitted : self.ask world now host caller = (.ok test, next)) :
    test.snapshot = self.snapshot world now := by
  unfold ask at admitted
  split at admitted
  · cases admitted
  · split at admitted
    · cases admitted
    · cases admitted
      rfl

open HostTest

/-- The fate of an admitted test, whichever steps of whichever clients crash, and whenever the
    inspector is closed. The listed probes always come to an end, each crash among them being an
    entry. From there on the crash of the derived probe, and nothing else, crashes the test;
    otherwise it returns with those entries. -/
theorem only_derived_crash_escapes (self next : Inspector) (known world : World) (now : Nat)
    (host : Host) (caller : Token) (test : HostTest) (closing : Option Nat)
    (admitted : self.ask known now host caller = (.ok test, next)) :
    let inspector := { next with closedAt := closing }
    let guarded := { test with token := test.token.meet ⟨closing⟩ }
    let probe := guarded.probe inspector.policy inspector.resolver world
    let lanes := guarded.lanes inspector.policy inspector.resolver world [] host.netAddresses
    let course := inspector.course world test now
    ∃ t ended, (together lanes now).ending = .returned t ended ∧
      (∀ place address client, guarded.IsProbed world place address client →
        ∀ u reason, (probe address client now).ending = .crashed u reason →
          ∃ entry, (reconcile ended)[place]? = some entry ∧ CrashEntry address entry) ∧
      (∀ u reason, course.ending = .crashed u reason ↔
        ∃ address client, guarded.IsDerived world (reconcile ended) address client ∧
          (probe address client t).ending = .crashed u reason) ∧
      ((∀ u reason, course.ending ≠ .crashed u reason) →
        ∃ u report, course.ending = .returned u report ∧ report.results = reconcile ended) := by
  intro inspector guarded probe lanes course
  obtain ⟨rfl, guardedBy⟩ := test_of_admission admitted
  -- The deadline of the test is enough for all of it to end, whoever else may cancel it.
  have cancelled : ∃ cut, guarded.token.cancelledAt = some cut := by
    obtain ⟨deadline, atDeadline, _⟩ := meet_is_cancelled_no_later caller
      (now + self.policy.testTimeout)
    rw [← guardedBy] at atDeadline
    obtain ⟨cut, atCut, _⟩ := meet_stays_cancelled atDeadline ⟨closing⟩
    exact ⟨cut, atCut⟩
  obtain ⟨cut, atCut⟩ := cancelled
  obtain ⟨t, joined, _, _⟩ :=
    together_ends_by
      (every_lane (lane_ends_by atCut inspector.policy inspector.resolver world) _ []) now
  obtain ⟨ended, ran⟩ := returned_of_ended joined
    (together_never_crashes (every_lane (lane_never_crashes _ _ world guarded) _ []) now)
  refine ⟨t, ended, ran, ?_, ?_, ?_⟩
  · intro place address client probed u reason crashed
    exact ⟨_, listed_crash_is_entry ran probed crashed, crash_entry_of_rejected address reason⟩
  · intro u reason
    exact host_test_crashes_iff ran
  · intro unharmed
    obtain ⟨u, finished, _, _⟩ :=
      host_test_ends_by atCut inspector.policy inspector.resolver world now
    obtain ⟨report, returned⟩ := returned_of_ended finished unharmed
    exact ⟨u, report, returned, host_test_results ran returned⟩

namespace Crashing

def known : Snapshot := ⟨⟨⟨0, ""⟩, ⟨1, 1⟩⟩, .zero⟩

def inspector : Inspector := opened .standard .standard 0 known

def host : Host := ⟨.filled 1, [⟨"1.2.3.4:1", .rhp2⟩]⟩

def settings : Settings := .v2
  { acceptingContracts := true
    netAddress := "1.2.3.4:1"
    siamuxPort := "2"
    maxCollateral := ⟨1, by decide⟩
    collateral := ⟨2, by decide⟩
    storagePrice := ⟨1, by decide⟩
    maxDuration := 4320
    release := "v1.0.0" }

def world : World :=
  { names := .silent
    clients :=
      (Clients.empty.register .rhp2 (.answering settings)).register .rhp3
        { Client.answering settings with dial := fun _ _ => .crash 1 "boom" }
    consensus := fun _ => .silence
    releaseName := fun _ => .silence }

def test : HostTest := ⟨host, known, .cancelledFrom Policy.standard.testTimeout⟩

def next : Inspector :=
  { inspector with cooldown := ⟨[(host.publicKey, Policy.standard.cooldown)]⟩ }

theorem test_is_admitted : inspector.ask world 0 host .never = (.ok test, next) := by
  unfold ask
  rw [snapshot_before_refresh inspector world (by decide) (by decide)]
  rfl

theorem crash_of_derived_dial :
    inspector.ask world 0 host .never = (.ok test, next) ∧
      (next.course world test 0).ending = .crashed 4 "boom" ∧
      ∃ results address client, test.IsDerived world results address client := by
  have crashed : (next.course world test 0).ending = .crashed 4 "boom" := rfl
  obtain ⟨t, ended, _, _, escapes, _⟩ :=
    only_derived_crash_escapes inspector next world world 0 host .never test none test_is_admitted
  obtain ⟨address, client, due, _⟩ := (escapes 4 "boom").mp crashed
  exact ⟨test_is_admitted, crashed, reconcile ended, address, client, due⟩

end Crashing
end HostHealth.Inspector
