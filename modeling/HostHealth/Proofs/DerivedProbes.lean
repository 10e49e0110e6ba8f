import HostHealth.Proofs.NetworkUse
import HostHealth.Proofs.OwnReports

/- The probe of the rhp3 address that a host does not list. It is the entry of the first rhp2 address
   that calls for it, and no other one: later addresses of that protocol are not probed and have no
   settings to show. -/
namespace HostHealth.Inspector

open Net Probe Timed

namespace HostTest

def Announces (test : HostTest) (results : List ProbeReport) (settings : SettingsV2) : Prop :=
  ∃ (place : Nat) (address : NetAddress) (entry : ProbeReport),
    test.host.netAddresses[place]? = some address ∧ address.protocol = .rhp2 ∧
      ¬ test.IsRepeated place .rhp2 ∧
      results[place]? = some entry ∧ entry.settings = some (.v2 settings)

def announcement? (report : ProbeReport) : Option SettingsV2 :=
  match report.netAddress.protocol, report.settings with
  | .rhp2, some (.v2 settings) => some settings
  | _, _ => none

theorem announced_eq_find (results : List ProbeReport) :
    announced? results = results.findSome? announcement? := rfl

theorem announcement_iff {report : ProbeReport} {settings : SettingsV2} :
    announcement? report = some settings ↔
      report.netAddress.protocol = .rhp2 ∧ report.settings = some (.v2 settings) := by
  unfold announcement?
  constructor
  · intro carries
    split at carries
    · rename_i own rhp2 carried
      cases carries
      exact ⟨rhp2, carried⟩
    · cases carries
  · rintro ⟨rhp2, carried⟩
    rw [rhp2, carried]

section Results

variable {policy : Policy} {resolver : Dns.Resolver} {world : World} {test : HostTest}
  {start lanesEnd : Nat} {ended : List (Nat × ProbeReport)}
  (ran : (together (test.lanes policy resolver world [] test.host.netAddresses) start).ending =
    .returned lanesEnd ended)
include ran

theorem result_at_place {place : Nat} {entry : ProbeReport}
    (there : (reconcile ended)[place]? = some entry) :
    ∃ address, test.host.netAddresses[place]? = some address ∧ entry.netAddress = address ∧
      (test.IsRepeated place address.protocol → entry.settings = none) := by
  rw [reconcile_eq_map_agreed, List.getElem?_map, Option.map_eq_some_iff] at there
  obtain ⟨e, found, rfl⟩ := there
  obtain ⟨address, listed, outcome⟩ := ended_at_place ran found
  obtain ⟨added, kept⟩ := agreed_keeps_rest (firstRelease ended) e.2
  rw [kept]
  refine ⟨address, listed, (outcome_is_own outcome).about, ?_⟩
  rintro ⟨j, before, other, earlier, same⟩
  generalize e.2 = own at outcome
  cases outcome with
  | repeated | past | unserved | crashed => rfl
  | probed probed => exact absurd same (probed.first j before other earlier)

theorem announces_of_announced {settings : SettingsV2}
    (found : announced? (reconcile ended) = some settings) :
    test.Announces (reconcile ended) settings := by
  rw [announced_eq_find] at found
  obtain ⟨entry, member, own⟩ := List.exists_of_findSome?_eq_some found
  obtain ⟨rhp2, carried⟩ := announcement_iff.mp own
  obtain ⟨place, there⟩ := List.getElem?_of_mem member
  obtain ⟨address, listed, rfl, silent⟩ := result_at_place ran there
  refine ⟨place, _, entry, listed, rhp2, ?_, there, carried⟩
  intro repeated
  rw [silent (rhp2 ▸ repeated)] at carried
  cases carried

omit ran in
theorem first_places_agree {i j : Nat} {first second : NetAddress} {protocol : Protocol}
    (listed : test.host.netAddresses[i]? = some first) (own : first.protocol = protocol)
    (fresh : ¬ test.IsRepeated i protocol)
    (listed' : test.host.netAddresses[j]? = some second) (own' : second.protocol = protocol)
    (fresh' : ¬ test.IsRepeated j protocol) : i = j := by
  rcases Nat.lt_trichotomy i j with before | same | after
  · exact absurd ⟨i, before, first, listed, own⟩ fresh'
  · exact same
  · exact absurd ⟨j, after, second, listed', own'⟩ fresh

theorem announced_iff {settings : SettingsV2} :
    announced? (reconcile ended) = some settings ↔ test.Announces (reconcile ended) settings := by
  constructor
  · exact announces_of_announced ran
  · rintro ⟨place, address, entry, listed, rhp2, fresh, there, carried⟩
    obtain ⟨_, listed', rfl, _⟩ := result_at_place ran there
    cases listed.symm.trans listed'
    have own : announcement? entry = some settings := announcement_iff.mpr ⟨rhp2, carried⟩
    have some : ((reconcile ended).findSome? announcement?).isSome :=
      List.findSome?_isSome_iff.mpr ⟨entry, List.mem_of_getElem? there, by rw [own]; rfl⟩
    obtain ⟨settings', found⟩ := Option.isSome_iff_exists.mp some
    -- What was found is announced too, and there is only one first address to announce it.
    obtain ⟨place', _, entry', other, rhp2', fresh', there', carried'⟩ :=
      announces_of_announced ran found
    cases first_places_agree listed rhp2 fresh other rhp2' fresh'
    cases there.symm.trans there'
    rw [carried] at carried'
    cases carried'
    exact found

end Results

section Due

variable {policy : Policy} {resolver : Dns.Resolver} {world : World} {test : HostTest}
  {results : List ProbeReport} {start t : Nat}

theorem derived_report_iff {rhp3 : Option ProbeReport}
    (returned : (test.derivedIfDue policy resolver world results start).ending =
      .returned t rhp3) :
    rhp3 ≠ none ↔ test.legacyAllowed = true ∧ (∀ a ∈ test.host.netAddresses, a.protocol ≠ .rhp3) ∧
      ∃ settings, announced? results = some settings := by
  constructor
  · intro some
    obtain ⟨entry, rfl⟩ := Option.ne_none_iff_exists'.mp some
    obtain ⟨served, unlisted, settings, found, _⟩ := derived_entry_outcome returned
    exact ⟨served, unlisted, settings, found⟩
  · rintro ⟨served, unlisted, settings, found⟩ rfl
    unfold derivedIfDue at returned
    rw [if_pos ((derived_due_iff test).mpr ⟨served, unlisted⟩), found] at returned
    obtain ⟨_, entry, _, rest⟩ := returned_bind_iff.mp returned
    cases (returned_pure_iff.mp rest).2

theorem derived_is_quiet {settings : SettingsV2} (found : announced? results = some settings)
    (nobody : ∀ target client, HostPort.read settings.netAddress = .ok target →
      world.clients.find? .rhp3 ≠ some client) :
    (test.derivedIfDue policy resolver world results start).calls = [] := by
  rcases derived_log policy resolver world test results start with
    ⟨address, client, derived, _⟩ | ⟨_, quiet⟩
  · obtain ⟨other, target, same, readable, _⟩ := derived.implied
    cases found.symm.trans same
    exact absurd derived.registered (nobody target client readable)
  · exact quiet

theorem entry_of_announcement {settings : SettingsV2} {entry : ProbeReport}
    (found : announced? results = some settings)
    (returned : (test.derivedIfDue policy resolver world results start).ending =
      .returned t (some entry)) :
    (∀ e, HostPort.read settings.netAddress = .error e →
      entry = .rejected ⟨settings.netAddress, .rhp3⟩ (unreadable settings.netAddress e) ∧
        (test.derivedIfDue policy resolver world results start).calls = []) ∧
    ∀ target, HostPort.read settings.netAddress = .ok target →
      let address : NetAddress := ⟨HostPort.join target.host settings.siamuxPort, .rhp3⟩
      entry.netAddress = address ∧
      (world.clients.find? .rhp3 = none → entry = .rejected address (noClient .rhp3) ∧
        (test.derivedIfDue policy resolver world results start).calls = []) ∧
      ∀ client, world.clients.find? .rhp3 = some client →
        (test.probe policy resolver world address client start).ending = .returned t entry := by
  obtain ⟨_, _, settings', found', outcome⟩ := derived_entry_outcome returned
  cases found.symm.trans found'
  cases outcome with
  | unreadable e failed =>
    constructor
    · intro e' failed'
      cases failed.symm.trans failed'
      exact ⟨rfl, derived_is_quiet found fun _ _ read => by cases failed.symm.trans read⟩
    · intro target read
      cases failed.symm.trans read
  | unserved target read unregistered =>
    constructor
    · intro e failed
      cases read.symm.trans failed
    · intro target' read'
      cases read.symm.trans read'
      refine ⟨rfl, fun _ => ⟨rfl, derived_is_quiet found fun _ _ _ some => ?_⟩, ?_⟩
      · cases unregistered.symm.trans some
      · intro client some
        cases unregistered.symm.trans some
  | probed target read registered own =>
    constructor
    · intro e failed
      cases read.symm.trans failed
    · intro target' read'
      cases read.symm.trans read'
      refine ⟨(probe_keeps own).1.about, ?_, ?_⟩
      · intro none
        cases registered.symm.trans none
      · intro client some
        cases registered.symm.trans some
        exact own

end Due
end HostTest

open HostTest

/-- An admitted test that returns, whenever the inspector is closed. It has an entry for the rhp3
    address that the host implies exactly if the generation is still served, no rhp3 address is
    listed, and the entry of the first rhp2 address carries rhp2 settings. These settings alone
    decide on that entry, by what they announce; if it comes of a probe, then of one like those of the
    listed addresses, started when they have all ended. -/
theorem derived_entry_follows_first_rhp2 (self next : Inspector) (known world : World) (now : Nat)
    (host : Host) (caller : Token) (test : HostTest) (closing : Option Nat) (t : Nat)
    (report : HostReport) (admitted : self.ask known now host caller = (.ok test, next))
    (returned : (({ next with closedAt := closing } : Inspector).course world test now).ending =
      .returned t report) :
    let inspector := { next with closedAt := closing }
    let guarded := { test with token := test.token.meet ⟨closing⟩ }
    let snapshot := self.snapshot known now
    let setup : Setup :=
      { resolver := inspector.resolver
        names := world.names
        dialTimeout := inspector.policy.dialTimeout
        token := guarded.token
        latest := snapshot.latest
        tipHeight := snapshot.consensus.index.height }
    let probe := Probe.run setup host.publicKey
    let lanes := guarded.lanes inspector.policy inspector.resolver world [] host.netAddresses
    let log := (inspector.course world test now).calls
    ∃ lanesEnd ended, (together lanes now).ending = .returned lanesEnd ended ∧
      (∀ place address client, guarded.IsProbed world place address client →
        lanes[place]? = some ((probe address client).rescued
          fun reason => .rejected address (crashText reason))) ∧
      (report.rhp3 ≠ none ↔
        snapshot.consensus.index.height < snapshot.consensus.hardfork.allowHeight ∧
        (∀ a ∈ host.netAddresses, a.protocol ≠ .rhp3) ∧
        ∃ settings, guarded.Announces report.results settings) ∧
      ∀ entry settings, report.rhp3 = some entry → guarded.Announces report.results settings →
        (∀ e, HostPort.read settings.netAddress = .error e →
          entry = .rejected ⟨settings.netAddress, .rhp3⟩ (unreadable settings.netAddress e) ∧
            log = (together lanes now).calls) ∧
        ∀ target, HostPort.read settings.netAddress = .ok target →
          let address : NetAddress := ⟨HostPort.join target.host settings.siamuxPort, .rhp3⟩
          entry.netAddress = address ∧
          (world.clients.find? .rhp3 = none →
            entry = .rejected address (noClient .rhp3) ∧ log = (together lanes now).calls) ∧
          ∀ client, world.clients.find? .rhp3 = some client →
            (probe address client lanesEnd).ending = .returned t entry := by
  intro inspector guarded snapshot setup probe lanes log
  obtain ⟨rfl, _⟩ := test_of_admission admitted
  have same : test.snapshot = snapshot := snapshot_of_admission admitted
  have setups : guarded.setup inspector.policy inspector.resolver world = setup := by
    change ({ setup with
      latest := test.snapshot.latest
      tipHeight := test.snapshot.consensus.index.height } : Setup) = setup
    rw [same]
  have probes : guarded.probe inspector.policy inspector.resolver world = probe := by
    funext address client
    exact congrArg (Probe.run · guarded.host.publicKey address client) setups
  obtain ⟨lanesEnd, ended, ran, after⟩ := returned_bind_iff.mp returned
  obtain ⟨_, rhp3, derived, rest⟩ := returned_bind_iff.mp after
  obtain ⟨rfl, rfl⟩ := returned_pure_iff.mp rest
  have served : guarded.legacyAllowed = true ↔
      snapshot.consensus.index.height < snapshot.consensus.hardfork.allowHeight := by
    rw [← same]
    exact decide_eq_true_iff
  have due := (derived_report_iff derived).trans <| and_congr served <|
    and_congr_right fun _ => exists_congr fun _ => announced_iff ran
  refine ⟨lanesEnd, ended, ran, ?_, due, ?_⟩
  · intro place address client probed
    rw [← probes]
    exact lane_of_probed inspector.policy inspector.resolver world guarded probed
  · rintro entry settings rfl announces
    obtain ⟨unreadable, readable⟩ :=
      entry_of_announcement ((announced_iff ran).mpr announces) derived
    have quiet (nothing : (guarded.derivedIfDue inspector.policy inspector.resolver world
        (reconcile ended) lanesEnd).calls = []) : log = (together lanes now).calls :=
      (host_test_log ran).trans (by rw [nothing]; exact List.append_nil _)
    refine ⟨fun e failed => (unreadable e failed).imp_right quiet, ?_⟩
    intro target read address
    obtain ⟨about, unserved, probed⟩ := readable target read
    rw [probes] at probed
    exact ⟨about, fun none => (unserved none).imp_right quiet, probed⟩

namespace Deriving

theorem entry_of_implied_address :
    inspector.ask world 0 host .never = (.ok test, next) ∧
      ∃ report entry, (next.course world test 0).ending = .returned 6 report ∧
        report.rhp3 = some entry ∧ entry.netAddress = ⟨"1.2.3.4:2", .rhp3⟩ := by
  have admitted : inspector.ask world 0 host .never = (.ok test, next) := by
    unfold ask
    rw [snapshot_before_refresh inspector world (by decide) (by decide)]
    rfl
  have outcome : ∃ report settings, (next.course world test 0).ending = .returned 6 report ∧
      report.rhp3 ≠ none ∧ test.Announces report.results settings ∧
      settings.netAddress = "1.2.3.4:1" ∧ settings.siamuxPort = "2" := by
    refine ⟨_, _, rfl, nofun, ⟨0, _, _, rfl, rfl, ?_, rfl, rfl⟩, rfl, rfl⟩
    rintro ⟨j, before, _⟩
    exact absurd before (Nat.not_lt_zero j)
  obtain ⟨report, settings, returned, some, announces, announced, port⟩ := outcome
  obtain ⟨entry, isEntry⟩ := Option.ne_none_iff_exists'.mp some
  obtain ⟨_, _, _, _, _, decided⟩ := derived_entry_follows_first_rhp2 inspector next world world 0
    host .never test none 6 report admitted returned
  have read : HostPort.read settings.netAddress = .ok ⟨"1.2.3.4", 1⟩ := by
    rw [announced]
    rfl
  obtain ⟨about, _⟩ := (decided entry settings isEntry announces).2 _ read
  rw [port] at about
  exact ⟨admitted, report, entry, returned, isEntry, about⟩

end Deriving
end HostHealth.Inspector
