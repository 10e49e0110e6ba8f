import HostHealth.Proofs.OwnReports
import HostHealth.Proofs.TestDeadlines

/- A test whose inspector is closed. Its probes are broken off one and all, whether they have been
   started before or find themselves cancelled from the beginning, and it reports at once. Unless a
   lookup wins a race just then, each of them tells that it was cancelled. -/
namespace HostHealth

open Net Timed

/-- A request that is looked at before the token, in the probe of some protocol. -/
def NameService.IsAhead (names : NameService) (call : Nat × Call) : Prop :=
  ∃ protocol, (names.facing protocol).ahead none call.1 call.2 = true

namespace Inspector

open Probe

namespace HostTest

/-- What a test reports that was started at an instant and closed at `c`, beside the same test left
    alone. Nothing that was over before is any different. -/
structure CutOff (policy : Policy) (resolver : Dns.Resolver) (world : World) (test : HostTest)
    (c start t : Nat) (report : HostReport) : Prop where
  in_time : start ≤ t ∧ t ≤ max start c
  whole : (test.run policy resolver world start).OverBefore c →
    (test.run policy resolver world start).ending = .returned t report
  kept : ∀ (place u : Nat) lane entry,
    (test.lanes policy resolver world [] test.host.netAddresses)[place]? = some lane →
    outcome? (test.lanes policy resolver world [] test.host.netAddresses) start lane =
      some (u, entry) → u < c → report.results[place]? = some entry
  broken : ∀ (place : Nat) address lane, test.host.netAddresses[place]? = some address →
    (test.lanes policy resolver world [] test.host.netAddresses)[place]? = some lane →
    ¬ (lane start).OverBefore c → ∃ entry, report.results[place]? = some entry ∧
      (IsBrokenOff entry ∨ TurnedAway address entry)
  derived_broken : ¬ (test.run policy resolver world start).OverBefore c →
    ∀ entry, report.rhp3 = some entry → IsBrokenOff entry ∨ TurnedAway entry.netAddress entry
  cut : Untied c resolver world ((test.cutAt c).run policy resolver world start).calls →
    ∀ (place : Nat) address lane, test.host.netAddresses[place]? = some address →
    (test.lanes policy resolver world [] test.host.netAddresses)[place]? = some lane →
    ¬ (lane start).OverBefore c → ∃ entry, report.results[place]? = some entry ∧
      (IsCutOff entry ∨ c ≤ start ∧ TurnedAway address entry) ∧
      (start < c → test.IsCutEntry c policy resolver world start address entry)
  derived : Untied c resolver world ((test.cutAt c).run policy resolver world start).calls →
    ¬ (test.run policy resolver world start).OverBefore c → DerivedGivenUp report.rhp3

theorem cut_test_is_quiet (c : Nat) (policy : Policy) (resolver : Dns.Resolver) (world : World)
    (test : HostTest) :
    LogsOnly (fun call => c ≤ call.1 → world.names.IsAhead call)
      ((test.cutAt c).run policy resolver world) := by
  apply host_test_logs_only
  intro address client
  have ofClient : ∀ {α : Type} limit call (reply : Nat → Reply α),
      LogsOnly (fun other : Nat × Call => c ≤ other.1 → world.names.IsAhead other)
        (request (test.cutAt c).token limit call reply) := by
    intro α limit call reply start other member since
    have isOpen := request_under_open_token _ limit call reply start other member
    cases isOpen.symm.trans (cancelled_since_cut test since)
  have ofLookup : ∀ {α : Type} call (reply : Nat → Reply α),
      LogsOnly (fun other : Nat × Call => c ≤ other.1 → world.names.IsAhead other)
        (resolver.ask (world.names.facing address.protocol) (test.cutAt c).token call reply) := by
    intro α call reply start other member since
    rcases raced_under_open_token _ _ call reply _ start other member with isOpen | ⟨first, rfl⟩
    · cases isOpen.symm.trans (cancelled_since_cut test since)
    · exact ⟨address.protocol, first⟩
  exact probe_has (logs_only_inherited _) ⟨⟨fun _ => ofLookup _ _, fun _ _ => ofLookup _ _⟩,
    ofClient _ _ _, ofClient _ _ _, ofClient _ _ _⟩

section Late

variable {policy : Policy} {resolver : Dns.Resolver} {world : World} {test : HostTest}
  {start t : Nat} {own : ProbeReport}

theorem late_outcome_is_broken_off {place : Nat} {address : NetAddress}
    (outcome : test.Outcome policy resolver world start place address t own)
    (cancelled : test.token.isCancelled t = true) : IsBrokenOff own ∨ TurnedAway address own := by
  cases outcome with
  | repeated => exact Or.inr ⟨_, Or.inl rfl⟩
  | past => exact Or.inr ⟨_, Or.inr rfl⟩
  | unserved => exact Or.inr ⟨_, Or.inl rfl⟩
  | crashed reason => exact Or.inr ⟨_, Or.inl rfl⟩
  | probed _ returned => exact Or.inl (late_probe_is_broken_off returned cancelled)

theorem late_derived_is_broken_off {settings : SettingsV2}
    (outcome : test.DerivedOutcome policy resolver world settings start t own)
    (cancelled : test.token.isCancelled t = true) :
    IsBrokenOff own ∨ TurnedAway own.netAddress own := by
  cases outcome with
  | unreadable e => exact Or.inr ⟨_, Or.inl rfl⟩
  | unserved target => exact Or.inr ⟨_, Or.inl rfl⟩
  | probed target _ _ returned => exact Or.inl (late_probe_is_broken_off returned cancelled)

end Late

section Closed

variable {policy : Policy} {resolver : Dns.Resolver} {world : World} {test : HostTest}
  {c start t : Nat} {report : HostReport}

theorem entry_is_silent {address : NetAddress} {entry : ProbeReport}
    (h : IsBrokenOff entry ∨ TurnedAway address entry) : newestRelease? entry = none := by
  rcases h with broken | ⟨text, rfl | rfl⟩
  · exact untouched_is_silent broken.no_settings
  · exact untouched_is_silent rfl
  · exact untouched_is_silent rfl

theorem CutShort.late_if_running {κ α : Type} {whole cut : Timed κ α} (law : CutShort c whole cut)
    (running : ¬ (whole start).OverBefore c) {u : Nat}
    (ended : (cut start).ending.instant? = some u) : c ≤ u := by
  by_contra soon
  have same := law.same_if_early (Nat.not_le.mp soon) (Or.inr ended)
  exact running ⟨u, by rw [← same]; exact ended, Nat.not_le.mp soon⟩

theorem unfinished_test_is_given_up
    (untied : Untied c resolver world ((test.cutAt c).run policy resolver world start).calls)
    (running : ¬ (test.run policy resolver world start).OverBefore c) :
    ∃ t report, ((test.cutAt c).run policy resolver world start).ending = .returned t report ∧
      DerivedGivenUp report.rhp3 := by
  have safe := every_lane (lane_never_crashes policy resolver world (test.cutAt c))
    test.host.netAddresses []
  have lanes := together_cut_short (lanes_cut c policy resolver world test [] test.host.netAddresses)
    (every_lane (lane_never_crashes policy resolver world test) _ []) safe
  obtain ⟨u, gone, _⟩ := lanes.ends_by start
  obtain ⟨ended, joined⟩ := returned_of_ended gone (together_never_crashes safe start)
  have course : (test.cutAt c).run policy resolver world start = ⟨_ ++ _, _⟩ := run_of_lanes joined
  have law := concluded_cut c policy resolver world test ended
  have apart : ∀ call ∈ ((test.cutAt c).concluded policy resolver world ended u).calls,
      ¬ resolver.TiedAt c (world.names.facing .rhp3) call := by
    intro call member
    refine untied call ?_ _
    rw [course]
    exact List.mem_append_right _ member
  rw [course]
  by_cases begun : u < c
  · -- The lanes are over before the cut, and so it is the probe of the derived address that is cut.
    have same := lanes.same_if_early begun (Or.inr (congrArg Ending.instant? joined))
    have joinedWhole := (congrArg Course.ending same).symm.trans joined
    have still : ¬ (test.concluded policy resolver world ended u).OverBefore c := by
      rintro ⟨v, finished, soon⟩
      rw [run_of_lanes joinedWhole] at running
      exact running ⟨v, finished, soon⟩
    have apartWhole := law.calls_before u ▸
      fun call (member : call ∈ startedBefore c _) => apart call (List.mem_filter.mp member).1
    obtain ⟨_, report, atCut, given⟩ := law.lost u begun still apartWhole
    exact ⟨c, report, atCut, given⟩
  · have late : c ≤ u := Nat.not_lt.mp begun
    obtain ⟨report, atOnce, given⟩ :=
      concluded_at_once policy resolver world (cancelled_since_cut test late) late ended apart
    exact ⟨u, report, atOnce, given⟩

section Returned

variable (returned : ((test.cutAt c).run policy resolver world start).ending = .returned t report)
include returned

theorem unfinished_lane {place : Nat} {address : NetAddress} {lane : Timed Call ProbeReport}
    (listed : test.host.netAddresses[place]? = some address)
    (there : (test.lanes policy resolver world [] test.host.netAddresses)[place]? = some lane)
    (running : ¬ (lane start).OverBefore c) :
    ∃ seen own u, lane = test.lane policy resolver world seen address ∧
      ((test.cutAt c).lane policy resolver world seen address start).ending = .returned u own ∧
      (IsBrokenOff own ∨ TurnedAway address own) ∧ report.results[place]? = some own ∧
      ∀ call ∈ ((test.cutAt c).lane policy resolver world seen address start).calls,
        call ∈ ((test.cutAt c).run policy resolver world start).calls := by
  obtain ⟨seen, same, _⟩ := lane_at listed []
  have cut := same policy resolver world (test.cutAt c)
  cases there.symm.trans (same policy resolver world test)
  obtain ⟨_, ended, joined, _⟩ := returned_bind_iff.mp returned
  obtain ⟨ran, _⟩ := returned_together_iff.mp joined
  obtain ⟨⟨u, own⟩, found, ownEnd⟩ := forall₂_at ran cut
  have law := (lane_cut c policy resolver world test seen address).toCutShort
  have late : c ≤ u := CutShort.late_if_running law running (by rw [ownEnd]; rfl)
  have outcome : (test.cutAt c).Outcome policy resolver world start place address u own :=
    lane_outcome listed cut ownEnd
  have fate := late_outcome_is_broken_off outcome (cancelled_since_cut test late)
  refine ⟨seen, own, u, rfl, ownEnd, fate, ?_, fun call member => calls_of_first _ _ _ call
    (calls_of_one (List.mem_of_getElem? cut) start call member)⟩
  rw [host_test_results joined returned]
  exact reconcile_keeps found (entry_is_silent fate)

theorem entry_of_unfinished_lane
    (untied : Untied c resolver world ((test.cutAt c).run policy resolver world start).calls)
    {place : Nat} {address : NetAddress} {lane : Timed Call ProbeReport}
    (listed : test.host.netAddresses[place]? = some address)
    (there : (test.lanes policy resolver world [] test.host.netAddresses)[place]? = some lane)
    (running : ¬ (lane start).OverBefore c) :
    ∃ entry, report.results[place]? = some entry ∧
      (IsCutOff entry ∨ c ≤ start ∧ TurnedAway address entry) ∧
      (start < c → test.IsCutEntry c policy resolver world start address entry) := by
  obtain ⟨seen, own, u, rfl, ownEnd, _, result, calls⟩ :=
    unfinished_lane returned listed there running
  have law := lane_cut c policy resolver world test seen address
  have apart : ∀ call ∈ ((test.cutAt c).lane policy resolver world seen address start).calls,
      ¬ resolver.TiedAt c (world.names.facing address.protocol) call :=
    fun call member => untied call (calls call member) _
  refine ⟨own, result, ?_⟩
  by_cases begun : start < c
  · have apartWhole := law.calls_before _ ▸
      fun call (member : call ∈ startedBefore c _) => apart call (List.mem_filter.mp member).1
    obtain ⟨_, entry, atCut, isCut⟩ := law.lost start begun running apartWhole
    cases ownEnd.symm.trans atCut
    exact ⟨Or.inl (cut_entry_is_cut_off isCut), fun _ => isCut⟩
  · have late : c ≤ start := Nat.not_lt.mp begun
    obtain ⟨entry, course, atOnce⟩ :=
      lane_at_once policy resolver world (cancelled_since_cut test late) late seen address apart
    cases ownEnd.symm.trans course
    exact ⟨atOnce.imp_right fun away => ⟨late, away⟩, fun early => absurd early begun⟩

theorem derived_of_late_test
    (running : ¬ (test.run policy resolver world start).OverBefore c) :
    ∀ entry, report.rhp3 = some entry → IsBrokenOff entry ∨ TurnedAway entry.netAddress entry := by
  rintro entry due
  have late : c ≤ t := CutShort.late_if_running (host_test_cut c policy resolver world test) running
    (by rw [returned]; rfl)
  obtain ⟨_, _, _, rest⟩ := returned_bind_iff.mp returned
  obtain ⟨_, rhp3, derived, last⟩ := returned_bind_iff.mp rest
  obtain ⟨rfl, rfl⟩ := returned_pure_iff.mp last
  change rhp3 = some entry at due
  subst due
  obtain ⟨_, _, _, _, outcome⟩ := derived_entry_outcome derived
  exact late_derived_is_broken_off outcome (cancelled_since_cut test late)

theorem closed_test_is_cut_off : test.CutOff policy resolver world c start t report := by
  have law := host_test_cut c policy resolver world test
  constructor
  · obtain ⟨u, finished, later, bound⟩ := law.ends_by start
    rw [returned] at finished
    cases finished
    exact ⟨later, bound⟩
  · rintro ⟨u, finished, soon⟩
    rw [← law.same_if_early soon (Or.inl finished), returned]
  · intro place u lane entry there outcome soon
    exact result_before_cut returned there outcome soon
  · intro place address lane listed there running
    obtain ⟨_, own, _, _, _, fate, result, _⟩ := unfinished_lane returned listed there running
    exact ⟨own, result, fate⟩
  · exact derived_of_late_test returned
  · intro untied place address lane listed there running
    exact entry_of_unfinished_lane returned untied listed there running
  · intro untied running
    obtain ⟨_, _, ended, given⟩ := unfinished_test_is_given_up untied running
    cases returned.symm.trans ended
    exact given

end Returned
end Closed
end HostTest
end Inspector
end HostHealth
