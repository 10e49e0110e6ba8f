import HostHealth.Proofs.Isolation

/- A test that is under way ends early if its caller gives up, if its deadline comes, or if somebody
   closes the inspector. Whichever of them it is, the probes see one token that is cancelled at one
   instant, so that nobody can tell the three apart by what the test asks for or reports. -/
namespace HostHealth.Inspector

open Net Probe Timed

theorem eq_cancelled_from {token : Token} {c : Nat}
    (cancelled : ∀ t, token.isCancelled t = true ↔ c ≤ t) : token = .cancelledFrom c := by
  obtain ⟨e, own, early⟩ := cancelled_iff.mp ((cancelled c).mpr (Nat.le_refl c))
  have late := (cancelled e).mp (cancelled_iff.mpr ⟨e, own, Nat.le_refl e⟩)
  obtain ⟨cancelledAt⟩ := token
  cases own
  rw [Nat.le_antisymm early late]
  rfl

inductive Cause
  | caller | deadline | closing
  deriving DecidableEq, Repr

namespace HostTest

variable {policy other : Policy} {resolver : Dns.Resolver} {world : World} {test : HostTest}
  {c start t : Nat} {report : HostReport}

theorem run_of_same_dial (same : other.dialTimeout = policy.dialTimeout) :
    test.run other resolver world = test.run policy resolver world := by
  have probes : test.probe other resolver world = test.probe policy resolver world := by
    unfold probe setup
    rw [same]
  have lanes (seen : List Protocol) (addresses : List NetAddress) :
      test.lanes other resolver world seen addresses =
        test.lanes policy resolver world seen addresses := by
    induction addresses generalizing seen with
    | nil => rfl
    | cons address rest ih =>
      unfold lanes lane
      rw [ih, probes]
  unfold run derivedIfDue derived
  rw [lanes, probes]

/-- What a test reports that is cancelled at `c` while it is under way, beside the same test left
    alone. No lookup may win a race at `c`, or its probe has something else to tell. -/
structure CancelledAt (policy : Policy) (resolver : Dns.Resolver) (world : World)
    (test : HostTest) (c start : Nat) (report : HostReport) : Prop where
  finished : ∀ (place : Nat) lane,
    (test.lanes policy resolver world [] test.host.netAddresses)[place]? = some lane →
    (lane start).OverBefore c → ∃ u entry,
      outcome? (test.lanes policy resolver world [] test.host.netAddresses) start lane =
        some (u, entry) ∧
      report.results[place]? = some entry ∧
      ∀ t whole, (test.run policy resolver world start).ending = .returned t whole →
        whole.results[place]? = some entry
  pending : Untied c resolver world ((test.cutAt c).run policy resolver world start).calls →
    ∀ (place : Nat) address lane, test.host.netAddresses[place]? = some address →
    (test.lanes policy resolver world [] test.host.netAddresses)[place]? = some lane →
    ¬ (lane start).OverBefore c → ∃ client entry,
      world.clients.find? address.protocol = some client ∧
      report.results[place]? = some entry ∧
      CutReport c address
        (history (test.setup policy resolver world) test.host.publicKey address client start)
        (test.probe policy resolver world address client start).ending entry

theorem outcome_of_early_lane {lane : Timed Call ProbeReport} {place : Nat}
    (there : (test.lanes policy resolver world [] test.host.netAddresses)[place]? = some lane)
    (early : (lane start).OverBefore c) : ∃ u < c, ∃ entry,
      outcome? (test.lanes policy resolver world [] test.host.netAddresses) start lane =
        some (u, entry) := by
  obtain ⟨u, finished, soon⟩ := early
  have safe : NeverCrashes lane :=
    every_lane (lane_never_crashes policy resolver world test) _ [] lane
      (List.mem_of_getElem? there)
  obtain ⟨own, returned⟩ := returned_of_ended finished (safe start)
  refine ⟨u, soon, agreed (firstRelease (endedBy u
    (test.lanes policy resolver world [] test.host.netAddresses) start)) own, ?_⟩
  unfold outcome?
  rw [returned]

theorem result_of_outcome {place u : Nat} {lane : Timed Call ProbeReport} {entry : ProbeReport}
    (there : (test.lanes policy resolver world [] test.host.netAddresses)[place]? = some lane)
    (outcome : outcome? (test.lanes policy resolver world [] test.host.netAddresses) start lane =
      some (u, entry))
    (returned : (test.run policy resolver world start).ending = .returned t report) :
    report.results[place]? = some entry := by
  obtain ⟨_, ended, joined, _⟩ := returned_bind_iff.mp returned
  obtain ⟨each, _⟩ := returned_together_iff.mp joined
  obtain ⟨_, entry', own, listed⟩ := reconciled_outcomes each there
  cases outcome.symm.trans own
  rw [host_test_results joined returned]
  exact listed

theorem cut_test_is_cancelled (begun : start < c)
    (returned : ((test.cutAt c).run policy resolver world start).ending = .returned t report) :
    test.CancelledAt policy resolver world c start report := by
  have cutOff := closed_test_is_cut_off returned
  constructor
  · intro place lane there early
    obtain ⟨u, soon, entry, outcome⟩ := outcome_of_early_lane there early
    exact ⟨u, entry, outcome, cutOff.kept place u lane entry there outcome soon,
      fun _ _ whole => result_of_outcome there outcome whole⟩
  · intro untied place address lane listed there running
    obtain ⟨entry, own, _, isCut⟩ := cutOff.cut untied place address lane listed there running
    obtain ⟨client, registered, rfl⟩ := isCut begun
    exact ⟨client, _, registered, own, cut_report_of_latest history_grows history_in_progress
      fun _ _ returned => probe_keeps returned⟩

end HostTest

namespace Service

open HostTest

def endedBy? (s later : Service) (visit : Visit) : Cause → Option Nat
  | .caller => visit.caller.cancelledAt
  | .deadline => some (s.now + s.inspector.policy.testTimeout)
  | .closing => later.inspector.closedAt

/-- The cause takes effect at `c`, and neither of the other two does so before. -/
structure EndedBy (s later : Service) (visit : Visit) (cause : Cause) (c : Nat) : Prop where
  own : s.endedBy? later visit cause = some c
  first : ∀ other e, s.endedBy? later visit other = some e → c ≤ e

def freeTest (s : Service) (visit : Visit) : HostTest := (s.admission visit).under .never

variable {s later : Service} {visit : Visit} {cause : Cause} {c place : Nat}

theorem token_of_cause (ended : s.EndedBy later visit cause c) :
    (s.admission visit).token.meet ⟨later.inspector.closedAt⟩ = .cancelledFrom c := by
  apply eq_cancelled_from
  intro t
  unfold admission
  rw [cancelled_meet, cancelled_meet, Bool.or_eq_true, Bool.or_eq_true, cancelled_iff,
    cancelled_iff, cancelled_iff]
  constructor
  · rintro ((⟨e, atCaller, past⟩ | ⟨e, atDeadline, past⟩) | ⟨e, atClosing, past⟩)
    · exact Nat.le_trans (ended.first .caller e atCaller) past
    · exact Nat.le_trans (ended.first .deadline e atDeadline) past
    · exact Nat.le_trans (ended.first .closing e atClosing) past
  · intro past
    have own := ended.own
    cases cause with
    | caller => exact .inl (.inl ⟨c, own, past⟩)
    | deadline => exact .inl (.inr ⟨c, own, past⟩)
    | closing => exact .inr ⟨c, own, past⟩

theorem course_of_cause {policy : Policy} {resolver : Dns.Resolver}
    (letsIn : LetsIn policy resolver s place visit later) (ended : s.EndedBy later visit cause c) :
    s.admittedCourse later visit =
      ((s.freeTest visit).cutAt c).run policy resolver visit.world s.now := by
  rw [course_of_admission letsIn, token_of_cause ended]
  rfl

/-- Two services that let in the same host at the same time, knowing the same and meeting the same
    name service and clients. Both tests are ended at `c`, each of them by a cause of its own. Then
    it is one course that both of them go by, if their lookups have the same luck; and whatever
    their luck, they end alike if no lookup wins a race at `c`. If the test was under way, it is over
    at `c`, and comes back with whatever its probes would have told anyway by then, and with the
    stages that the other probes had come through. -/
theorem cause_of_cancellation_is_hidden (policy policyOther : Policy) (resolver : Dns.Resolver)
    (s later other laterOther : Service) (place placeOther : Nat) (visit visitOther : Visit)
    (cause causeOther : Cause) (c : Nat)
    (letsIn : LetsIn policy resolver s place visit later)
    (letsInOther : LetsIn policyOther resolver other placeOther visitOther laterOther)
    (sameDial : policyOther.dialTimeout = policy.dialTimeout)
    (sameStart : other.now = s.now) (sameHost : visitOther.host = visit.host)
    (sameSnapshot : other.snapshot = s.snapshot)
    (sameButLuck : visitOther.world.yielding = visit.world.yielding)
    (ended : s.EndedBy later visit cause c)
    (endedOther : other.EndedBy laterOther visitOther causeOther c) :
    let whole := (s.freeTest visit).run policy resolver visit.world s.now
    ∃ told, s.GoesBy place visit later told ∧
      (visitOther.world = visit.world → other.GoesBy placeOther visitOther laterOther told) ∧
      (s.WinsNoRace later visit → other.WinsNoRace laterOther visitOther →
        ∃ toldOther, toldOther.ending = told.ending ∧
          other.GoesBy placeOther visitOther laterOther toldOther) ∧
      (s.now < c →
        (whole.OverBefore c → whole = told.seenFrom s.now id) ∧
        (¬ whole.OverBefore c → ∃ e, told.ending.instant? = some e ∧ s.now + e = c ∧
          (s.WinsNoRace later visit → ∃ report, told.ending = .returned e report) ∧
          ∀ report, told.ending = .returned e report →
            (s.freeTest visit).CancelledAt policy resolver visit.world c s.now report)) := by
  intro whole
  obtain ⟨told, _, course, _⟩ := admitted_course_ends s later visit
  have cut := course_of_cause letsIn ended
  have law := host_test_cut c policy resolver visit.world (s.freeTest visit)
  have sameTest : other.freeTest visitOther = s.freeTest visit :=
    admission_alike sameHost sameSnapshot .never
  have cutOther : other.admittedCourse laterOther visitOther =
      ((s.freeTest visit).cutAt c).run policy resolver visitOther.world s.now := by
    rw [course_of_cause letsInOther endedOther, sameTest, sameStart, run_of_same_dial sameDial]
  have untied (h : s.WinsNoRace later visit) : Untied c resolver visit.world
      (((s.freeTest visit).cutAt c).run policy resolver visit.world s.now).calls := by
    have apart := untied_of_no_race letsIn h (congrArg Token.cancelledAt (token_of_cause ended))
    rwa [cut] at apart
  refine ⟨told, goes_by_told letsIn course, ?_, ?_, ?_⟩
  · intro sameLuck
    apply goes_by_told letsInOther
    rw [cutOther, sameLuck, ← cut, course, sameStart]
  · intro apart apartOther
    have untiedOther := untied_of_no_race letsInOther apartOther
      (congrArg Token.cancelledAt (token_of_cause endedOther))
    rw [cutOther] at untiedOther
    obtain ⟨toldOther, _, courseOther, _⟩ := admitted_course_ends other laterOther visitOther
    have cancelled : ((s.freeTest visit).cutAt c).token.cancelledAt = some c := rfl
    obtain ⟨alike, _⟩ := untied_tests_end_alike policy resolver visit.world cancelled sameButLuck
      (untied apart) untiedOther
    rw [← cutOther, ← cut, course, courseOther, sameStart] at alike
    exact ⟨toldOther, ending_seen_from_inj alike, goes_by_told letsInOther courseOther⟩
  intro begun
  have atEnd : told.ending.seenFrom s.now id =
      (((s.freeTest visit).cutAt c).run policy resolver visit.world s.now).ending := by
    rw [← cut, course]
    rfl
  constructor
  · intro early
    rw [← course, cut, law.kept s.now begun early]
  · intro running
    have instant := (law.broken s.now begun running).2
    rw [← atEnd, Ending.instant_seen_from] at instant
    obtain ⟨e, own, sum⟩ := Option.map_eq_some_iff.mp instant
    refine ⟨e, own, sum, ?_, ?_⟩
    · intro apart
      obtain ⟨_, report, returned, _⟩ := unfinished_test_is_given_up (untied apart) running
      rw [← atEnd] at returned
      cases outcome : told.ending with
      | returned u value =>
        rw [outcome] at own
        cases own
        exact ⟨value, rfl⟩
      | crashed | pending =>
        rw [outcome] at returned
        cases returned
    · intro report returned
      rw [returned] at atEnd
      exact cut_test_is_cancelled begun atEnd.symm

end Service

namespace Hurried

open Service Stalling

def hasty : Policy := { Policy.standard with testTimeout := 6 }

def visit : Visit := ⟨host, .never, Stalling.world, .cleared⟩

def cleared (policy : Policy) : Service :=
  { Service.opened policy .standard Stalling.world 0 known with visits := [visit], tracked := 3 }

def testing (policy : Policy) : Service :=
  { cleared policy with
    inspector :=
      { Inspector.opened policy .standard 0 known with
        cooldown := ⟨[(host.publicKey, policy.cooldown)]⟩ }
    visits := [{ visit with stage := .underTest ((cleared policy).admission visit) 0 }] }

def expired : Service := { testing hasty with now := 6 }

def closed : Service :=
  { testing .standard with
    inspector := (testing .standard).inspector.close 6
    now := 6
    closings := [.begun] }

theorem hasty_lets_in : LetsIn hasty .standard (cleared hasty) 0 visit expired :=
  ⟨⟨Stalling.world, 0, known, [.enter host .never Stalling.world, .visit 0], rfl⟩, rfl, rfl,
    ⟨_, rfl⟩, [.wait 6], rfl⟩

theorem standard_lets_in : LetsIn .standard .standard (cleared .standard) 0 visit closed :=
  ⟨⟨Stalling.world, 0, known, [.enter host .never Stalling.world, .visit 0], rfl⟩, rfl, rfl,
    ⟨_, rfl⟩, [.wait 5, .close], rfl⟩

theorem ended_by_deadline : (cleared hasty).EndedBy expired visit .deadline 6 := by
  refine ⟨rfl, ?_⟩
  intro other e comes
  cases other with
  | deadline =>
    cases comes
    exact Nat.le_refl _
  | caller | closing => cases comes

theorem ended_by_closing : (cleared .standard).EndedBy closed visit .closing 6 := by
  refine ⟨rfl, ?_⟩
  intro other e comes
  cases other with
  | deadline =>
    cases comes
    decide
  | closing =>
    cases comes
    exact Nat.le_refl _
  | caller => cases comes

theorem free_of_hasty : (cleared hasty).freeTest visit = ⟨host, known, .never⟩ := by
  have snapshot : (cleared hasty).snapshot = known :=
    snapshot_before_refresh (cleared hasty).inspector Stalling.world (by decide) (by decide)
  unfold freeTest admission
  rw [snapshot]
  rfl

theorem nobody_wins_races : (cleared hasty).WinsNoRace expired visit := by
  rintro c _ call _ protocol ⟨ahead, _⟩
  cases ahead

theorem deadline_looks_like_closing :
    ∃ told report, told.ending = .returned 6 report ∧
      (cleared hasty).GoesBy 0 visit expired told ∧
      (cleared .standard).GoesBy 0 visit closed told ∧
      report.results[0]? = some refused ∧
      ∃ entry, report.results[1]? = some entry ∧ entry.errors = ["test canceled"] ∧
        entry.warnings = [] := by
  have snapshots : (cleared .standard).snapshot = (cleared hasty).snapshot :=
    (snapshot_before_refresh (cleared .standard).inspector Stalling.world (by decide)
      (by decide)).trans
        (snapshot_before_refresh (cleared hasty).inspector Stalling.world (by decide)
          (by decide)).symm
  obtain ⟨told, goes, goesOther, _, fate⟩ :=
    cause_of_cancellation_is_hidden hasty .standard .standard (cleared hasty) expired
      (cleared .standard) closed 0 0 visit visit .deadline .closing 6 hasty_lets_in
      standard_lets_in rfl rfl rfl snapshots rfl ended_by_deadline ended_by_closing
  rw [free_of_hasty] at fate
  obtain ⟨e, _, atEnd, returns, cancelled⟩ := (fate (by decide)).2 (by
    rintro ⟨u, finished, _⟩
    cases finished)
  obtain ⟨report, outcome⟩ := returns nobody_wins_races
  have kept := cancelled report outcome
  have six : e = 6 := (Nat.zero_add e).symm.trans atEnd
  subst six
  obtain ⟨_, first, at0, listed, _⟩ := kept.finished 0 _ rfl ⟨1, rfl, by decide⟩
  cases at0
  obtain ⟨_, entry, _, own, isCut⟩ := kept.pending (fun _ _ _ isTied => by cases isTied.1) 1 _ _ rfl
    rfl (by
      rintro ⟨u, finished, _⟩
      cases finished)
  exact ⟨told, report, outcome, goes, goesOther rfl, listed, entry, own, isCut.one_error,
    isCut.no_warnings⟩

end Hurried
end HostHealth.Inspector
