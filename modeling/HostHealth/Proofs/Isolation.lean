import HostHealth.Proofs.ReleaseDisputes
import HostHealth.Proofs.ServiceSound
import HostHealth.Proofs.TestsInStep

/- What a test that has been let in may depend on: its host, what was known at that instant, and the
   world that it meets. Whatever else two services do, they run it alike. -/
namespace HostHealth.Inspector

open Net Probe Timed

namespace HostTest

def judgement (snapshot : Snapshot) (dialed : String) (settings : Settings) : List Finding :=
  settings.validate
    { latest := snapshot.latest, tipHeight := snapshot.consensus.index.height, dialed := dialed }

def IsJudged (snapshot : Snapshot) (entry : ProbeReport) (added : List String) : Prop :=
  ∃ settings, entry.settings = some settings ∧
    entry.warnings = ((judgement snapshot entry.netAddress.address settings).filter
      (!·.isError)).map Finding.message ∧
    entry.errors = ((judgement snapshot entry.netAddress.address settings).filter
      (·.isError)).map Finding.message ++ added

/-- One snapshot, that of the test, gates and judges every address in the report. -/
structure JudgedByOne (test : HostTest) (report : HostReport) : Prop where
  gated : ∀ (place : Nat) address entry, test.host.netAddresses[place]? = some address →
    report.results[place]? = some entry → ¬ test.IsRepeated place address.protocol →
    (entry = .skipped address (pastText address.protocol) ↔ test.IsPast address.protocol)
  listed : ∀ entry ∈ report.results, entry.scanned = true →
    ∃ added, IsJudged test.snapshot entry added ∧ ∀ error ∈ added, IsDispute error
  derived_gated : report.rhp3 ≠ none → test.legacyAllowed = true
  derived : ∀ entry, report.rhp3 = some entry → entry.scanned = true →
    IsJudged test.snapshot entry []

section Judged

variable {policy : Policy} {resolver : Dns.Resolver} {world : World} {test : HostTest}
  {address : NetAddress} {client : Client} {start t : Nat}

theorem probe_is_judged {own : ProbeReport}
    (returned : (test.probe policy resolver world address client start).ending = .returned t own)
    (scanned : own.scanned = true) : IsJudged test.snapshot own [] := by
  have staged := returned_probe_is_staged _ _ _ _ _ _ _ returned
  obtain ⟨settings, some, warnings, errors⟩ := staged.judged scanned
  have about : own.netAddress = address := (probe_keeps returned).1.about
  refine ⟨settings, some, ?_⟩
  rw [about, List.append_nil]
  exact ⟨warnings, errors⟩

theorem returned_test_is_judged {report : HostReport}
    (returned : (test.run policy resolver world start).ending = .returned t report) :
    test.JudgedByOne report := by
  obtain ⟨u, ended, joined, after⟩ := returned_bind_iff.mp returned
  obtain ⟨_, rhp3, probed, rest⟩ := returned_bind_iff.mp after
  obtain ⟨_, rfl⟩ := returned_pure_iff.mp rest
  obtain ⟨each, _⟩ := returned_together_iff.mp joined
  constructor
  · intro place address entry listed there fresh
    obtain ⟨lane, found, _⟩ := lane_of_place policy resolver world listed
    obtain ⟨_, own, outcome, same⟩ := reconciled_outcomes each found
    cases there.symm.trans same
    exact (outcome_is_entry listed found outcome).past_iff fresh
  · intro entry member scanned
    rw [reconcile_eq_map_agreed] at member
    obtain ⟨⟨instant, report⟩, there, rfl⟩ := List.mem_map.mp member
    rw [agreed_eq_compared] at scanned ⊢
    obtain ⟨added, kept, disputes⟩ :=
      compared_adds_disputes ((firstRelease ended).map Prod.snd) report
    rw [kept] at scanned ⊢
    obtain ⟨place, atPlace⟩ := List.getElem?_of_mem there
    obtain ⟨address, _, outcome⟩ := ended_at_place joined atPlace
    cases outcome with
    | probed _ own =>
      obtain ⟨settings, some, warnings, errors⟩ := probe_is_judged own scanned
      refine ⟨added, ⟨settings, some, warnings, ?_⟩, disputes⟩
      exact congrArg (· ++ added) (errors.trans (List.append_nil _))
    | _ => cases scanned
  · intro some
    obtain ⟨entry, rfl⟩ := Option.ne_none_iff_exists'.mp some
    exact (derived_entry_outcome probed).1
  · rintro entry rfl scanned
    obtain ⟨_, _, settings, _, outcome⟩ := derived_entry_outcome probed
    cases outcome with
    | probed target _ _ own => exact probe_is_judged own scanned
    | _ => cases scanned

end Judged

theorem course_eq_run_under (self : Inspector) (world : World) (test : HostTest) (start : Nat) :
    self.course world test start =
      (test.under (test.token.meet ⟨self.closedAt⟩)).run self.policy self.resolver world start :=
  rfl

end HostTest

/-- When somebody else cancels the test of the visit: the caller, or who closes the inspector. -/
def Visit.interruption (self : Inspector) (visit : Visit) : Token :=
  visit.caller.meet ⟨self.closedAt⟩

namespace Service

open HostTest

def admission (s : Service) (visit : Visit) : HostTest :=
  ⟨visit.host, s.snapshot,
    visit.caller.meet (.cancelledFrom (s.now + s.inspector.policy.testTimeout))⟩

def admittedCourse (s later : Service) (visit : Visit) : Course Call HostReport :=
  later.inspector.course visit.world (s.admission visit) s.now

/-- A service that has come to let in a visit, and what has become of it since. -/
structure LetsIn (policy : Policy) (resolver : Dns.Resolver) (s : Service) (place : Nat)
    (visit : Visit) (later : Service) : Prop where
  reached : ∃ world begun initial acts,
    (opened policy resolver world begun initial).run acts = some s
  there : s.visits[place]? = some visit
  cleared : visit.stage = .cleared
  free : ∃ cooldown, s.inspector.cooldown.claim s.inspector.policy.cooldown s.now
    visit.host.publicKey = .ok cooldown
  since : ∃ acts, s.run (.visit place :: acts) = some later

structure Leads (s : Service) (place : Nat) (visit : Visit) (test : HostTest) (start : Nat)
    (stage : Stage) : Prop where
  there : s.visits[place]? = some { visit with stage := stage }
  tested : stage.test? = some (test, start)

/-- The test of the visit takes the course told. If that one ends with a report, the visit is under
    its test or back with just this report, and it can come back as soon as the course is over. -/
structure GoesBy (s : Service) (place : Nat) (visit : Visit) (later : Service)
    (told : Course Call HostReport) : Prop where
  course : s.admittedCourse later visit = told.seenFrom s.now id
  back : ∀ t report, told.ending = .returned t report →
    (later.visits[place]? =
        some { visit with stage := .underTest (s.admission visit) s.now } ∧
      (s.now + t ≤ later.now →
        later.next { visit with stage := .underTest (s.admission visit) s.now } =
          some (.reported (s.admission visit) s.now report, later.inspector))) ∨
    s.now + t ≤ later.now ∧
      later.visits[place]? =
        some { visit with stage := .reported (s.admission visit) s.now report }

variable {s s' later : Service} {a : Act} {place : Nat} {visit : Visit}

section Steps

variable {policy : Policy} {resolver : Dns.Resolver} {test : HostTest} {start : Nat}

theorem step_keeps_test (leads : ∃ stage, s.Leads place visit test start stage)
    (step : s.Step a s') : ∃ stage, s'.Leads place visit test start stage := by
  obtain ⟨stage, there, tested⟩ := leads
  cases step with
  | enter host caller world =>
    obtain ⟨bound, _⟩ := List.getElem?_eq_some_iff.mp there
    exact ⟨stage, by rw [List.getElem?_append_left bound, there], tested⟩
  | @visit i own next inspector found proceeds =>
    -- A visit that is under test can only come back from it, and takes the test along.
    by_cases same : i = place
    · subst same
      cases there.symm.trans found
      obtain ⟨bound, _⟩ := List.getElem?_eq_some_iff.mp there
      refine ⟨next, by simp [bound], ?_⟩
      cases proceeds with
      | shutOut own | clear own | onCooldown own | admitted own =>
        have was : stage = _ := own
        rw [was] at tested
        cases tested
      | report own | crash own =>
        have was : stage = _ := own
        rw [was] at tested
        exact tested
    · exact ⟨stage, by rw [List.getElem?_set_ne same, there], tested⟩
  | _ => exact ⟨stage, there, tested⟩

theorem step_keeps_work (work : s.inspector.policy = policy ∧ s.inspector.resolver = resolver)
    (step : s.Step a s') :
    s'.inspector.policy = policy ∧ s'.inspector.resolver = resolver := by
  cases step with
  | visit i there proceeds =>
    obtain ⟨cooldown, rfl⟩ := proceeds_keeps proceeds
    exact work
  | _ => exact work

theorem work_of_let_in (h : LetsIn policy resolver s place visit later) :
    (s.inspector.policy = policy ∧ s.inspector.resolver = resolver) ∧
      later.inspector.policy = policy ∧ later.inspector.resolver = resolver := by
  obtain ⟨world, begun, initial, acts, ran⟩ := h.reached
  obtain ⟨during, went⟩ := h.since
  have before := run_keeps (fun _ _ _ => step_keeps_work) ⟨rfl, rfl⟩ ran
  exact ⟨before, run_keeps (fun _ _ _ => step_keeps_work) before went⟩

theorem leads_since (h : LetsIn policy resolver s place visit later) :
    ∃ stage, later.Leads place visit (s.admission visit) s.now stage ∧
      later.IsSound { visit with stage := stage } := by
  obtain ⟨world, begun, initial, before, ran⟩ := h.reached
  obtain ⟨during, went⟩ := h.since
  obtain ⟨cooldown, claimed⟩ := h.free
  have sound := run_sound (run_sound (opened_sound policy resolver world begun initial) ran) went
  -- The first act lets the test in, and no later one takes it back.
  obtain ⟨between, step, rest⟩ := run_cons_iff.mp went
  have leads : ∃ stage, between.Leads place visit (s.admission visit) s.now stage := by
    have next := next_iff_proceeds.mpr (.admitted h.cleared cooldown claimed)
    cases step with
    | @visit _ own stage inspector found proceeds =>
      cases h.there.symm.trans found
      cases (next_iff_proceeds.mpr proceeds).symm.trans next
      obtain ⟨bound, _⟩ := List.getElem?_eq_some_iff.mp found
      exact ⟨_, List.getElem?_set_self bound, rfl⟩
  obtain ⟨stage, there, tested⟩ := run_keeps (fun _ _ _ => step_keeps_test) leads rest
  exact ⟨stage, ⟨there, tested⟩, sound.visits _ (List.mem_of_getElem? there)⟩

end Steps

theorem tokens_in_step {caller other : Token} {closing closingOther : Option Nat}
    {s u d timeout : Nat}
    (interrupted : ∀ e ≤ d, (other.meet ⟨closingOther⟩).isCancelled (u + e) =
      (caller.meet ⟨closing⟩).isCancelled (s + e)) :
    ∀ e ≤ d, ((other.meet (.cancelledFrom (u + timeout))).meet ⟨closingOther⟩).isCancelled (u + e) =
      ((caller.meet (.cancelledFrom (s + timeout))).meet ⟨closing⟩).isCancelled (s + e) := by
  intro e during
  have deadline : (Token.cancelledFrom (u + timeout)).isCancelled (u + e) =
      (Token.cancelledFrom (s + timeout)).isCancelled (s + e) :=
    decide_eq_decide.mpr (by omega)
  rw [meet_right_comm, meet_right_comm caller, cancelled_meet, cancelled_meet _ (.cancelledFrom _),
    interrupted e during, deadline]

theorem admitted_course_ends (s later : Service) (visit : Visit) :
    ∃ told d, s.admittedCourse later visit = Course.seenFrom s.now id told ∧
      told.ending.instant? = some d := by
  obtain ⟨cut, atCut⟩ := deadline_comes visit.caller
    (s.now + s.inspector.policy.testTimeout) later.inspector.closedAt
  have cancelled : ((s.admission visit).under
      ((s.admission visit).token.meet ⟨later.inspector.closedAt⟩)).token.cancelledAt =
        some cut := atCut
  obtain ⟨t, ended, _⟩ := host_test_ends_by cancelled later.inspector.policy
    later.inspector.resolver visit.world s.now
  obtain ⟨told, own⟩ := host_test_told later.inspector.policy later.inspector.resolver visit.world
    ((s.admission visit).under ((s.admission visit).token.meet ⟨later.inspector.closedAt⟩)) s.now
  have instant : (told.ending.seenFrom s.now id).instant? = some t :=
    (congrArg (fun course => course.ending.instant?) own).symm.trans ended
  rw [Ending.instant_seen_from, Option.map_eq_some_iff] at instant
  obtain ⟨d, atEnd, _⟩ := instant
  exact ⟨told, d, own, atEnd⟩

theorem goes_by_told {policy : Policy} {resolver : Dns.Resolver} {told : Course Call HostReport}
    (letsIn : LetsIn policy resolver s place visit later)
    (course : s.admittedCourse later visit = told.seenFrom s.now id) :
    s.GoesBy place visit later told := by
  refine ⟨course, ?_⟩
  intro t report returned
  have ended : (s.admittedCourse later visit).ending = .returned (s.now + t) report := by
    rw [course]
    exact congrArg (Ending.seenFrom s.now id) returned
  obtain ⟨stage, ⟨there, tested⟩, sound⟩ := leads_since letsIn
  cases stage with
  | underTest test start =>
    cases tested
    refine .inl ⟨there, ?_⟩
    intro past
    exact next_iff_proceeds.mpr (.report rfl _ report ended past)
  | reported test start own =>
    cases tested
    obtain ⟨_, past, outcome⟩ := sound.reported _ _ own rfl
    cases outcome.symm.trans ended
    exact .inr ⟨past, there⟩
  | crashed test start =>
    cases tested
    obtain ⟨_, _, reason, outcome⟩ := sound.crashed _ _ rfl
    cases outcome.symm.trans ended
  | counted | cleared | refused => cases tested

theorem told_of_calm {told : Course Call HostReport} {d : Nat} (calm : visit.world.Calm)
    (course : s.admittedCourse later visit = told.seenFrom s.now id)
    (ended : told.ending.instant? = some d) : ∃ report, told.ending = .returned d report := by
  cases ending : told.ending with
  | returned t report =>
    rw [ending] at ended
    cases ended
    exact ⟨report, rfl⟩
  | crashed t reason =>
    have crashed : (s.admittedCourse later visit).ending = .crashed (s.now + t) reason := by
      rw [course]
      exact congrArg (Ending.seenFrom s.now id) ending
    exact absurd crashed (calm_test_never_crashes calm s.now _ reason)
  | pending =>
    rw [ending] at ended
    cases ended

def WinsNoRace (s later : Service) (visit : Visit) : Prop :=
  ∀ c, ((s.admission visit).token.meet ⟨later.inspector.closedAt⟩).cancelledAt = some c →
    Untied c later.inspector.resolver visit.world (s.admittedCourse later visit).calls

theorem course_of_admission {policy : Policy} {resolver : Dns.Resolver}
    (letsIn : LetsIn policy resolver s place visit later) :
    s.admittedCourse later visit = ((s.admission visit).under
      ((s.admission visit).token.meet ⟨later.inspector.closedAt⟩)).run policy resolver
        visit.world s.now := by
  obtain ⟨_, samePolicy, sameResolver⟩ := work_of_let_in letsIn
  unfold admittedCourse
  rw [course_eq_run_under, samePolicy, sameResolver]

theorem admission_alike {other : Service} {visitOther : Visit}
    (sameHost : visitOther.host = visit.host) (sameSnapshot : other.snapshot = s.snapshot)
    (token : Token) :
    (other.admission visitOther).under token = (s.admission visit).under token := by
  unfold HostTest.under admission
  rw [sameHost, sameSnapshot]

theorem untied_of_no_race {policy : Policy} {resolver : Dns.Resolver} {c : Nat}
    (letsIn : LetsIn policy resolver s place visit later) (noRace : s.WinsNoRace later visit)
    (cancelled :
      ((s.admission visit).token.meet ⟨later.inspector.closedAt⟩).cancelledAt = some c) :
    Untied c resolver visit.world (s.admittedCourse later visit).calls := by
  have untied := noRace c cancelled
  rwa [(work_of_let_in letsIn).2.2] at untied

end Service

namespace Isolated

open Service Disagreeing

def policy : Policy := { Policy.standard with tipRefresh := 10 }

def world : World :=
  { Disagreeing.world with consensus := fun _ => .answer 1 (.ok ⟨⟨500, ""⟩, ⟨1, 1⟩⟩) }

def start : Service := Service.opened policy .standard world 0 known

def neighbour : Host := ⟨.filled 2, host.netAddresses⟩

def visit : Visit := ⟨host, .never, world, .cleared⟩

def visitAt (stage : Stage) : Visit := { visit with stage := stage }

def alone : Service := { start with visits := [visit], tracked := 3 }

def aloneTesting : Service :=
  { alone with
    inspector := { start.inspector with cooldown := ⟨[(host.publicKey, policy.cooldown)]⟩ }
    visits := [visitAt (.underTest test 0)] }

def aloneAfter : Service :=
  { aloneTesting with now := 11, visits := [visitAt (.reported test 0 report)], tracked := 2 }

def neighbourVisit : Visit :=
  ⟨neighbour, .never, world,
    .underTest ⟨neighbour, known, .cancelledFrom policy.testTimeout⟩ 0⟩

def crowded : Service :=
  { start with
    inspector := { start.inspector with cooldown := ⟨[(neighbour.publicKey, policy.cooldown)]⟩ }
    now := 9
    visits := [neighbourVisit, visit]
    tracked := 4 }

def lateTest : HostTest := ⟨host, known, .cancelledFrom (9 + policy.testTimeout)⟩

def crowdedTesting : Service :=
  { crowded with
    inspector :=
      { start.inspector with
        cooldown :=
          ⟨[(host.publicKey, 9 + policy.cooldown), (neighbour.publicKey, policy.cooldown)]⟩ }
    visits := [neighbourVisit, visitAt (.underTest lateTest 9)] }

def crowdedAfter : Service :=
  { crowdedTesting with
    now := 20
    visits := [neighbourVisit, visitAt (.reported lateTest 9 report)]
    tracked := 3 }

theorem known_at_start : start.snapshot = known :=
  snapshot_before_refresh start.inspector world (by decide) (by decide)

theorem known_in_the_crowd : crowded.snapshot = known :=
  snapshot_before_refresh crowded.inspector world (by decide) (by decide)

theorem alone_lets_in : LetsIn policy .standard alone 0 visit aloneAfter := by
  have letIn : alone.act (.visit 0) = some aloneTesting := by
    have own : alone.snapshot = known := known_at_start
    unfold aloneTesting test
    rw [← own]
    rfl
  have ran : alone.run [.visit 0, .wait 11, .visit 0] = some aloneAfter := by
    rw [run_cons_iff]
    exact ⟨aloneTesting, act_iff_step.mp letIn, rfl⟩
  exact ⟨⟨world, 0, known, [.enter host .never world, .visit 0], rfl⟩, rfl, rfl, ⟨_, rfl⟩, _, ran⟩

theorem crowd_gathers :
    start.run [.enter neighbour .never world, .visit 0, .visit 0, .wait 9,
      .enter host .never world, .visit 1] = some crowded := by
  unfold crowded neighbourVisit
  rw [← known_at_start]
  rfl

theorem crowded_lets_in : LetsIn policy .standard crowded 1 visit crowdedAfter := by
  have letIn : crowded.act (.visit 1) = some crowdedTesting := by
    unfold crowdedTesting lateTest
    rw [← known_in_the_crowd]
    rfl
  have ran : crowded.run [.visit 1, .wait 20, .visit 1] = some crowdedAfter := by
    rw [run_cons_iff]
    exact ⟨crowdedTesting, act_iff_step.mp letIn, rfl⟩
  exact ⟨⟨world, 0, known, _, crowd_gathers⟩, rfl, rfl, ⟨_, rfl⟩, _, ran⟩

theorem in_step : world.InStep 0 9 world := by
  refine ⟨fun _ _ => rfl, fun _ _ _ => rfl, ?_⟩
  intro protocol
  cases protocol with
  | rhp2 | rhp3 => exact .none
  | siamux | quic => exact .some ⟨fun _ _ => rfl, fun _ _ => rfl, fun _ _ => rfl⟩

theorem tip_is_refreshed : crowdedAfter.snapshot.consensus.index.height = 500 := by
  have fetches : crowdedAfter.inspector.consensusFetches world 20 =
      [⟨10, some 11, some ⟨⟨500, ""⟩, ⟨1, 1⟩⟩⟩, ⟨20, some 21, some ⟨⟨500, ""⟩, ⟨1, 1⟩⟩⟩] := by
    change Fetch.series 10 _ 20 10 0 = _
    rw [Fetch.series, if_pos (by decide)]
    change _ :: Fetch.series 10 _ 20 20 11 = _
    rw [Fetch.series, if_pos (by decide)]
    change _ :: _ :: Fetch.series 10 _ 20 30 21 = _
    rw [series_not_due _ _ _ (by decide)]
    rfl
  change (Fetch.held known.consensus (crowdedAfter.inspector.consensusFetches world 20)
    20).index.height = 500
  rw [fetches]
  rfl

end Isolated
end HostHealth.Inspector
