import HostHealth.Proofs.ServiceSound

/- How a service shuts down, whatever the interleaving of its callers, its loops and its closings.
   Who comes too late is shut out, who is inside comes back with what there was to find out, and
   behind the last of them nothing stirs any more. -/
namespace HostHealth.Inspector

open Net Timed HostTest

namespace Service

variable {s s' : Service} {a : Act}

section Closed

variable {c : Nat}

theorem step_stays_closed (closed : s.inspector.closedAt = some c) (step : s.Step a s') :
    s'.inspector.closedAt = some c := by
  cases step with
  | visit i there proceeds =>
    obtain ⟨cooldown, rfl⟩ := proceeds_keeps proceeds
    exact closed
  | close => rw [close_of_closed closed, closed]
  | _ => exact closed

theorem calls_of_tested {visit : Visit} {test : HostTest} {start : Nat}
    (tested : visit.stage.test? = some (test, start)) (inspector : Inspector) :
    visit.calls inspector = (inspector.course visit.world test start).calls := by
  unfold Visit.calls
  cases stage : visit.stage with
  | underTest | reported | crashed =>
    rw [stage] at tested
    cases tested
    rfl
  | counted | cleared | refused =>
    rw [stage] at tested
    cases tested

theorem calls_of_untested {visit : Visit} (untested : visit.stage.test? = none)
    (inspector : Inspector) : visit.calls inspector = [] := by
  unfold Visit.calls
  cases stage : visit.stage with
  | underTest | reported | crashed =>
    rw [stage] at untested
    cases untested
  | counted | cleared | refused => rfl

theorem calls_by_closing (h : s.Sound) (closed : s.inspector.closedAt = some c) {visit : Visit}
    (member : visit ∈ s.visits) : ∀ call ∈ visit.calls s.inspector, call.1 ≤ s.now := by
  intro call asked
  cases tested : visit.stage.test? with
  | none =>
    rw [calls_of_untested tested] at asked
    cases asked
  | some own =>
    obtain ⟨test, start⟩ := own
    have begun := ((h.visits visit member).admitted test start tested).past
    rw [calls_of_tested tested, course_of_closed closed] at asked
    have := (host_test_cut c s.inspector.policy s.inspector.resolver visit.world test).called_by
      start call asked
    have := h.past c closed
    omega

theorem log_of_closed (h : s.Sound) (closed : s.inspector.closedAt = some c) :
    s.log = s.inspector.loopCalls s.world s.now ++ s.visits.flatMap (Visit.calls s.inspector) := by
  unfold log
  congr 1
  apply List.filter_eq_self.mpr
  intro call member
  obtain ⟨visit, inside, own⟩ := List.mem_flatMap.mp member
  exact decide_eq_true (calls_by_closing h closed inside call own)

theorem calls_after_step {visit : Visit} {stage : Stage} {inspector : Inspector}
    (closed : s.inspector.closedAt = some c) (stays : visit.stage ≠ .cleared)
    (proceeds : s.Proceeds visit stage inspector) :
    Visit.calls inspector { visit with stage := stage } = visit.calls s.inspector := by
  cases proceeds with
  | shutOut own _ => simp [Visit.calls, own]
  | clear own isOpen => simp [isOpen] at closed
  | onCooldown own _ _ => simp [Visit.calls, own]
  | admitted own _ _ => exact absurd own stays
  | report own _ _ _ _ => simp [Visit.calls, own]
  | crash own _ _ _ _ => simp [Visit.calls, own]

theorem flat_map_set {α β : Type} {f : α → List β} {l : List α} {i : Nat} {x y : α}
    (there : l[i]? = some x) (same : f y = f x) : (l.set i y).flatMap f = l.flatMap f := by
  induction l generalizing i with
  | nil => rfl
  | cons head rest ih =>
    cases i with
    | zero =>
      cases there
      simp [same]
    | succ i => simp [ih there]

def LetsNobodyIn (s : Service) (a : Act) : Prop :=
  ∀ i visit, a = .visit i → s.visits[i]? = some visit → visit.stage ≠ .cleared

theorem step_starts_nothing (h : s.Sound) (closed : s.inspector.closedAt = some c)
    (letsNobodyIn : s.LetsNobodyIn a) (step : s.Step a s') :
    s'.log = s.log ∧ s'.snapshot = s.snapshot := by
  have past := h.past c closed
  rw [log_of_closed h closed, log_of_closed (step_sound h step) (step_stays_closed closed step)]
  cases step with
  | wait t later =>
    have bound := Nat.le_trans past later
    exact ⟨by rw [loop_calls_after_closing closed bound past],
      snapshot_after_closing closed bound past⟩
  | enter host caller world =>
    refine ⟨?_, rfl⟩
    simp [Visit.calls]
  | @visit i visit stage inspector there proceeds =>
    have same := calls_after_step closed (letsNobodyIn i visit rfl there) proceeds
    obtain ⟨cooldown, rfl⟩ := proceeds_keeps proceeds
    refine ⟨?_, rfl⟩
    exact congrArg (s.inspector.loopCalls s.world s.now ++ ·) (flat_map_set there same)
  | endLoop => exact ⟨rfl, rfl⟩
  | close =>
    have bound : c ≤ s.now + 1 := Nat.le_succ_of_le past
    rw [close_of_closed closed]
    exact ⟨by rw [loop_calls_after_closing closed bound past],
      snapshot_after_closing closed bound past⟩
  | shutTracker => exact ⟨rfl, rfl⟩
  | finish => exact ⟨rfl, rfl⟩

theorem step_stays_done (done : .done ∈ s.closings) (step : s.Step a s') : .done ∈ s'.closings := by
  have elsewhere : ∀ (j : Nat) (was next : Closing), s.closings[j]? = some was → was ≠ .done →
      .done ∈ s.closings.set j next := by
    intro j was next there other
    obtain ⟨k, found⟩ := List.getElem?_of_mem done
    have apart : j ≠ k := by
      rintro rfl
      cases there.symm.trans found
      exact other rfl
    exact List.mem_of_getElem? ((List.getElem?_set_ne apart).trans found)
  cases step with
  | close => exact List.mem_append_left _ done
  | shutTracker j begun => exact elsewhere j _ _ begun nofun
  | finish j waiting => exact elsewhere j _ _ waiting nofun
  | _ => exact done

theorem nobody_let_in (h : s.Sound) (done : .done ∈ s.closings) : s.LetsNobodyIn a := by
  rintro i visit rfl there cleared
  have home := (h.done done).2 visit (List.mem_of_getElem? there)
  rw [cleared] at home
  cases home

theorem run_starts_nothing {acts : List Act} (h : s.Sound)
    (closed : s.inspector.closedAt = some c) (done : .done ∈ s.closings)
    (ran : s.run acts = some s') : s'.log = s.log ∧ s'.snapshot = s.snapshot := by
  have kept : s'.Sound ∧ s'.inspector.closedAt = some c ∧ .done ∈ s'.closings ∧
      s'.log = s.log ∧ s'.snapshot = s.snapshot := by
    apply run_keeps (P := fun u => u.Sound ∧ u.inspector.closedAt = some c ∧ .done ∈ u.closings ∧
      u.log = s.log ∧ u.snapshot = s.snapshot) ?_ ⟨h, closed, done, rfl, rfl⟩ ran
    rintro u a u' ⟨sound, closed, done, log, snapshot⟩ step
    obtain ⟨log', snapshot'⟩ :=
      step_starts_nothing sound closed (nobody_let_in sound done) step
    exact ⟨step_sound sound step, step_stays_closed closed step, step_stays_done done step,
      log'.trans log, snapshot'.trans snapshot⟩
  exact kept.2.2.2

/-- The visit at the place was too late: the flag was set when it came. -/
structure IsLate (s : Service) (place : Nat) : Prop where
  closed : s.inspector.closedAt.isSome = true
  shutOut : ∃ visit, s.visits[place]? = some visit ∧
    (visit.stage = .counted ∨ visit.stage = .refused .closed)

theorem step_stays_late {place : Nat} (late : s.IsLate place) (step : s.Step a s') :
    s'.IsLate place := by
  obtain ⟨c, closed⟩ := Option.isSome_iff_exists.mp late.closed
  obtain ⟨visit, there, stage⟩ := late.shutOut
  have still : s'.inspector.closedAt.isSome = true := by
    rw [step_stays_closed closed step]
    rfl
  refine ⟨still, ?_⟩
  cases step with
  | enter host caller world =>
    obtain ⟨bound, _⟩ := List.getElem?_eq_some_iff.mp there
    exact ⟨visit, by rw [List.getElem?_append_left bound, there], stage⟩
  | @visit i own next inspector found proceeds =>
    by_cases same : i = place
    · subst same
      cases there.symm.trans found
      obtain ⟨bound, _⟩ := List.getElem?_eq_some_iff.mp there
      refine ⟨{ visit with stage := next }, by simp [bound], ?_⟩
      cases proceeds with
      | shutOut => exact Or.inr rfl
      | clear _ isOpen => simp [isOpen] at closed
      | onCooldown own | admitted own | report own | crash own => simp [own] at stage
    · exact ⟨visit, by rw [List.getElem?_set_ne same, there], stage⟩
  | _ => exact ⟨visit, there, stage⟩

theorem late_when_entering (closed : s.inspector.closedAt.isSome = true) {host : Host}
    {caller : Token} {world : World} (step : s.Step (.enter host caller world) s') :
    s'.IsLate s.visits.length := by
  cases step
  exact ⟨closed, _, List.getElem?_concat_length, Or.inl rfl⟩

/-- What a visit comes to that was too late: the refusal, by one step of its own that is always
    possible and touches nothing else. -/
structure IsShutOut (s : Service) (place : Nat) (visit : Visit) : Prop where
  silent : visit.calls s.inspector = []
  answered : visit.stage = .refused .closed ∧ s.act (.visit place) = none ∨
    visit.stage = .counted ∧ ∃ s', s.act (.visit place) = some s' ∧
      s'.visits[place]? = some { visit with stage := .refused .closed } ∧
      s'.inspector = s.inspector ∧ s'.log = s.log

theorem late_is_shut_out {place : Nat} (h : s.Sound) (late : s.IsLate place) :
    ∃ visit, s.visits[place]? = some visit ∧ s.IsShutOut place visit := by
  obtain ⟨c, closed⟩ := Option.isSome_iff_exists.mp late.closed
  obtain ⟨visit, there, stage⟩ := late.shutOut
  refine ⟨visit, there, ?_, ?_⟩
  · rcases stage with own | own
    · simp [Visit.calls, own]
    · simp [Visit.calls, own]
  · rcases stage with own | own
    · have proceeds : s.Proceeds visit (.refused .closed) s.inspector := .shutOut own late.closed
      have step := Step.visit place there proceeds
      obtain ⟨inside, _⟩ := List.getElem?_eq_some_iff.mp there
      have letsNobodyIn : s.LetsNobodyIn (.visit place) := by
        rintro _ _ ⟨⟩ found cleared
        cases there.symm.trans found
        cases own.symm.trans cleared
      exact Or.inr ⟨own, _, act_iff_step.mpr step, by simp [inside], rfl,
        (step_starts_nothing h closed letsNobodyIn step).1⟩
    · exact Or.inl ⟨own, by simp [act, there, next, own]⟩

/-- A test that was let in and is not over when the inspector is closed: it never crashes, reports as
    soon as it gets its turn, and has asked for nothing since, but for lookups that race with the
    closing. -/
structure ComesBack (s : Service) (c place : Nat) (visit : Visit) : Prop where
  unharmed : ∀ test start, visit.stage ≠ .crashed test start
  under_test : ∀ test start, visit.stage = .underTest test start → ∃ t report s',
    test.CutOff s.inspector.policy s.inspector.resolver visit.world c start t report ∧
    s.act (.visit place) = some s' ∧
    s'.visits[place]? = some { visit with stage := .reported test start report }
  reported : ∀ test start report, visit.stage = .reported test start report → ∃ t ≤ s.now,
    test.CutOff s.inspector.policy s.inspector.resolver visit.world c start t report
  admitted : ∀ test start, visit.stage.test? = some (test, start) →
    s.IsAdmitted visit test start ∧
    startedBefore c (visit.calls s.inspector) = startedBefore c
      (test.run s.inspector.policy s.inspector.resolver visit.world start).calls ∧
    ∀ call ∈ visit.calls s.inspector, c ≤ call.1 →
      call.1 ≤ max start c ∧ visit.world.names.IsAhead call

theorem comes_back (h : s.Sound) (closed : s.inspector.closedAt = some c) {place : Nat}
    {visit : Visit} (there : s.visits[place]? = some visit) (calm : visit.world.Calm) :
    s.ComesBack c place visit := by
  have own := h.visits visit (List.mem_of_getElem? there)
  have past := h.past c closed
  constructor
  · intro test start stage
    obtain ⟨t, _, reason, ended⟩ := own.crashed test start stage
    rw [course_of_closed closed] at ended
    exact calm_test_never_crashes calm start t reason ended
  · intro test start stage
    have begun := (own.admitted test start (by rw [stage]; rfl)).past
    obtain ⟨cut, cancelled, bound⟩ := meet_is_cancelled_no_later test.token c
    have cancelled' : (test.cutAt c).token.cancelledAt = some cut := cancelled
    obtain ⟨t, report, returned, _, soon⟩ :=
      calm_test_returns_by s.inspector.policy s.inspector.resolver cancelled' calm start
    have ended : (s.inspector.course visit.world test start).ending = .returned t report := by
      rw [course_of_closed closed, returned]
    have proceeds : s.Proceeds visit (.reported test start report) s.inspector :=
      .report stage t report ended (by omega)
    obtain ⟨inside, _⟩ := List.getElem?_eq_some_iff.mp there
    exact ⟨t, report, _, closed_test_is_cut_off returned,
      act_iff_step.mpr (.visit place there proceeds), by simp [inside]⟩
  · intro test start report stage
    obtain ⟨t, soon, ended⟩ := own.reported test start report stage
    rw [course_of_closed closed] at ended
    exact ⟨t, soon, closed_test_is_cut_off ended⟩
  · intro test start tested
    refine ⟨own.admitted test start tested, ?_⟩
    rw [calls_of_tested tested, calls_before_close closed]
    refine ⟨rfl, fun call asked since => ?_⟩
    rw [course_of_closed closed] at asked
    exact ⟨(host_test_cut c _ _ visit.world test).called_by start call asked,
      cut_test_is_quiet c _ _ _ test start call asked since⟩

theorem nobody_left (h : s.Sound) {j : Nat} (waiting : s.closings[j]? = some .waiting)
    (step : s.Step (.closing j) s') :
    s.loops = [] ∧ ∀ visit ∈ s.visits, visit.stage.isTracked = false := by
  cases step with
  | shutTracker _ begun => cases begun.symm.trans waiting
  | finish _ _ shut empty => exact nobody_tracked h.tracked empty

end Closed

/-- A service at any point of any interleaving. Who comes when a closing has begun is shut out.
    Whose test was let in comes back with a report, its unfinished probes cut off. A closing takes
    its last step only when all callers inside have left and both loops have ended; and from then
    on no request is started, and nothing that the service knows ever changes. -/
theorem shutdown_in_order (policy : Policy) (resolver : Dns.Resolver) (world : World)
    (begun : Nat) (initial : Snapshot) (acts : List Act) (s : Service)
    (ran : (opened policy resolver world begun initial).run acts = some s) :
    (s.closings ≠ [] → ∀ host caller other,
      (∀ s', s.act (.enter host caller other) = some s' →
        s'.inspector = s.inspector ∧ s'.log = s.log) ∧
      ∀ rest s', s.run (.enter host caller other :: rest) = some s' →
        ∃ visit, s'.visits[s.visits.length]? = some visit ∧
          s'.IsShutOut s.visits.length visit) ∧
    (∀ c, s.inspector.closedAt = some c → ∀ place visit, s.visits[place]? = some visit →
      visit.world.Calm → s.ComesBack c place visit) ∧
    (∀ j s', s.closings[j]? = some .waiting → s.act (.closing j) = some s' →
      s.loops = [] ∧ ∀ visit ∈ s.visits, visit.stage.isTracked = false) ∧
    (.done ∈ s.closings →
      (s.loops = [] ∧ ∀ visit ∈ s.visits, visit.stage.isUnderWay = false) ∧
      ∀ rest s', s.run rest = some s' → s'.log = s.log ∧ s'.snapshot = s.snapshot) := by
  have sound := run_sound (opened_sound policy resolver world begun initial) ran
  refine ⟨?_, ?_, ?_, ?_⟩
  · intro closing host caller other
    have isClosed := sound.closed closing
    obtain ⟨c, closed⟩ := Option.isSome_iff_exists.mp isClosed
    constructor
    · intro s' acted
      have step := act_iff_step.mp acted
      have letsNobodyIn : s.LetsNobodyIn (.enter host caller other) := by
        intro i visit same
        cases same
      refine ⟨?_, (step_starts_nothing sound closed letsNobodyIn step).1⟩
      cases step
      rfl
    · intro rest s' ran'
      obtain ⟨between, entered, later⟩ := run_cons_iff.mp ran'
      have late := late_when_entering isClosed entered
      have still := run_keeps (fun _ _ _ => step_stays_late) late later
      exact late_is_shut_out (run_sound (step_sound sound entered) later) still
  · intro c closed place visit there calm
    exact comes_back sound closed there calm
  · intro j s' waiting acted
    exact nobody_left sound waiting (act_iff_step.mp acted)
  · intro done
    refine ⟨sound.done done, ?_⟩
    intro rest s' ran'
    obtain ⟨c, closed⟩ :=
      Option.isSome_iff_exists.mp (sound.closed (List.ne_nil_of_mem done))
    exact run_starts_nothing sound closed done ran'

end Service

namespace ShuttingDown

open Service Stalling

def start : Service := Service.opened .standard .standard Stalling.world 0 known

def acts : List Act :=
  [.enter host .never Stalling.world, .visit 0, .visit 0, .wait 5, .close, .visit 0, .closing 0,
    .endLoop .tip, .endLoop .release, .closing 0]

def unshaken : ProbeReport :=
  { ProbeReport.untouched ⟨"1.2.3.4:2", .quic⟩ with
    resolvedAddresses := [.v4 ⟨1, 2, 3, 4⟩]
    connected := true
    dialTime := 1
    errors := ["test canceled"] }

def report : HostReport :=
  { publicKey := host.publicKey, version := "", results := [refused, unshaken], rhp3 := none }

def admitted : Service :=
  { start with
    inspector := Stalling.next
    visits := [⟨host, .never, Stalling.world, .underTest test 0⟩]
    tracked := 3 }

def final : Service :=
  { start with
    inspector := Stalling.next.close 6
    now := 6
    visits := [⟨host, .never, Stalling.world, .reported test 0 report⟩]
    loops := []
    closings := [.done]
    trackerClosed := true
    tracked := 0 }

theorem lets_in : start.run (acts.take 3) = some admitted := by
  have known : start.snapshot = known :=
    snapshot_before_refresh Stalling.inspector Stalling.world (by decide) (by decide)
  unfold admitted Stalling.test
  rw [← known]
  rfl

theorem winds_down : admitted.run (acts.drop 3) = some final := by rfl

theorem shutdown_of_stalled_test :
    start.run acts = some final ∧ final.loops = [] ∧
      ∀ rest s', final.run rest = some s' → s'.log = final.log ∧ s'.snapshot = final.snapshot := by
  have ran : start.run acts = some final := by
    have parts : acts = acts.take 3 ++ acts.drop 3 := rfl
    rw [parts, run_append, lets_in]
    exact winds_down
  obtain ⟨_, _, _, after⟩ := shutdown_in_order .standard .standard Stalling.world 0 known acts final ran
  obtain ⟨⟨stopped, _⟩, still⟩ := after (by decide)
  exact ⟨ran, stopped, still⟩

end ShuttingDown
end HostHealth.Inspector
