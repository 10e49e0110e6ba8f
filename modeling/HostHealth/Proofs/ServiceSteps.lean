import HostHealth.Proofs.ClosedLoops
import HostHealth.Proofs.ClosedTests

/- What an act of a service can do, and what the acts of any interleaving keep. -/
namespace HostHealth.Inspector

open Net Timed

section Admission

variable {self next : Inspector} {world : World} {now : Nat} {host : Host} {caller : Token}
  {test : HostTest}

theorem let_in_eq_ok_iff :
    self.letIn world now host caller = (.ok test, next) ↔
      ∃ cooldown, self.cooldown.claim self.policy.cooldown now host.publicKey = .ok cooldown ∧
        test = ⟨host, self.snapshot world now,
          caller.meet (.cancelledFrom (now + self.policy.testTimeout))⟩ ∧
        next = { self with cooldown := cooldown } := by
  unfold letIn
  cases self.cooldown.claim self.policy.cooldown now host.publicKey with
  | error remaining => simp
  | ok cooldown => simp [eq_comm]

theorem let_in_eq_error_iff {remaining : Nat} :
    self.letIn world now host caller = (.error remaining, next) ↔
      self.cooldown.claim self.policy.cooldown now host.publicKey = .error remaining ∧
        next = self := by
  unfold letIn
  cases self.cooldown.claim self.policy.cooldown now host.publicKey with
  | error left => simp [eq_comm]
  | ok cooldown => simp

theorem ask_eq_let_in :
    self.ask world now host caller =
      if self.closedAt.isSome then (.error .closed, self)
      else ((self.letIn world now host caller).1.mapError .onCooldown,
        (self.letIn world now host caller).2) := by
  unfold ask letIn
  split
  · rfl
  · cases self.cooldown.claim self.policy.cooldown now host.publicKey <;> rfl

end Admission

section Courses

variable {self : Inspector} {world : World} {test : HostTest} {c start t now : Nat}

theorem course_of_open (isOpen : self.closedAt = none) :
    self.course world test start = test.run self.policy self.resolver world start := by
  have token : test.token.meet ⟨none⟩ = test.token := by
    obtain ⟨_ | x⟩ := test.token <;> rfl
  unfold course
  rw [isOpen, token]

theorem course_of_closed (closed : self.closedAt = some c) :
    self.course world test start = (test.cutAt c).run self.policy self.resolver world start := by
  unfold course
  rw [closed]
  rfl

theorem course_of_close (ended : (self.course world test start).ending.instant? = some t)
    (past : t ≤ now) :
    (self.close (now + 1)).course world test start = self.course world test start := by
  cases closed : self.closedAt with
  | some c => rw [close_of_closed closed]
  | none =>
    have law := HostTest.host_test_cut (now + 1) self.policy self.resolver world test
    rw [course_of_open closed] at ended ⊢
    have begun := ((law.orderly start).2 t ended).1
    have kept := law.kept start (by omega) ⟨t, ended, by omega⟩
    have cut : (self.close (now + 1)).closedAt = some (now + 1) := by rw [close_of_open closed]
    rw [course_of_closed cut, ← kept]
    rw [close_of_open closed]

theorem calls_before_close (closed : self.closedAt = some c) :
    startedBefore c (self.course world test start).calls =
      startedBefore c (test.run self.policy self.resolver world start).calls := by
  rw [course_of_closed closed]
  exact (HostTest.host_test_cut c self.policy self.resolver world test).calls_before start

end Courses

namespace Service

/-- What becomes of a visit by its next step. -/
inductive Proceeds (s : Service) (visit : Visit) : Stage → Inspector → Prop
  | shutOut (stage : visit.stage = .counted) (closed : s.inspector.closedAt.isSome = true) :
      Proceeds s visit (.refused .closed) s.inspector
  | clear (stage : visit.stage = .counted) (isOpen : s.inspector.closedAt = none) :
      Proceeds s visit .cleared s.inspector
  | onCooldown (stage : visit.stage = .cleared) (remaining : Nat)
      (claimed : s.inspector.cooldown.claim s.inspector.policy.cooldown s.now
        visit.host.publicKey = .error remaining) :
      Proceeds s visit (.refused (.onCooldown remaining)) s.inspector
  | admitted (stage : visit.stage = .cleared) (cooldown : Cooldown)
      (claimed : s.inspector.cooldown.claim s.inspector.policy.cooldown s.now
        visit.host.publicKey = .ok cooldown) :
      Proceeds s visit
        (.underTest ⟨visit.host, s.snapshot,
          visit.caller.meet (.cancelledFrom (s.now + s.inspector.policy.testTimeout))⟩ s.now)
        { s.inspector with cooldown := cooldown }
  | report {test : HostTest} {start : Nat} (stage : visit.stage = .underTest test start) (t : Nat)
      (report : HostReport)
      (ended : (s.inspector.course visit.world test start).ending = .returned t report)
      (past : t ≤ s.now) : Proceeds s visit (.reported test start report) s.inspector
  | crash {test : HostTest} {start : Nat} (stage : visit.stage = .underTest test start) (t : Nat)
      (reason : String)
      (ended : (s.inspector.course visit.world test start).ending = .crashed t reason)
      (past : t ≤ s.now) : Proceeds s visit (.crashed test start) s.inspector

/-- What becomes of a service by an act. -/
inductive Step (s : Service) : Act → Service → Prop
  | wait (t : Nat) (later : s.now ≤ t) : Step s (.wait t) { s with now := t }
  | enter (host : Host) (caller : Token) (world : World) :
      Step s (.enter host caller world)
        { s with
          visits := s.visits ++ [⟨host, caller, world, .counted⟩]
          tracked := s.tracked + 1 }
  | visit (i : Nat) {visit : Visit} {stage : Stage} {inspector : Inspector}
      (there : s.visits[i]? = some visit) (proceeds : s.Proceeds visit stage inspector) :
      Step s (.visit i)
        { s with
          inspector := inspector
          visits := s.visits.set i { visit with stage := stage }
          tracked := if stage.isTracked then s.tracked else s.tracked - 1 }
  | endLoop (loop : Loop) (running : loop ∈ s.loops) (done : s.isOver loop = true) :
      Step s (.endLoop loop) { s with loops := s.loops.erase loop, tracked := s.tracked - 1 }
  | close :
      Step s .close
        { s with
          inspector := s.inspector.close (s.now + 1)
          now := s.now + 1
          closings := s.closings ++ [.begun] }
  | shutTracker (j : Nat) (begun : s.closings[j]? = some .begun) :
      Step s (.closing j)
        { s with closings := s.closings.set j .waiting, trackerClosed := true }
  | finish (j : Nat) (waiting : s.closings[j]? = some .waiting) (shut : s.trackerClosed = true)
      (empty : s.tracked = 0) :
      Step s (.closing j) { s with closings := s.closings.set j .done }

variable {s s' : Service} {a : Act}

theorem next_iff_proceeds {visit : Visit} {stage : Stage} {inspector : Inspector} :
    s.next visit = some (stage, inspector) ↔ s.Proceeds visit stage inspector := by
  constructor
  · intro h
    unfold next at h
    cases own : visit.stage with
    | counted =>
      rw [own] at h
      cases closed : s.inspector.closedAt with
      | none =>
        simp only [closed] at h
        cases h
        exact .clear own closed
      | some c =>
        simp only [closed] at h
        cases h
        exact .shutOut own (by rw [closed]; rfl)
    | cleared =>
      rw [own] at h
      dsimp only at h
      cases admission : s.inspector.letIn s.world s.now visit.host visit.caller with
      | mk answer next =>
        rw [admission] at h
        cases answer with
        | error remaining =>
          cases h
          obtain ⟨claimed, rfl⟩ := let_in_eq_error_iff.mp admission
          exact .onCooldown own remaining claimed
        | ok test =>
          cases h
          obtain ⟨cooldown, claimed, rfl, rfl⟩ := let_in_eq_ok_iff.mp admission
          exact .admitted own cooldown claimed
    | refused refusal => simp [own] at h
    | underTest test start =>
      rw [own] at h
      dsimp only at h
      cases ended : (s.inspector.course visit.world test start).ending with
      | returned t report =>
        rw [ended] at h
        by_cases past : t ≤ s.now
        · simp only [past, if_true] at h
          cases h
          exact .report own t report ended past
        · simp [past] at h
      | crashed t reason =>
        rw [ended] at h
        by_cases past : t ≤ s.now
        · simp only [past, if_true] at h
          cases h
          exact .crash own t reason ended past
        · simp [past] at h
      | pending => simp [ended] at h
    | reported test start report => simp [own] at h
    | crashed test start => simp [own] at h
  · intro h
    unfold next
    cases h with
    | shutOut own closed => simp [own, closed]
    | clear own isOpen => simp [own, isOpen]
    | onCooldown own remaining claimed => simp [own, letIn, claimed]
    | admitted own cooldown claimed => simp [own, letIn, claimed, snapshot]
    | report own t report ended past => simp [own, ended, past]
    | crash own t reason ended past => simp [own, ended, past]

theorem act_iff_step : s.act a = some s' ↔ s.Step a s' := by
  constructor
  · intro h
    cases a with
    | wait t =>
      simp only [act] at h
      split at h
      · rename_i later
        cases h
        exact .wait t later
      · cases h
    | enter host caller world =>
      cases h
      exact .enter host caller world
    | visit i =>
      obtain ⟨visit, there, rest⟩ := Option.bind_eq_some_iff.mp h
      obtain ⟨⟨stage, inspector⟩, next, done⟩ := Option.bind_eq_some_iff.mp rest
      cases done
      exact .visit i there (next_iff_proceeds.mp next)
    | endLoop loop =>
      simp only [act] at h
      split at h
      · rename_i possible
        cases h
        exact .endLoop loop possible.1 possible.2
      · cases h
    | close =>
      cases h
      exact .close
    | closing j =>
      simp only [act] at h
      cases there : s.closings[j]? with
      | none => simp [there] at h
      | some closing =>
        cases closing with
        | begun =>
          simp only [there] at h
          cases h
          exact .shutTracker j there
        | waiting =>
          simp only [there] at h
          split at h
          · rename_i possible
            cases h
            exact .finish j there possible.1 possible.2
          · cases h
        | done => simp [there] at h
  · intro h
    cases h with
    | wait t later => simp [act, later]
    | enter host caller world => rfl
    | visit i there proceeds =>
      have next := next_iff_proceeds.mpr proceeds
      simp [act, there, next]
    | endLoop loop running done => simp [act, running, done]
    | close => rfl
    | shutTracker j begun => simp [act, begun]
    | finish j waiting shut empty => simp [act, waiting, shut, empty]

theorem run_cons_iff {rest : List Act} :
    s.run (a :: rest) = some s' ↔ ∃ between, s.Step a between ∧ between.run rest = some s' := by
  change (s.act a).bind (fun between => between.run rest) = some s' ↔ _
  rw [Option.bind_eq_some_iff]
  simp only [act_iff_step]

theorem run_keeps {P : Service → Prop} (step : ∀ s a s', P s → s.Step a s' → P s')
    {acts : List Act} (h : P s) (ran : s.run acts = some s') : P s' := by
  induction acts generalizing s with
  | nil =>
    cases ran
    exact h
  | cons a rest ih =>
    obtain ⟨between, first, later⟩ := run_cons_iff.mp ran
    exact ih (step s a between h first) later

theorem run_of_act {rest : List Act} (acted : s.act a = some s') :
    s.run (a :: rest) = s'.run rest := by
  change (s.act a).bind (fun between => between.run rest) = _
  rw [acted]
  rfl

theorem run_append (s : Service) (front back : List Act) :
    s.run (front ++ back) = (s.run front).bind fun between => between.run back := by
  induction front generalizing s with
  | nil => rfl
  | cons a rest ih =>
    cases acted : s.act a with
    | none => simp [run, acted]
    | some between => rw [List.cons_append, run_of_act acted, run_of_act acted, ih]

def entered (s : Service) (host : Host) (caller : Token) (other : World) : Service :=
  { s with
    visits := s.visits ++ [⟨host, caller, other, .counted⟩]
    tracked := s.tracked + 1 }

theorem step_of_last_visit (s : Service) {visits : List Visit} {visit : Visit} {stage : Stage}
    {inspector : Inspector} (listed : s.visits = visits ++ [visit])
    (next : s.next visit = some (stage, inspector)) :
    ∃ s', s.act (.visit visits.length) = some s' ∧ s'.inspector = inspector ∧
      s'.world = s.world ∧ s'.now = s.now ∧ s'.visits = visits ++ [{ visit with stage := stage }] := by
  have there : s.visits[visits.length]? = some visit := by simp [listed]
  have step := Step.visit visits.length there (next_iff_proceeds.mp next)
  exact ⟨_, act_iff_step.mpr step, rfl, rfl, rfl, by simp [listed]⟩

def answer (s : Service) (host : Host) (caller : Token) : Stage × Inspector :=
  match s.inspector.ask s.world s.now host caller with
  | (.error refusal, inspector) => (.refused refusal, inspector)
  | (.ok test, inspector) => (.underTest test s.now, inspector)

/-- A caller that nobody interrupts comes, by one step or two, to what `ask` answers. -/
theorem uninterrupted_visit_is_ask (s : Service) (host : Host) (caller : Token) (other : World) :
    ∃ steps s', s.run (.enter host caller other :: List.replicate steps (.visit s.visits.length)) =
        some s' ∧
      s'.inspector = (s.answer host caller).2 ∧
      s'.visits = s.visits ++ [⟨host, caller, other, (s.answer host caller).1⟩] := by
  have came : s.act (.enter host caller other) = some (s.entered host caller other) := rfl
  cases closed : s.inspector.closedAt with
  | some c =>
    have answered : s.answer host caller = (.refused .closed, s.inspector) := by
      simp [answer, ask_eq_let_in, closed]
    have first : (s.entered host caller other).next ⟨host, caller, other, .counted⟩ =
        some (.refused .closed, s.inspector) := by simp [next, entered, closed]
    obtain ⟨s', acted, inspector, _, _, visits⟩ := step_of_last_visit _ rfl first
    refine ⟨1, s', ?_, by rw [answered, inspector], by rw [answered, visits]⟩
    rw [run_of_act came, List.replicate_one, run_of_act acted]
    rfl
  | none =>
    have first : (s.entered host caller other).next ⟨host, caller, other, .counted⟩ =
        some (.cleared, s.inspector) := by simp [next, entered, closed]
    obtain ⟨s₁, acted, inspector, world, now, visits⟩ := step_of_last_visit _ rfl first
    have second : s₁.next ⟨host, caller, other, .cleared⟩ = some (s.answer host caller) := by
      simp only [answer, ask_eq_let_in, closed, next, inspector, world, now, entered]
      obtain ⟨_ | _, _⟩ := s.inspector.letIn s.world s.now host caller <;> rfl
    obtain ⟨s₂, acted', inspector', _, _, visits'⟩ := step_of_last_visit s₁ visits second
    refine ⟨2, s₂, ?_, inspector', visits'⟩
    rw [run_of_act came, List.replicate_succ, run_of_act acted, List.replicate_one,
      run_of_act acted']
    rfl

end Service
end HostHealth.Inspector
