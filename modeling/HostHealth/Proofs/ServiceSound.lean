import HostHealth.Proofs.ServiceSteps

/- What holds of a service between any two acts. The tracker counts whoever is inside, a test that
   has been let in goes the way of its course, and a closing that is done has left nobody inside. -/
namespace HostHealth.Inspector

open Net Timed HostTest

def Stage.test? : Stage → Option (HostTest × Nat)
  | .underTest test start | .reported test start _ | .crashed test start => some (test, start)
  | _ => none

/-- Between the look at the flag and the end of the test. -/
def Stage.isUnderWay : Stage → Bool
  | .cleared | .underTest _ _ => true
  | _ => false

namespace Service

structure IsAdmitted (s : Service) (visit : Visit) (test : HostTest) (start : Nat) : Prop where
  past : start ≤ s.now
  host : test.host = visit.host
  token : test.token = visit.caller.meet (.cancelledFrom (start + s.inspector.policy.testTimeout))

structure IsSound (s : Service) (visit : Visit) : Prop where
  admitted : ∀ test start, visit.stage.test? = some (test, start) → s.IsAdmitted visit test start
  reported : ∀ test start report, visit.stage = .reported test start report →
    ∃ t ≤ s.now, (s.inspector.course visit.world test start).ending = .returned t report
  crashed : ∀ test start, visit.stage = .crashed test start →
    ∃ t ≤ s.now, ∃ reason, (s.inspector.course visit.world test start).ending = .crashed t reason

/-- What holds between any two acts. The tracker counts the callers inside and the loops, and a
    closing that is done has seen it at nothing. -/
structure Sound (s : Service) : Prop where
  past : ∀ c, s.inspector.closedAt = some c → c ≤ s.now
  closed : s.closings ≠ [] → s.inspector.closedAt.isSome = true
  tracked : s.tracked = s.visits.countP (fun visit => visit.stage.isTracked) + s.loops.length
  visits : ∀ visit ∈ s.visits, s.IsSound visit
  done : .done ∈ s.closings → s.loops = [] ∧ ∀ visit ∈ s.visits, visit.stage.isUnderWay = false

variable {s s' : Service} {a : Act}

theorem sound_later {visit : Visit} (h : s.IsSound visit) (later : s.now ≤ s'.now)
    (policy : s'.inspector.policy = s.inspector.policy)
    (courses : ∀ test start t,
      (s.inspector.course visit.world test start).ending.instant? = some t → t ≤ s.now →
      s'.inspector.course visit.world test start = s.inspector.course visit.world test start) :
    s'.IsSound visit := by
  constructor
  · intro test start tested
    obtain ⟨past, host, token⟩ := h.admitted test start tested
    exact ⟨Nat.le_trans past later, host, by rw [token, policy]⟩
  · intro test start report stage
    obtain ⟨t, past, ended⟩ := h.reported test start report stage
    have same := courses test start t (by rw [ended]; rfl) past
    exact ⟨t, Nat.le_trans past later, by rw [same, ended]⟩
  · intro test start stage
    obtain ⟨t, past, reason, ended⟩ := h.crashed test start stage
    have same := courses test start t (by rw [ended]; rfl) past
    exact ⟨t, Nat.le_trans past later, reason, by rw [same, ended]⟩

theorem sound_of_untested {visit : Visit} (untested : visit.stage.test? = none) :
    s.IsSound visit := by
  constructor
  · intro test start tested
    rw [untested] at tested
    cases tested
  · intro test start report stage
    rw [stage] at untested
    cases untested
  · intro test start stage
    rw [stage] at untested
    cases untested

section Proceeding

variable {visit : Visit} {stage : Stage} {inspector : Inspector}

theorem proceeds_keeps (h : s.Proceeds visit stage inspector) :
    ∃ cooldown, inspector = { s.inspector with cooldown := cooldown } := by
  cases h with
  | admitted own cooldown claimed => exact ⟨cooldown, rfl⟩
  | _ => exact ⟨s.inspector.cooldown, rfl⟩

theorem proceeds_was_tracked (h : s.Proceeds visit stage inspector) :
    visit.stage.isTracked = true := by
  cases h with
  | shutOut own _ => rw [own]; rfl
  | clear own _ => rw [own]; rfl
  | onCooldown own _ _ => rw [own]; rfl
  | admitted own _ _ => rw [own]; rfl
  | report own _ _ _ _ => rw [own]; rfl
  | crash own _ _ _ _ => rw [own]; rfl

theorem proceeds_home (h : s.Proceeds visit stage inspector)
    (closed : s.inspector.closedAt.isSome = true) (home : visit.stage.isUnderWay = false) :
    stage.isUnderWay = false := by
  cases h with
  | clear own isOpen => simp [isOpen] at closed
  | admitted own _ _ => simp [own, Stage.isUnderWay] at home
  | _ => rfl

theorem sound_after_step (sound : s.IsSound visit) (h : s.Proceeds visit stage inspector) :
    s.IsSound { visit with stage := stage } := by
  cases h with
  | shutOut own closed => exact sound_of_untested rfl
  | clear own isOpen => exact sound_of_untested rfl
  | onCooldown own remaining claimed => exact sound_of_untested rfl
  | admitted own cooldown claimed =>
    refine ⟨?_, (fun _ _ _ same => by cases same), (fun _ _ same => by cases same)⟩
    intro test start tested
    cases tested
    exact ⟨Nat.le_refl _, rfl, rfl⟩
  | @report test start own t report ended past =>
    have admitted := sound.admitted test start (by rw [own]; rfl)
    refine ⟨?_, ?_, fun _ _ same => by cases same⟩
    · intro test' start' tested
      cases tested
      exact ⟨admitted.past, admitted.host, admitted.token⟩
    · intro test' start' report' same
      cases same
      exact ⟨t, past, ended⟩
  | @crash test start own t reason ended past =>
    have admitted := sound.admitted test start (by rw [own]; rfl)
    refine ⟨?_, (fun _ _ _ same => by cases same), ?_⟩
    · intro test' start' tested
      cases tested
      exact ⟨admitted.past, admitted.host, admitted.token⟩
    · intro test' start' same
      cases same
      exact ⟨t, past, reason, ended⟩

end Proceeding

theorem tracked_after_visit {visits : List Visit} {i : Nat} {visit : Visit} (stage : Stage)
    (there : visits[i]? = some visit) (was : visit.stage.isTracked = true) :
    (visits.set i { visit with stage := stage }).countP (fun v => v.stage.isTracked) =
      if stage.isTracked then visits.countP (fun v => v.stage.isTracked)
      else visits.countP (fun v => v.stage.isTracked) - 1 := by
  obtain ⟨bound, own⟩ := List.getElem?_eq_some_iff.mp there
  have some : 0 < visits.countP (fun v => v.stage.isTracked) :=
    List.countP_pos_iff.mpr ⟨visit, List.mem_of_getElem? there, was⟩
  rw [List.countP_set bound, own, was]
  cases stage.isTracked with
  | true => simp; omega
  | false => simp

theorem untracked_is_home {stage : Stage} (untracked : stage.isTracked = false) :
    stage.isUnderWay = false := by
  cases stage with
  | cleared => cases untracked
  | underTest test start => cases untracked
  | _ => rfl

theorem nobody_tracked
    (tracked : s.tracked = s.visits.countP (fun visit => visit.stage.isTracked) + s.loops.length)
    (empty : s.tracked = 0) :
    s.loops = [] ∧ ∀ visit ∈ s.visits, visit.stage.isTracked = false := by
  have outside : s.visits.countP (fun visit => visit.stage.isTracked) = 0 := by omega
  have noLoops : s.loops.length = 0 := by omega
  refine ⟨List.eq_nil_of_length_eq_zero noLoops, ?_⟩
  intro visit member
  exact Bool.eq_false_iff.mpr (List.countP_eq_zero.mp outside visit member)

theorem opened_sound (policy : Policy) (resolver : Dns.Resolver) (world : World) (begun : Nat)
    (initial : Snapshot) : (opened policy resolver world begun initial).Sound := by
  constructor
  · intro c closed
    cases closed
  · intro some
    exact absurd rfl some
  · rfl
  · intro visit member
    cases member
  · intro done
    cases done

theorem sound_after_visit {i : Nat} {visit : Visit} {stage : Stage} {inspector : Inspector}
    (h : s.Sound) (there : s.visits[i]? = some visit) (proceeds : s.Proceeds visit stage inspector) :
    Sound
      { s with
        inspector := inspector
        visits := s.visits.set i { visit with stage := stage }
        tracked := if stage.isTracked then s.tracked else s.tracked - 1 } := by
  have afterHome := proceeds_home proceeds
  obtain ⟨cooldown, rfl⟩ := proceeds_keeps proceeds
  have own := h.visits visit (List.mem_of_getElem? there)
  refine ⟨h.past, h.closed, ?_, ?_, ?_⟩
  · -- The tracker may be counted down, as it has counted this caller up.
    have was := proceeds_was_tracked proceeds
    have some : 0 < s.visits.countP (fun v => v.stage.isTracked) :=
      List.countP_pos_iff.mpr ⟨visit, List.mem_of_getElem? there, was⟩
    dsimp only
    rw [tracked_after_visit stage there was, h.tracked]
    split <;> omega
  · intro other member
    rcases List.mem_or_eq_of_mem_set member with old | rfl
    · exact sound_later (h.visits other old) (Nat.le_refl _) rfl fun _ _ _ _ _ => rfl
    · exact sound_later (sound_after_step own proceeds) (Nat.le_refl _) rfl
        fun _ _ _ _ _ => rfl
  · intro done
    obtain ⟨stopped, home⟩ := h.done done
    refine ⟨stopped, ?_⟩
    intro other member
    rcases List.mem_or_eq_of_mem_set member with old | rfl
    · exact home other old
    · exact afterHome (h.closed (List.ne_nil_of_mem done))
        (home visit (List.mem_of_getElem? there))

theorem sound_after_close (h : s.Sound) :
    Sound
      { s with
        inspector := s.inspector.close (s.now + 1)
        now := s.now + 1
        closings := s.closings ++ [.begun] } := by
  refine ⟨?_, ?_, h.tracked, ?_, ?_⟩
  · intro c closed
    cases was : s.inspector.closedAt with
    | none =>
      simp only [close_of_open was] at closed
      cases closed
      exact Nat.le_refl _
    | some c' =>
      simp only [close_of_closed was, was] at closed
      cases closed
      exact Nat.le_succ_of_le (h.past c was)
  · intro _
    cases was : s.inspector.closedAt with
    | none => simp [close_of_open was]
    | some c => simp [close_of_closed was, was]
  · intro visit member
    exact sound_later (h.visits visit member) (Nat.le_succ _) rfl
      fun _ _ _ ended past => course_of_close ended past
  · intro done
    rcases List.mem_append.mp done with old | new
    · exact h.done old
    · cases List.mem_singleton.mp new

theorem step_sound (h : s.Sound) (step : s.Step a s') : s'.Sound := by
  cases step with
  | wait t later =>
    refine ⟨fun c closed => Nat.le_trans (h.past c closed) later, h.closed, h.tracked, ?_, h.done⟩
    intro visit member
    exact sound_later (h.visits visit member) later rfl fun _ _ _ _ _ => rfl
  | enter host caller world =>
    refine ⟨h.past, h.closed, ?_, ?_, ?_⟩
    · rw [h.tracked, List.countP_append]
      simp [Stage.isTracked]
      omega
    · intro visit member
      rcases List.mem_append.mp member with old | new
      · exact sound_later (h.visits visit old) (Nat.le_refl _) rfl fun _ _ _ _ _ => rfl
      · cases List.mem_singleton.mp new
        exact sound_of_untested rfl
    · intro done
      -- Who comes after a closing is counted again, but has not set out.
      obtain ⟨stopped, home⟩ := h.done done
      refine ⟨stopped, ?_⟩
      intro visit member
      rcases List.mem_append.mp member with old | new
      · exact home visit old
      · cases List.mem_singleton.mp new
        rfl
  | visit i there proceeds => exact sound_after_visit h there proceeds
  | endLoop loop running done =>
    refine ⟨h.past, h.closed, ?_, ?_, ?_⟩
    · have := List.length_pos_of_mem running
      dsimp only
      rw [List.length_erase_of_mem running, h.tracked]
      omega
    · intro visit member
      exact sound_later (h.visits visit member) (Nat.le_refl _) rfl fun _ _ _ _ _ => rfl
    · intro done
      -- No loop is left to end.
      obtain ⟨stopped, _⟩ := h.done done
      rw [stopped] at running
      cases running
  | close => exact sound_after_close h
  | shutTracker j begun =>
    refine ⟨h.past, fun _ => h.closed (List.ne_nil_of_mem (List.mem_of_getElem? begun)),
      h.tracked, ?_, ?_⟩
    · intro visit member
      exact sound_later (h.visits visit member) (Nat.le_refl _) rfl fun _ _ _ _ _ => rfl
    · intro done
      rcases List.mem_or_eq_of_mem_set done with old | new
      · exact h.done old
      · cases new
  | finish j waiting shut empty =>
    refine ⟨h.past, fun _ => h.closed (List.ne_nil_of_mem (List.mem_of_getElem? waiting)),
      h.tracked, ?_, ?_⟩
    · intro visit member
      exact sound_later (h.visits visit member) (Nat.le_refl _) rfl fun _ _ _ _ _ => rfl
    · intro _
      obtain ⟨stopped, outside⟩ := nobody_tracked h.tracked empty
      exact ⟨stopped, fun visit member => untracked_is_home (outside visit member)⟩

theorem run_sound {acts : List Act} (h : s.Sound) (ran : s.run acts = some s') : s'.Sound :=
  run_keeps (fun _ _ _ => step_sound) h ran

end Service
end HostHealth.Inspector
