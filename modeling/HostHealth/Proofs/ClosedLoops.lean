import HostHealth.Inspector.Service
import HostHealth.Proofs.CrashContainment

/- The two loops of an inspector that is closed. They fetch nothing from then on, and what they hold
   stays as it is. -/
namespace HostHealth.Inspector

namespace Fetch

variable {α : Type}

theorem series_of_answer {period : Nat} {fetch : Nat → Reply (Option α)} {horizon due free : Nat}
    (possible : due ≤ horizon ∧ free ≤ horizon ∧ 0 < period) {delay : Nat} {value : Option α}
    (answer : fetch (max due free) = .answer delay value) :
    series period fetch horizon due free =
      ⟨max due free, some (max due free + delay), value⟩ ::
        series period fetch horizon (nextDue period due (max due free))
          (max due free + delay) := by
  rw [series, if_pos possible]
  simp only [answer]

theorem series_without_answer {period : Nat} {fetch : Nat → Reply (Option α)}
    {horizon due free : Nat} (possible : due ≤ horizon ∧ free ≤ horizon ∧ 0 < period)
    (none : ∀ delay value, fetch (max due free) ≠ .answer delay value) :
    series period fetch horizon due free = [⟨max due free, .none, .none⟩] := by
  rw [series, if_pos possible]
  cases reply : fetch (max due free) with
  | answer delay value => exact absurd reply (none delay value)
  | crash delay reason => simp only [reply]
  | silence => simp only [reply]

theorem series_starts_when_due {period : Nat} {fetch : Nat → Reply (Option α)}
    {horizon due free : Nat} :
    ∀ f ∈ series period fetch horizon due free, max due free ≤ f.started := by
  fun_induction series period fetch horizon due free with
  | case1 due free possible fired delay value answer ih =>
    have atFired : max due free ≤ fired := Nat.le_refl _
    intro f member
    rcases List.mem_cons.mp member with rfl | later
    · exact atFired
    · have := ih f later
      omega
  | case2 due free possible fired answer =>
    intro f member
    cases List.mem_singleton.mp member
    exact Nat.le_refl _
  | case3 => simp

theorem none_before_due {period : Nat} {fetch : Nat → Reply (Option α)} {horizon due free c : Nat}
    (late : c ≤ max due free) :
    (series period fetch horizon due free).filter (fun f => f.started < c) = [] := by
  apply List.filter_eq_nil_iff.mpr
  intro f member
  have := series_starts_when_due f member
  simp only [decide_eq_true_eq]
  omega

theorem series_before (period : Nat) (fetch : Nat → Reply (Option α)) {c horizon horizon' : Nat}
    (bound : c ≤ horizon + 1) (bound' : c ≤ horizon' + 1) (due free : Nat) :
    (series period fetch horizon due free).filter (fun f => f.started < c) =
      (series period fetch horizon' due free).filter (fun f => f.started < c) := by
  by_cases late : c ≤ max due free
  · rw [none_before_due late, none_before_due late]
  fun_induction series period fetch horizon due free with
  | case1 due free possible fired delay value answer ih =>
    have possible' : due ≤ horizon' ∧ free ≤ horizon' ∧ 0 < period := by omega
    rw [series_of_answer possible' answer]
    simp only [List.filter_cons]
    by_cases late' : c ≤ max (nextDue period due fired) (fired + delay)
    · rw [none_before_due late', none_before_due late']
    · rw [ih late']
  | case2 due free possible fired answer =>
    have possible' : due ≤ horizon' ∧ free ≤ horizon' ∧ 0 < period := by omega
    rw [series_without_answer possible' answer]
  | case3 due free impossible =>
    have impossible' : ¬ (due ≤ horizon' ∧ free ≤ horizon' ∧ 0 < period) := by omega
    rw [series, if_neg impossible']

theorem stopped_eq_of_horizons (period : Nat) (fetch : Nat → Reply (Option α))
    {c horizon horizon' : Nat} (bound : c ≤ horizon + 1) (bound' : c ≤ horizon' + 1)
    (begun : Nat) :
    stopped (some c) (loop period fetch begun horizon) =
      stopped (some c) (loop period fetch begun horizon') := by
  unfold stopped loop
  dsimp only
  rw [series_before period fetch bound bound']

theorem stopped_ends_before {c : Nat} {fetches : List (Fetch α)} :
    ∀ f ∈ stopped (some c) fetches, ∀ e, f.ended = some e → e < c := by
  intro f member e ended
  obtain ⟨whole, _, rfl⟩ := List.mem_map.mp member
  cases own : whole.ended with
  | none => simp [own] at ended
  | some u =>
    by_cases early : u < c
    · simp only [own, early, if_true] at ended
      cases ended
      exact early
    · simp [own, early] at ended

theorem held_alike {initial : α} {fetches : List (Fetch α)} {t t' : Nat}
    (arrived : ∀ f ∈ fetches, ∀ e, f.ended = some e → e ≤ t ∧ e ≤ t') :
    held initial fetches t = held initial fetches t' := by
  unfold held
  induction fetches generalizing initial with
  | nil => rfl
  | cons f rest ih =>
    have others := fun g member => arrived g (List.mem_cons_of_mem _ member)
    simp only [List.foldl_cons]
    cases ended : f.ended with
    | none => exact ih others
    | some e =>
      obtain ⟨bound, bound'⟩ := arrived f List.mem_cons_self e ended
      cases f.value with
      | none => exact ih others
      | some value =>
        simp only [bound, bound', if_true]
        exact ih others

end Fetch

section Closed

variable {self : Inspector} {world : World} {c t t' : Nat}

theorem fetches_after_closing (world : World) (closed : self.closedAt = some c) (bound : c ≤ t)
    (bound' : c ≤ t') :
    self.consensusFetches world t = self.consensusFetches world t' ∧
      self.releaseFetches world t = self.releaseFetches world t' := by
  unfold consensusFetches releaseFetches
  rw [closed]
  exact ⟨Fetch.stopped_eq_of_horizons _ _ (by omega) (by omega) _,
    Fetch.stopped_eq_of_horizons _ _ (by omega) (by omega) _⟩

theorem loop_calls_after_closing (closed : self.closedAt = some c) (bound : c ≤ t)
    (bound' : c ≤ t') : self.loopCalls world t = self.loopCalls world t' := by
  obtain ⟨consensus, release⟩ := fetches_after_closing world closed bound bound'
  unfold loopCalls
  rw [consensus, release]

theorem snapshot_after_closing (closed : self.closedAt = some c) (bound : c ≤ t)
    (bound' : c ≤ t') : self.snapshot world t = self.snapshot world t' := by
  obtain ⟨consensus, release⟩ := fetches_after_closing world closed bound bound'
  unfold snapshot
  rw [consensus, release]
  congr 1
  · apply Fetch.held_alike
    unfold consensusFetches
    rw [closed]
    intro f member e ended
    have := Fetch.stopped_ends_before f member e ended
    omega
  · apply Fetch.held_alike
    unfold releaseFetches
    rw [closed]
    intro f member e ended
    have := Fetch.stopped_ends_before f member e ended
    omega

theorem loop_calls_eq_starts :
    self.loopCalls world t =
      ((self.consensusFetches world t).map Fetch.started).map (fun u => (u, .consensus)) ++
        ((self.releaseFetches world t).map Fetch.started).map fun u =>
          (u, .release self.policy.releaseOrg self.policy.releaseRepo) := by
  unfold loopCalls
  rw [List.map_map, List.map_map]
  rfl

theorem close_of_closed (closed : self.closedAt = some c) : self.close t = self := by
  unfold close
  rw [closed]
  exact congrArg (fun closedAt => { self with closedAt := closedAt }) closed.symm

theorem close_of_open (isOpen : self.closedAt = none) :
    self.close t = { self with closedAt := some t } := by
  unfold close
  rw [isOpen]
  rfl

end Closed
end HostHealth.Inspector
