import HostHealth.Clock
import Mathlib.Data.List.Forall2

/- How composed activities end. An activity made of two returns exactly when both return, one
   after the other, and crashes exactly when one of them does. An activity whose requests all
   obey a cancelled token is over when the token is cancelled, if not before. -/
namespace HostHealth.Timed

variable {κ α β : Type}

theorem ending_of_bind (first : Timed κ α) (next : α → Timed κ β) (start : Nat) :
    ((first >>= next) start).ending =
      match (first start).ending with
      | .returned t value => (next value t).ending
      | .crashed t reason => .crashed t reason
      | .pending => .pending := by
  change (Timed.bind first next start).ending = _
  unfold Timed.bind
  dsimp only
  cases (first start).ending <;> rfl

theorem ending_of_measured (activity : Timed κ α) (start : Nat) :
    (measured activity start).ending =
      match (activity start).ending with
      | .returned t value => .returned t (value, t - start)
      | .crashed t reason => .crashed t reason
      | .pending => .pending := by
  unfold measured Timed.bind
  dsimp only
  cases (activity start).ending <;> rfl

theorem ending_of_rescued (activity : Timed κ α) (rescue : String → α) (start : Nat) :
    (rescued activity rescue start).ending =
      match (activity start).ending with
      | .crashed t reason => .returned t (rescue reason)
      | ending => ending := by
  unfold rescued
  dsimp only
  cases ended : (activity start).ending with
  | crashed t reason => rfl
  | returned t value => exact ended
  | pending => exact ended

theorem returned_pure_iff {value result : α} {start t : Nat} :
    ((pure value : Timed κ α) start).ending = .returned t result ↔
      t = start ∧ result = value := by
  change Ending.returned start value = .returned t result ↔ _
  rw [Ending.returned.injEq]
  exact and_congr eq_comm eq_comm

theorem returned_bind_iff {first : Timed κ α} {next : α → Timed κ β} {start t : Nat}
    {result : β} :
    ((first >>= next) start).ending = .returned t result ↔
      ∃ u value, (first start).ending = .returned u value ∧
        (next value u).ending = .returned t result := by
  rw [ending_of_bind]
  cases (first start).ending with
  | returned u value => simp
  | crashed u reason => simp
  | pending => simp

theorem crashed_bind_iff {first : Timed κ α} {next : α → Timed κ β} {start t : Nat}
    {reason : String} :
    ((first >>= next) start).ending = .crashed t reason ↔
      (first start).ending = .crashed t reason ∨
      ∃ u value, (first start).ending = .returned u value ∧
        (next value u).ending = .crashed t reason := by
  rw [ending_of_bind]
  cases (first start).ending with
  | returned u value => simp
  | crashed u other => simp
  | pending => simp

def Returns (activity : Timed κ α) (start : Nat) (value : α) : Prop :=
  ∃ t, (activity start).ending = .returned t value

theorem returns_pure_iff {value result : α} {start : Nat} :
    Returns (pure value : Timed κ α) start result ↔ result = value := by
  unfold Returns
  constructor
  · rintro ⟨t, returned⟩
    exact (returned_pure_iff.mp returned).2
  · intro same
    exact ⟨start, returned_pure_iff.mpr ⟨rfl, same⟩⟩

theorem returns_bind_iff {first : Timed κ α} {next : α → Timed κ β} {start : Nat} {result : β} :
    Returns (first >>= next) start result ↔
      ∃ u value, (first start).ending = .returned u value ∧ Returns (next value) u result := by
  constructor
  · rintro ⟨t, returned⟩
    obtain ⟨u, value, begun, rest⟩ := returned_bind_iff.mp returned
    exact ⟨u, value, begun, t, rest⟩
  · rintro ⟨u, value, begun, t, rest⟩
    exact ⟨t, returned_bind_iff.mpr ⟨u, value, begun, rest⟩⟩

theorem returns_after_ok_iff {ε : Type} {first : Timed κ (Except ε α)}
    {next : Except ε α → Timed κ β} {start : Nat} {result : β} {comes goes : Prop} {value : α}
    (failed : ∀ e u, ¬ Returns (next (.error e)) u result)
    (begun : ∀ found, Returns first start (.ok found) ↔ comes ∧ found = value)
    (settled : ∀ u, Returns (next (.ok value)) u result ↔ goes) :
    Returns (first >>= next) start result ↔ comes ∧ goes := by
  rw [returns_bind_iff]
  constructor
  · rintro ⟨u, e | found, ended, rest⟩
    · exact absurd rest (failed e u)
    · obtain ⟨came, rfl⟩ := (begun found).mp ⟨u, ended⟩
      exact ⟨came, (settled u).mp rest⟩
  · rintro ⟨came, went⟩
    obtain ⟨u, ended⟩ := (begun value).mpr ⟨came, rfl⟩
    exact ⟨u, .ok value, ended, (settled u).mpr went⟩

theorem not_returns_ok_of_error {ε : Type} {e : ε} {start : Nat} {value : α} :
    ¬ Returns (pure (.error e) : Timed κ (Except ε α)) start (.ok value) := by
  rw [returns_pure_iff]
  exact nofun

theorem rescued_after_crash {activity : Timed κ α} {rescue : String → α} {start t : Nat}
    {reason : String} (crashed : (activity start).ending = .crashed t reason) :
    (rescued activity rescue start).ending = .returned t (rescue reason) := by
  rw [ending_of_rescued, crashed]

theorem together_cons (activity : Timed κ α) (rest : List (Timed κ α)) (start : Nat) :
    (together (activity :: rest) start).ending =
      match (activity start).ending, (together rest start).ending with
      | .returned t value, .returned u values => .returned (max t u) ((t, value) :: values)
      | .crashed t reason, _ => .crashed t reason
      | _, .crashed t reason => .crashed t reason
      | _, _ => .pending := rfl

theorem returned_together_iff {activities : List (Timed κ α)} {start t : Nat}
    {values : List (Nat × α)} :
    (together activities start).ending = .returned t values ↔
      List.Forall₂ (fun activity v => (activity start).ending = .returned v.1 v.2)
        activities values ∧
      t = values.foldr (fun v latest => max v.1 latest) start := by
  -- `t` is general because the rest alone may end earlier than the whole.
  induction activities generalizing t values with
  | nil =>
    change Ending.returned start [] = .returned t values ↔ _
    rw [Ending.returned.injEq]
    constructor
    · rintro ⟨rfl, rfl⟩
      exact ⟨.nil, rfl⟩
    · rintro ⟨none, rfl⟩
      cases none
      exact ⟨rfl, rfl⟩
  | cons activity rest ih =>
    rw [together_cons]
    constructor
    · intro ended
      cases first : (activity start).ending with
      | returned u value =>
        cases others : (together rest start).ending with
        | returned w tail =>
          rw [first, others] at ended
          cases ended
          obtain ⟨each, last⟩ := ih.mp others
          exact ⟨.cons first each, by simp [last]⟩
        | crashed w reason => simp [first, others] at ended
        | pending => simp [first, others] at ended
      | crashed u reason => simp [first] at ended
      | pending => cases others : (together rest start).ending <;> simp [first, others] at ended
    · rintro ⟨each, last⟩
      cases each with
      | @cons _ v _ tail first rest' =>
        have others := ih.mpr ⟨rest', rfl⟩
        rw [first, others]
        simp [last]

def NeverCrashes (activity : Timed κ α) : Prop :=
  ∀ start t reason, (activity start).ending ≠ .crashed t reason

theorem pure_never_crashes (value : α) : NeverCrashes (pure value : Timed κ α) := by
  intro start t reason crashed
  cases crashed

theorem rescued_never_crashes (activity : Timed κ α) (rescue : String → α) :
    NeverCrashes (rescued activity rescue) := by
  intro start t reason crashed
  rw [ending_of_rescued] at crashed
  cases ended : (activity start).ending with
  | returned u value => simp [ended] at crashed
  | crashed u other => simp [ended] at crashed
  | pending => simp [ended] at crashed

theorem together_never_crashes {activities : List (Timed κ α)}
    (safe : ∀ activity ∈ activities, NeverCrashes activity) :
    NeverCrashes (together activities) := by
  induction activities with
  | nil => exact pure_never_crashes []
  | cons activity rest ih =>
    intro start t reason crashed
    have others := ih (fun a member => safe a (List.mem_cons_of_mem _ member)) start
    have first := safe activity List.mem_cons_self start
    rw [together_cons] at crashed
    split at crashed
    · cases crashed
    · rename_i u other ended
      exact first _ _ ended
    · rename_i u other ended _
      exact others _ _ ended
    · cases crashed

/-- Over in any case, by a value or by a crash, when the instant has come, or at its start if
    that is later. -/
def EndsBy (cut : Nat) (activity : Timed κ α) : Prop :=
  ∀ start, ∃ t, (activity start).ending.instant? = some t ∧ start ≤ t ∧ t ≤ max start cut

theorem pure_ends_by (cut : Nat) (value : α) : EndsBy cut (pure value : Timed κ α) := by
  intro start
  exact ⟨start, rfl, Nat.le_refl _, Nat.le_max_left _ _⟩

theorem bind_ends_by {cut : Nat} {first : Timed κ α} {next : α → Timed κ β}
    (begun : EndsBy cut first) (continued : ∀ value, EndsBy cut (next value)) :
    EndsBy cut (first >>= next) := by
  intro start
  obtain ⟨t, ended, after, bound⟩ := begun start
  rw [ending_of_bind]
  cases course : (first start).ending with
  | returned u value =>
    rw [course] at ended
    cases ended
    obtain ⟨w, last, later, limit⟩ := continued value t
    exact ⟨w, last, by omega, by omega⟩
  | crashed u reason =>
    rw [course] at ended
    exact ⟨t, ended, after, bound⟩
  | pending =>
    rw [course] at ended
    cases ended

theorem measured_ends_by {cut : Nat} {activity : Timed κ α} (h : EndsBy cut activity) :
    EndsBy cut (measured activity) := by
  intro start
  obtain ⟨t, ended, after, bound⟩ := h start
  refine ⟨t, ?_, after, bound⟩
  rw [ending_of_measured, ← ended]
  cases (activity start).ending <;> rfl

theorem rescued_ends_by {cut : Nat} {activity : Timed κ α} (rescue : String → α)
    (h : EndsBy cut activity) : EndsBy cut (rescued activity rescue) := by
  intro start
  obtain ⟨t, ended, after, bound⟩ := h start
  refine ⟨t, ?_, after, bound⟩
  rw [ending_of_rescued, ← ended]
  cases (activity start).ending <;> rfl

theorem together_ends_by {cut : Nat} {activities : List (Timed κ α)}
    (each : ∀ activity ∈ activities, EndsBy cut activity) :
    EndsBy cut (together activities) := by
  induction activities with
  | nil => exact pure_ends_by cut []
  | cons activity rest ih =>
    intro start
    obtain ⟨t, first, after, bound⟩ := each activity List.mem_cons_self start
    obtain ⟨u, others, later, limit⟩ :=
      ih (fun a member => each a (List.mem_cons_of_mem _ member)) start
    rw [together_cons]
    cases h : (activity start).ending with
    | returned w value =>
      rw [h] at first
      cases first
      cases h' : (together rest start).ending with
      | returned x values =>
        rw [h'] at others
        cases others
        exact ⟨max t u, rfl, by omega, by omega⟩
      | crashed x reason =>
        rw [h'] at others
        exact ⟨u, others, later, limit⟩
      | pending =>
        rw [h'] at others
        cases others
    | crashed w reason =>
      rw [h] at first
      exact ⟨t, first, after, bound⟩
    | pending =>
      rw [h] at first
      cases first

theorem returned_of_ended {activity : Timed κ α} {start t : Nat}
    (ended : (activity start).ending.instant? = some t)
    (unharmed : ∀ u reason, (activity start).ending ≠ .crashed u reason) :
    ∃ value, (activity start).ending = .returned t value := by
  cases course : (activity start).ending with
  | returned u value =>
    rw [course] at ended
    cases ended
    exact ⟨value, rfl⟩
  | crashed u reason => exact absurd course (unharmed u reason)
  | pending =>
    rw [course] at ended
    cases ended

end HostHealth.Timed

namespace HostHealth

theorem reply_ends_after_start {α : Type} (reply : Reply α) {start t : Nat}
    (ended : (reply.ending start).instant? = some t) : start ≤ t := by
  cases reply with
  | answer delay value =>
    cases ended
    exact Nat.le_add_right _ _
  | crash delay reason =>
    cases ended
    exact Nat.le_add_right _ _
  | silence => cases ended

theorem within_ends_after_start {α : Type} (ending : Ending α) (start : Nat)
    (limit : Option Nat) (late : α) (begun : ∀ t, ending.instant? = some t → start ≤ t) :
    ∀ t, (ending.within (limit.map (start + ·)) late).instant? = some t → start ≤ t := by
  intro t ended
  cases limit with
  | none => exact begun t ended
  | some span =>
    unfold Ending.within at ended
    cases instant : ending.instant? with
    | none =>
      rw [instant] at ended
      cases ended
      exact Nat.le_add_right _ _
    | some u =>
      simp only [Option.map_some, instant] at ended
      split at ended
      · exact begun t ended
      · cases ended
        exact Nat.le_add_right _ _

theorem before_ends_by {α : Type} (ending : Ending α) (cut : Nat) (value : α) :
    ∃ t, (ending.before (some cut) value).instant? = some t ∧ t ≤ cut ∧
      (ending.instant? = some t ∨ t = cut) := by
  unfold Ending.before
  cases instant : ending.instant? with
  | none => exact ⟨cut, rfl, Nat.le_refl _, Or.inr rfl⟩
  | some u =>
    by_cases early : u < cut
    · exact ⟨u, by simp [early, instant], by omega, Or.inl rfl⟩
    · exact ⟨cut, by simp [early, Ending.instant?], Nat.le_refl _, Or.inr rfl⟩

theorem answered_in_time_iff {κ α : Type} (call : κ) (reply : Nat → Reply α)
    {limit start : Nat} {value : α} :
    Timed.Returns (request .never (some limit) call reply) start (.answered value) ↔
      ∃ delay, reply start = .answer delay value ∧ delay ≤ limit := by
  have course : (request .never (some limit) call reply start).ending =
      ((reply start).ending start).within (some (start + limit)) .timedOut := rfl
  unfold Timed.Returns
  rw [course]
  cases reply start with
  | answer delay found =>
    by_cases inTime : delay ≤ limit
    · simp [Reply.ending, Ending.within, Ending.instant?, inTime]
    · have late : ¬ ∃ d, Reply.answer delay found = .answer d value ∧ d ≤ limit := by
        rintro ⟨d, same, bound⟩
        cases same
        exact inTime bound
      simp only [late, iff_false]
      simp [Reply.ending, Ending.within, Ending.instant?, inTime]
  | crash delay reason =>
    by_cases inTime : delay ≤ limit
    · simp [Reply.ending, Ending.within, Ending.instant?, inTime]
    · simp [Reply.ending, Ending.within, Ending.instant?, inTime]
  | silence => simp [Reply.ending, Ending.within, Ending.instant?]

theorem request_ends_by {κ α : Type} {token : Token} {cut : Nat}
    (cancelled : token.cancelledAt = some cut) (limit : Option Nat) (call : κ)
    (reply : Nat → Reply α) : Timed.EndsBy cut (request token limit call reply) := by
  intro start
  unfold request Token.isCancelled
  rw [cancelled]
  by_cases past : cut ≤ start
  · exact ⟨start, by simp [past, Ending.instant?], Nat.le_refl _, Nat.le_max_left _ _⟩
  · obtain ⟨t, ended, bound, source⟩ := before_ends_by
      (((reply start).ending start).within (limit.map (start + ·)) .timedOut) cut .cancelled
    refine ⟨t, by simpa [past] using ended, ?_, by omega⟩
    rcases source with own | atCut
    · exact within_ends_after_start _ start limit _
        (fun u => reply_ends_after_start (reply start)) t own
    · omega

end HostHealth
