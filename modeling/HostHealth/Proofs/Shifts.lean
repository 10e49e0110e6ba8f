import HostHealth.Proofs.Races
import HostHealth.Proofs.Requests

/- Activities at different times. Two of them are alike if one and the same course tells what they
   do, with its instants counted from one instant or from another. -/
namespace HostHealth

/-- Cancelled as long after `u` as the other one after `s`. -/
def Token.InStep (s u : Nat) (token other : Token) : Prop :=
  ∀ d, other.isCancelled (u + d) = token.isCancelled (s + d)

theorem cut_of_in_step {s u d : Nat} {token other : Token} (inStep : token.InStep s u other)
    (isOpen : token.isCancelled (s + d) = false) :
    ∃ cut : Option Nat, token.cancelledAt = cut.map (s + ·) ∧
      other.cancelledAt = cut.map (u + ·) := by
  have openOther := (inStep d).trans isOpen
  obtain ⟨_ | c⟩ := token <;> obtain ⟨_ | c'⟩ := other
  · exact ⟨none, rfl, rfl⟩
  · have same := inStep c'
    simp [Token.isCancelled] at same
  · have same := inStep c
    simp [Token.isCancelled] at same
  · simp only [Token.isCancelled, decide_eq_false_iff_not] at isOpen openOther
    have first := inStep (c - s)
    have second := inStep (c' - u)
    simp only [Token.isCancelled, decide_eq_decide] at first second
    refine ⟨some (c - s), ?_, ?_⟩
    · simp only [Option.map_some, Option.some.injEq]
      omega
    · simp only [Option.map_some, Option.some.injEq]
      omega

/-- Whoever starts in step has as long until the cancellation, or until now if that has come. -/
theorem cut_since_in_step {s u : Nat} {token other : Token} (inStep : token.InStep s u other)
    (d : Nat) : ∃ cut : Option Nat, token.cancelledAt.map (max (s + d)) = cut.map (s + ·) ∧
      other.cancelledAt.map (max (u + d)) = cut.map (u + ·) := by
  cases cancelled : token.isCancelled (s + d) with
  | true =>
    obtain ⟨c, own, past⟩ := cancelled_iff.mp cancelled
    obtain ⟨c', ownOther, pastOther⟩ := cancelled_iff.mp ((inStep d).trans cancelled)
    rw [own, ownOther]
    exact ⟨some d, congrArg some (Nat.max_eq_left past), congrArg some (Nat.max_eq_left pastOther)⟩
  | false =>
    obtain ⟨cut, own, ownOther⟩ := cut_of_in_step inStep cancelled
    rw [own, ownOther, Option.map_map, Option.map_map]
    refine ⟨cut.map (max d), ?_, ?_⟩
    all_goals
      rw [Option.map_map]
      congr 1
      funext x
      exact Nat.add_max_add_left _ _ _

namespace Ending

variable {α β : Type}

def seenFrom (s : Nat) (seen : α → β) : Ending α → Ending β
  | .returned t value => .returned (s + t) (seen value)
  | .crashed t reason => .crashed (s + t) reason
  | .pending => .pending

theorem instant_seen_from (s : Nat) (seen : α → β) (ending : Ending α) :
    (ending.seenFrom s seen).instant? = ending.instant?.map (s + ·) := by
  cases ending <;> rfl

theorem within_seen_from (s : Nat) (deadline : Option Nat) (late : α) (ending : Ending α) :
    (ending.seenFrom s id).within (deadline.map (s + ·)) late =
      (ending.within deadline late).seenFrom s id := by
  unfold within
  rw [instant_seen_from]
  cases deadline with
  | none => rfl
  | some d =>
    cases ending.instant? with
    | none => rfl
    | some t =>
      simp only [Option.map_some, Nat.add_le_add_iff_left]
      split <;> rfl

theorem before_seen_from (s : Nat) (cut : Option Nat) (value : α) (ending : Ending α) :
    (ending.seenFrom s id).before (cut.map (s + ·)) value =
      (ending.before cut value).seenFrom s id := by
  unfold before
  rw [instant_seen_from]
  cases cut with
  | none => rfl
  | some c =>
    cases ending.instant? with
    | none => rfl
    | some t =>
      simp only [Option.map_some, Nat.add_lt_add_iff_left]
      split <;> rfl

end Ending

theorem reply_seen_from {α : Type} (s d : Nat) (reply : Reply α) :
    reply.ending (s + d) = (reply.ending d).seenFrom s id := by
  cases reply with
  | answer delay value => exact congrArg (Ending.returned · _) (Nat.add_assoc _ _ _)
  | crash delay reason => exact congrArg (Ending.crashed · _) (Nat.add_assoc _ _ _)
  | silence => rfl

def Course.seenFrom {κ α β : Type} (s : Nat) (seen : α → β) (told : Course κ α) : Course κ β :=
  ⟨told.calls.map fun call => (s + call.1, call.2), told.ending.seenFrom s seen⟩

theorem ending_seen_from_inj {α : Type} {s : Nat} {ending other : Ending α}
    (same : ending.seenFrom s id = other.seenFrom s id) : ending = other := by
  cases ending <;> cases other <;> simp_all [Ending.seenFrom]

theorem seen_from_inj {κ α : Type} {s : Nat} {told other : Course κ α}
    (same : told.seenFrom s id = other.seenFrom s id) : told = other := by
  obtain ⟨calls, ending⟩ := told
  obtain ⟨callsOther, endingOther⟩ := other
  simp only [Course.seenFrom, Course.mk.injEq] at same
  obtain ⟨sameCalls, sameEnding⟩ := same
  have later : Function.Injective fun call : Nat × κ => (s + call.1, call.2) := by
    rintro ⟨t, call⟩ ⟨t', call'⟩ equal
    simpa using equal
  rw [List.map_injective_iff.mpr later sameCalls, ending_seen_from_inj sameEnding]

namespace Timed

variable {κ α β γ : Type} {s u : Nat}

/-- The one from `s` on and the other one from `u` on go by one course, the values of which are seen
    in two ways. -/
def AlikeBy (s u : Nat) (seen seenOther : β → α) (activity other : Timed κ α) : Prop :=
  ∀ d, ∃ told : Course κ β,
    activity (s + d) = told.seenFrom s seen ∧ other (u + d) = told.seenFrom u seenOther

def Alike (s u : Nat) (α : Type) (activity other : Timed κ α) : Prop :=
  AlikeBy s u id id activity other

def stamped (s : Nat) (values : List (Nat × α)) : List (Nat × α) :=
  values.map fun v => (s + v.1, v.2)

theorem pure_alike (value : α) : Alike s u α (pure value : Timed κ α) (pure value) :=
  fun d => ⟨⟨[], .returned d value⟩, rfl, rfl⟩

theorem bind_seen_from {first : Timed κ α} {next : α → Timed κ β} {seen : γ → α}
    {told : Course κ γ} {start : Nat} (begun : first start = told.seenFrom s seen) :
    (first >>= next) start =
      match told.ending with
      | .returned t value =>
        ⟨(told.seenFrom s seen).calls ++ (next (seen value) (s + t)).calls,
          (next (seen value) (s + t)).ending⟩
      | .crashed t reason => ⟨(told.seenFrom s seen).calls, .crashed (s + t) reason⟩
      | .pending => ⟨(told.seenFrom s seen).calls, .pending⟩ := by
  have ended : (first start).ending = told.ending.seenFrom s seen := congrArg Course.ending begun
  rw [← begun]
  cases course : told.ending with
  | returned t value =>
    rw [course] at ended
    exact bind_of_returned ended
  | crashed t reason =>
    rw [course] at ended
    exact bind_of_crashed ended
  | pending =>
    rw [course] at ended
    exact bind_of_pending ended

theorem bind_alike {first other : Timed κ α} {next nextOther : α → Timed κ β}
    {seen seenOther : γ → α} (begun : AlikeBy s u seen seenOther first other)
    (continued : ∀ value, Alike s u β (next (seen value)) (nextOther (seenOther value))) :
    Alike s u β (first >>= next) (other >>= nextOther) := by
  intro d
  obtain ⟨told, own, ownOther⟩ := begun d
  rw [bind_seen_from own, bind_seen_from ownOther]
  cases ended : told.ending with
  | returned t value =>
    obtain ⟨rest, later, laterOther⟩ := continued value t
    dsimp only
    rw [later, laterOther]
    exact ⟨⟨told.calls ++ rest.calls, rest.ending⟩, by simp [Course.seenFrom],
      by simp [Course.seenFrom]⟩
  | crashed t reason => exact ⟨⟨told.calls, .crashed t reason⟩, rfl, rfl⟩
  | pending => exact ⟨⟨told.calls, .pending⟩, rfl, rfl⟩

theorem measured_seen_from {activity : Timed κ α} {told : Course κ α} {d : Nat}
    (own : activity (s + d) = told.seenFrom s id) :
    measured activity (s + d) = (measured (fun _ => told) d).seenFrom s id := by
  obtain ⟨calls, ending⟩ := told
  unfold measured Timed.bind
  rw [own]
  cases ending <;> simp [Course.seenFrom, Ending.seenFrom, Nat.add_sub_add_left]

theorem measured_alike {activity other : Timed κ α} (h : Alike s u α activity other) :
    Alike s u (α × Nat) (measured activity) (measured other) := by
  intro d
  obtain ⟨told, own, ownOther⟩ := h d
  exact ⟨_, measured_seen_from own, measured_seen_from ownOther⟩

theorem alike_congruent (κ : Type) (s u : Nat) :
    Congruent (Alike s u : (α : Type) → Timed κ α → Timed κ α → Prop) :=
  ⟨pure_alike, bind_alike, measured_alike⟩

theorem rescued_seen_from {activity : Timed κ α} {told : Course κ α} {d : Nat}
    (own : activity (s + d) = told.seenFrom s id) (rescue : String → α) :
    rescued activity rescue (s + d) = (rescued (fun _ => told) rescue d).seenFrom s id := by
  obtain ⟨calls, ending⟩ := told
  unfold rescued
  rw [own]
  cases ending <;> rfl

theorem rescued_alike {activity other : Timed κ α} (h : Alike s u α activity other)
    (rescue : String → α) : Alike s u α (rescued activity rescue) (rescued other rescue) := by
  intro d
  obtain ⟨told, own, ownOther⟩ := h d
  exact ⟨_, rescued_seen_from own rescue, rescued_seen_from ownOther rescue⟩

def beside (first : Course κ α) (others : Course κ (List (Nat × α))) :
    Course κ (List (Nat × α)) :=
  ⟨first.calls ++ others.calls,
    match first.ending, others.ending with
    | .returned t value, .returned t' values => .returned (max t t') ((t, value) :: values)
    | .crashed t reason, _ => .crashed t reason
    | _, .crashed t reason => .crashed t reason
    | _, _ => .pending⟩

theorem together_eq_beside (activity : Timed κ α) (rest : List (Timed κ α)) (start : Nat) :
    together (activity :: rest) start = beside (activity start) (together rest start) := rfl

theorem beside_seen_from (s : Nat) (told : Course κ α) (rest : Course κ (List (Nat × α))) :
    beside (told.seenFrom s id) (rest.seenFrom s (stamped s)) =
      (beside told rest).seenFrom s (stamped s) := by
  obtain ⟨calls, ending⟩ := told
  obtain ⟨callsRest, endingRest⟩ := rest
  cases ending <;> cases endingRest <;>
    simp [beside, Course.seenFrom, Ending.seenFrom, stamped, Nat.add_max_add_left]

theorem together_alike {activities others : List (Timed κ α)}
    (each : List.Forall₂ (Alike s u α) activities others) :
    AlikeBy s u (stamped s) (stamped u) (together activities) (together others) := by
  induction each with
  | nil => exact fun d => ⟨⟨[], .returned d []⟩, rfl, rfl⟩
  | cons first _ ih =>
    intro d
    obtain ⟨told, own, ownOther⟩ := first d
    obtain ⟨rest, later, laterOther⟩ := ih d
    refine ⟨beside told rest, ?_, ?_⟩
    · rw [together_eq_beside, own, later, beside_seen_from]
    · rw [together_eq_beside, ownOther, laterOther, beside_seen_from]

theorem course_of_alike {activity other : Timed κ α} (h : Alike s u α activity other)
    {told : Course κ α} (own : activity s = told.seenFrom s id) : other u = told.seenFrom u id := by
  obtain ⟨told', course, courseOther⟩ := h 0
  rw [Nat.add_zero] at course courseOther
  rw [courseOther, seen_from_inj (course.symm.trans own)]

end Timed

open Timed

theorem limit_seen_from (limit : Option Nat) (origin d : Nat) :
    limit.map (origin + d + ·) = (limit.map (d + ·)).map (origin + ·) := by
  rw [Option.map_map]
  congr 1
  funext span
  exact Nat.add_assoc _ _ _

theorem undisturbed_seen_from {α : Type} (limit : Option Nat) (reply : Nat → Reply α) (s d : Nat) :
    undisturbed limit reply (s + d) =
      (((reply (s + d)).ending d).within (limit.map (d + ·)) .timedOut).seenFrom s id := by
  unfold undisturbed
  rw [reply_seen_from, limit_seen_from, Ending.within_seen_from]

theorem request_alike {κ α : Type} {s u : Nat} {token other : Token} (limit : Option Nat)
    (call : κ) {reply replyOther : Nat → Reply α} (inStep : token.InStep s u other)
    (replies : ∀ d, replyOther (u + d) = reply (s + d)) :
    Alike s u (Response α) (request token limit call reply)
      (request other limit call replyOther) := by
  intro d
  cases cancelled : token.isCancelled (s + d) with
  | true =>
    rw [request_of_cancelled token limit call reply cancelled,
      request_of_cancelled other limit call replyOther ((inStep d).trans cancelled)]
    exact ⟨⟨[], .returned d .cancelled⟩, rfl, rfl⟩
  | false =>
    obtain ⟨cut, atCut, atCutOther⟩ := cut_of_in_step inStep cancelled
    rw [request_of_open token limit call reply cancelled,
      request_of_open other limit call replyOther ((inStep d).trans cancelled), atCut, atCutOther,
      undisturbed_seen_from, undisturbed_seen_from, replies, Ending.before_seen_from,
      Ending.before_seen_from]
    exact ⟨⟨[(d, call)], _⟩, rfl, rfl⟩

theorem raced_alike {κ α : Type} {s u : Nat} {token other : Token} {ahead aheadOther : Nat → Bool}
    (limit : Option Nat) (call : κ) {reply replyOther : Nat → Reply α}
    (inStep : token.InStep s u other) (luck : ∀ d, aheadOther (u + d) = ahead (s + d))
    (replies : ∀ d, replyOther (u + d) = reply (s + d)) :
    Alike s u (Response α) (raced token ahead limit call reply)
      (raced other aheadOther limit call replyOther) := by
  intro d
  cases first : ahead (s + d) with
  | false =>
    rw [raced_of_behind token limit call reply ahead first,
      raced_of_behind other limit call replyOther aheadOther ((luck d).trans first)]
    exact request_alike limit call inStep replies d
  | true =>
    obtain ⟨cut, atCut, atCutOther⟩ := cut_since_in_step inStep d
    rw [raced_of_ahead token limit call reply ahead first,
      raced_of_ahead other limit call replyOther aheadOther ((luck d).trans first), atCut,
      atCutOther, undisturbed_seen_from, undisturbed_seen_from, replies, Ending.within_seen_from,
      Ending.within_seen_from]
    exact ⟨⟨[(d, call)], _⟩, rfl, rfl⟩

end HostHealth
