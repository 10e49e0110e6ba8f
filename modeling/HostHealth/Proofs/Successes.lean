import HostHealth.Proofs.Cuts

/- When a request succeeds, and what a step makes of it that waits for one. If the request succeeds,
   what follows starts at that instant; if it does not, nothing is asked any more. -/
namespace HostHealth

open Timed

/-- The reply to a request that starts here: good, in time, and before the token is cancelled. -/
def Succeeds {ε α : Type} (token : Token) (limit : Option Nat) (reply : Nat → Reply (Except ε α))
    (started : Nat) (value : α) (finished : Nat) : Prop :=
  ∃ delay, reply started = .answer delay (.ok value) ∧ finished = started + delay ∧
    (∀ most, limit = some most → delay ≤ most) ∧ token.isCancelled finished = false

theorem open_before {token : Token} {s t : Nat} (isOpen : token.isCancelled t = false)
    (earlier : s ≤ t) : token.isCancelled s = false := by
  obtain ⟨_ | c⟩ := token
  · rfl
  · simp only [Token.isCancelled, decide_eq_false_iff_not] at isOpen ⊢
    omega

section Request

variable {κ ε α β : Type} {token : Token} {limit : Option Nat} {call : κ}
  {reply : Nat → Reply (Except ε α)} {start t : Nat} {value : α}

theorem open_of_succeeds (succeeds : Succeeds token limit reply start value t) :
    token.isCancelled start = false := by
  obtain ⟨delay, _, rfl, _, isOpen⟩ := succeeds
  exact open_before isOpen (Nat.le_add_right _ _)

theorem before_cut_iff {γ : Type} {ending : Ending γ} {lost kept : γ} (other : lost ≠ kept) :
    ending.before token.cancelledAt lost = .returned t kept ↔
      ending = .returned t kept ∧ token.isCancelled t = false := by
  obtain ⟨_ | c⟩ := token
  · exact (and_iff_left rfl).symm
  have open_iff : (Token.mk (some c)).isCancelled t = false ↔ t < c := by
    simp [Token.isCancelled]
  rw [open_iff]
  by_cases early : ∃ u, ending.instant? = some u ∧ u < c
  · obtain ⟨u, ended, soon⟩ := early
    rw [before_of_early lost ended soon]
    constructor
    · rintro rfl
      cases ended
      exact ⟨rfl, soon⟩
    · exact And.left
  · have late : ∀ u, ending.instant? = some u → c ≤ u := by
      intro u ended
      by_contra soon
      exact early ⟨u, ended, by omega⟩
    rw [before_of_late lost late]
    constructor
    · intro cut
      cases cut
      exact absurd rfl other
    · rintro ⟨rfl, soon⟩
      exact absurd (late t rfl) (by omega)

theorem undisturbed_answers_iff {γ : Type} {reply : Nat → Reply γ} {value : γ} :
    undisturbed limit reply start = .returned t (.answered value) ↔
      ∃ delay, reply start = .answer delay value ∧ t = start + delay ∧
        ∀ most, limit = some most → delay ≤ most := by
  unfold undisturbed Ending.within
  cases limit with
  | none => cases reply start <;> simp [Reply.ending, eq_comm, and_comm]
  | some most =>
    cases reply start with
    | answer delay found =>
      by_cases inTime : delay ≤ most
      · simp [Reply.ending, Ending.instant?, inTime, eq_comm, and_comm]
      · simp [Reply.ending, Ending.instant?, inTime]
    | crash delay reason =>
      by_cases inTime : delay ≤ most <;> simp [Reply.ending, Ending.instant?, inTime]
    | silence => simp [Reply.ending, Ending.instant?]

theorem request_succeeds_iff :
    (request token limit call reply start).ending = .returned t (.answered (.ok value)) ↔
      Succeeds token limit reply start value t := by
  cases cancelled : token.isCancelled start with
  | true =>
    rw [request_of_cancelled token limit call reply cancelled]
    constructor
    · intro ended
      cases ended
    · intro succeeds
      cases cancelled.symm.trans (open_of_succeeds succeeds)
  | false =>
    rw [request_of_open token limit call reply cancelled]
    have other : Response.cancelled ≠ .answered (Except.ok (ε := ε) value) := nofun
    dsimp only
    rw [before_cut_iff other, undisturbed_answers_iff]
    constructor
    · rintro ⟨⟨delay, answer, finished, inTime⟩, isOpen⟩
      exact ⟨delay, answer, finished, inTime, isOpen⟩
    · rintro ⟨delay, answer, finished, inTime, isOpen⟩
      exact ⟨⟨delay, answer, finished, inTime⟩, isOpen⟩

theorem mem_calls_of_request {γ : Type} {reply : Nat → Reply γ} {entry : Nat × κ} :
    entry ∈ (request token limit call reply start).calls ↔
      token.isCancelled start = false ∧ entry = (start, call) := by
  cases cancelled : token.isCancelled start with
  | true =>
    rw [request_of_cancelled token limit call reply cancelled]
    simp
  | false =>
    rw [request_of_open token limit call reply cancelled]
    simp

section Step

variable {next : Response (Except ε α) × Nat → Timed κ β}

def Good (response : Response (Except ε α)) : Prop := ∃ value, response = .answered (.ok value)

theorem step_of_success (succeeds : Succeeds token limit reply start value t) :
    (measured (request token limit call reply) >>= next) start =
      ⟨(start, call) :: (next (.answered (.ok value), t - start) t).calls,
        (next (.answered (.ok value), t - start) t).ending⟩ := by
  have asked : (request token limit call reply start).calls = [(start, call)] := by
    rw [request_of_open token limit call reply (open_of_succeeds succeeds)]
  rw [bind_of_returned (by rw [ending_of_measured, request_succeeds_iff.mpr succeeds]),
    calls_of_measured, asked]
  rfl

theorem open_after_success (succeeds : Succeeds token limit reply start value t) :
    token.isCancelled t = false := by
  obtain ⟨_, _, _, _, isOpen⟩ := succeeds
  exact isOpen

theorem success_is_one {value' : α} {t' : Nat} (succeeds : Succeeds token limit reply start value t)
    (succeeds' : Succeeds token limit reply start value' t') : value' = value ∧ t' = t := by
  obtain ⟨delay, answer, rfl, _⟩ := succeeds
  obtain ⟨delay', answer', rfl, _⟩ := succeeds'
  cases answer.symm.trans answer'
  exact ⟨rfl, rfl⟩

theorem success_iff (succeeds : Succeeds token limit reply start value t) (t' : Nat) :
    Succeeds token limit reply start value t' ↔ t' = t := by
  constructor
  · intro succeeds'
    exact (success_is_one succeeds succeeds').2
  · rintro rfl
    exact succeeds

theorem calls_without_success
    (quiet : ∀ response elapsed u, ¬ Good response → (next (response, elapsed) u).calls = [])
    (failed : ∀ value t, ¬ Succeeds token limit reply start value t) :
    ((measured (request token limit call reply) >>= next) start).calls =
      (request token limit call reply start).calls := by
  cases ended : (request token limit call reply start).ending with
  | returned u response =>
    have bad : ¬ Good response := by
      rintro ⟨value, rfl⟩
      exact failed value u (request_succeeds_iff.mp ended)
    rw [bind_of_returned (by rw [ending_of_measured, ended]), calls_of_measured,
      quiet response _ u bad, List.append_nil]
  | crashed u reason =>
    rw [bind_of_crashed (by rw [ending_of_measured, ended]), calls_of_measured]
  | pending =>
    rw [bind_of_pending (by rw [ending_of_measured, ended]), calls_of_measured]

theorem mem_calls_of_step
    (quiet : ∀ response elapsed u, ¬ Good response → (next (response, elapsed) u).calls = [])
    {entry : Nat × κ} :
    entry ∈ ((measured (request token limit call reply) >>= next) start).calls ↔
      token.isCancelled start = false ∧ entry = (start, call) ∨
        ∃ value t, Succeeds token limit reply start value t ∧
          entry ∈ (next (.answered (.ok value), t - start) t).calls := by
  by_cases succeeded : ∃ value t, Succeeds token limit reply start value t
  · obtain ⟨value, t, succeeds⟩ := succeeded
    rw [step_of_success succeeds, List.mem_cons]
    constructor
    · rintro (own | later)
      · exact Or.inl ⟨open_of_succeeds succeeds, own⟩
      · exact Or.inr ⟨value, t, succeeds, later⟩
    · rintro (⟨_, own⟩ | ⟨value', t', succeeds', later⟩)
      · exact Or.inl own
      · obtain ⟨rfl, rfl⟩ := success_is_one succeeds succeeds'
        exact Or.inr later
  · have failed : ∀ value t, ¬ Succeeds token limit reply start value t :=
      fun value t succeeds => succeeded ⟨value, t, succeeds⟩
    rw [calls_without_success quiet failed, mem_calls_of_request]
    constructor
    · exact Or.inl
    · rintro (own | ⟨value, t, succeeds, _⟩)
      · exact own
      · exact absurd succeeds (failed value t)

theorem step_returned {u : Nat} {result : β}
    (returned : ((measured (request token limit call reply) >>= next) start).ending =
      .returned u result) :
    (∃ value t, Succeeds token limit reply start value t ∧
      (next (.answered (.ok value), t - start) t).ending = .returned u result) ∨
    ((∀ value t, ¬ Succeeds token limit reply start value t) ∧
      ∃ response elapsed t, ¬ Good response ∧
        (next (response, elapsed) t).ending = .returned u result) := by
  by_cases succeeded : ∃ value t, Succeeds token limit reply start value t
  · obtain ⟨value, t, succeeds⟩ := succeeded
    rw [step_of_success succeeds] at returned
    exact Or.inl ⟨value, t, succeeds, returned⟩
  · have failed : ∀ value t, ¬ Succeeds token limit reply start value t :=
      fun value t succeeds => succeeded ⟨value, t, succeeds⟩
    obtain ⟨t, ⟨response, elapsed⟩, ended, rest⟩ := returned_bind_iff.mp returned
    refine Or.inr ⟨failed, response, elapsed, t, ?_, rest⟩
    rintro ⟨value, rfl⟩
    rw [ending_of_measured] at ended
    cases own : (request token limit call reply start).ending with
    | returned v response =>
      rw [own] at ended
      cases ended
      exact failed value t (request_succeeds_iff.mp own)
    | crashed v reason =>
      rw [own] at ended
      cases ended
    | pending =>
      rw [own] at ended
      cases ended

end Step
end Request

end HostHealth
