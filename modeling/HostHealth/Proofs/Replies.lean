import HostHealth.Proofs.LookupEvents
import HostHealth.Proofs.Successes

/- What one request comes to, by its reply. If it is not cancelled before that, it ends with what
   comes in time, an answer or a crash, or else when its time is up. -/
namespace HostHealth

open Timed

def Reply.IsLate {α : Type} (most : Nat) (reply : Reply α) : Prop :=
  ∀ delay, reply.delay? = some delay → most < delay

theorem reply_cases {α : Type} (most : Nat) (reply : Reply α) :
    (∃ delay ≤ most, ∃ value, reply = .answer delay value) ∨
      (∃ delay ≤ most, ∃ reason, reply = .crash delay reason) ∨ reply.IsLate most := by
  by_cases late : reply.IsLate most
  · exact Or.inr (Or.inr late)
  · simp only [Reply.IsLate, not_forall, Nat.not_lt] at late
    obtain ⟨delay, own, inTime⟩ := late
    cases reply with
    | answer delay value =>
      cases own
      exact Or.inl ⟨delay, inTime, value, rfl⟩
    | crash delay reason =>
      cases own
      exact Or.inr (Or.inl ⟨delay, inTime, reason, rfl⟩)
    | silence => cases own

theorem instant_of_reply {α : Type} (reply : Reply α) (start : Nat) :
    (reply.ending start).instant? = reply.delay?.map (start + ·) := by
  cases reply <;> rfl

section Request

variable {κ α : Type} (token : Token) (call : κ) (reply : Nat → Reply α)
  {start delay most t : Nat} {value : α} {reason : String}

theorem request_of_open_until {limit : Option Nat}
    (ended : (undisturbed limit reply start).instant? = some t)
    (isOpen : token.isCancelled t = false) :
    request token limit call reply start = ⟨[(start, call)], undisturbed limit reply start⟩ := by
  have begun := open_before isOpen (undisturbed_ends_after_start limit reply start t ended)
  rw [request_of_open token limit call reply begun]
  obtain ⟨_ | c⟩ := token
  · rfl
  · have early : t < c := Nat.not_le.mp (of_decide_eq_false isOpen)
    rw [before_of_early .cancelled ended early]

theorem request_of_timely (timely : (reply start).delay? = some delay) (inTime : delay ≤ most)
    (isOpen : token.isCancelled (start + delay) = false) :
    request token (some most) call reply start =
      ⟨[(start, call)], (reply start).ending start⟩ := by
  have instant : ((reply start).ending start).instant? = some (start + delay) := by
    rw [instant_of_reply, timely]
    rfl
  have kept : undisturbed (some most) reply start = (reply start).ending start := by
    simp [undisturbed, Ending.within, instant, inTime]
  rw [request_of_open_until token call reply (kept ▸ instant) isOpen, kept]

theorem request_of_answer (came : reply start = .answer delay value) (inTime : delay ≤ most)
    (isOpen : token.isCancelled (start + delay) = false) :
    request token (some most) call reply start =
      ⟨[(start, call)], .returned (start + delay) (.answered value)⟩ := by
  rw [request_of_timely token call reply (by rw [came]; rfl) inTime isOpen, came]
  rfl

theorem request_of_crash (came : reply start = .crash delay reason) (inTime : delay ≤ most)
    (isOpen : token.isCancelled (start + delay) = false) :
    request token (some most) call reply start =
      ⟨[(start, call)], .crashed (start + delay) reason⟩ := by
  rw [request_of_timely token call reply (by rw [came]; rfl) inTime isOpen, came]
  rfl

theorem request_of_silence (late : (reply start).IsLate most)
    (isOpen : token.isCancelled (start + most) = false) :
    request token (some most) call reply start =
      ⟨[(start, call)], .returned (start + most) .timedOut⟩ := by
  have ended : undisturbed (some most) reply start = .returned (start + most) .timedOut := by
    unfold undisturbed Ending.within
    rw [instant_of_reply]
    cases came : (reply start).delay? with
    | none => rfl
    | some delay => simp [Nat.not_le.mpr (late delay came)]
  rw [request_of_open_until token call reply (by rw [ended]; rfl) isOpen, ended]

end Request
end HostHealth
