import HostHealth.Proofs.CancelledTests

/- Races that no lookup wins. Who is looked at first is up to chance, but it shows only if a lookup
   comes to its end just at the cancellation and wins. A run in which none does ends like the one in
   which every lookup gives way, and so do any two of them. -/
namespace HostHealth

open Net Timed

namespace Timed

variable {κ α β : Type}

/-- If no request of the activity is tied, the other one ends like it and has asked for the same
    before `c`. -/
def SameUntied (c : Nat) (tied : Nat × κ → Prop) (α : Type) (activity other : Timed κ α) : Prop :=
  ∀ start, (∀ call ∈ (activity start).calls, ¬ tied call) →
    (other start).ending = (activity start).ending ∧
    startedBefore c (other start).calls = startedBefore c (activity start).calls

variable {c : Nat} {tied : Nat × κ → Prop}

theorem same_as_itself (activity : Timed κ α) : SameUntied c tied α activity activity :=
  fun _ _ => ⟨rfl, rfl⟩

theorem SameUntied.weaken {more : Nat × κ → Prop} {activity other : Timed κ α}
    (h : SameUntied c tied α activity other) (sub : ∀ call, tied call → more call) :
    SameUntied c more α activity other := by
  intro start apart
  exact h start fun call member isTied => apart call member (sub call isTied)

theorem bind_same_untied {first other : Timed κ α} {next nextOther : α → Timed κ β}
    (begun : SameUntied c tied α first other)
    (continued : ∀ value, SameUntied c tied β (next value) (nextOther value)) :
    SameUntied c tied β (first >>= next) (other >>= nextOther) := by
  intro start apart
  obtain ⟨sameEnd, sameCalls⟩ := begun start fun call member =>
    apart call (calls_of_first first next start call member)
  cases ended : (first start).ending with
  | returned t value =>
    rw [bind_of_returned ended] at apart ⊢
    rw [bind_of_returned (sameEnd.trans ended), started_before_append, started_before_append,
      sameCalls]
    obtain ⟨restEnd, restCalls⟩ := continued value t fun call member =>
      apart call (List.mem_append_right _ member)
    exact ⟨restEnd, by rw [restCalls]⟩
  | crashed t reason =>
    rw [bind_of_crashed ended, bind_of_crashed (sameEnd.trans ended)]
    exact ⟨rfl, sameCalls⟩
  | pending =>
    rw [bind_of_pending ended, bind_of_pending (sameEnd.trans ended)]
    exact ⟨rfl, sameCalls⟩

theorem measured_same_untied {activity other : Timed κ α}
    (h : SameUntied c tied α activity other) :
    SameUntied c tied (α × Nat) (measured activity) (measured other) := by
  intro start apart
  rw [calls_of_measured] at apart
  obtain ⟨sameEnd, sameCalls⟩ := h start apart
  rw [calls_of_measured, calls_of_measured, ending_of_measured, ending_of_measured, sameEnd]
  exact ⟨rfl, sameCalls⟩

theorem same_untied_congruent (c : Nat) (tied : Nat × κ → Prop) :
    Congruent (SameUntied c tied) :=
  ⟨fun value => same_as_itself (pure value), bind_same_untied, measured_same_untied⟩

theorem rescued_same_untied {activity other : Timed κ α} (rescue : String → α)
    (h : SameUntied c tied α activity other) :
    SameUntied c tied α (rescued activity rescue) (rescued other rescue) := by
  intro start apart
  rw [calls_of_rescued] at apart
  obtain ⟨sameEnd, sameCalls⟩ := h start apart
  rw [calls_of_rescued, calls_of_rescued, ending_of_rescued, ending_of_rescued, sameEnd]
  exact ⟨rfl, sameCalls⟩

theorem together_same_untied {activities others : List (Timed κ α)}
    (each : List.Forall₂ (SameUntied c tied α) activities others) :
    SameUntied c tied (List (Nat × α)) (together activities) (together others) := by
  induction each with
  | nil => exact same_as_itself _
  | @cons activity other activities others first _ ih =>
    intro start apart
    obtain ⟨sameEnd, sameCalls⟩ := first start fun call member =>
      apart call (List.mem_append_left _ member)
    obtain ⟨restEnd, restCalls⟩ := ih start fun call member =>
      apart call (List.mem_append_right _ member)
    constructor
    · rw [together_cons, together_cons, sameEnd, restEnd]
    · change startedBefore c (_ ++ _) = startedBefore c (_ ++ _)
      rw [started_before_append, started_before_append, sameCalls, restCalls]

end Timed

theorem raced_same_untied {κ α : Type} {token : Token} {limit : Option Nat} {call : κ}
    {reply : Nat → Reply α} {ahead : Nat → Bool} {c : Nat} {tied : Nat × κ → Prop}
    (cancelled : token.cancelledAt = some c) (ties : TiedWith limit call reply ahead c tied) :
    SameUntied c tied (Response α) (raced token ahead limit call reply)
      (request token limit call reply) := by
  intro start apart
  cases first : ahead start with
  | false =>
    rw [raced_of_behind token limit call reply ahead first]
    exact ⟨rfl, rfl⟩
  | true =>
    rw [raced_of_ahead token limit call reply ahead first, cancelled] at apart ⊢
    have notTied : (undisturbed limit reply start).instant? ≠ some (max start c) :=
      fun ended => apart _ List.mem_cons_self (ties start first ended)
    have later := undisturbed_ends_after_start limit reply start
    cases closed : token.isCancelled start with
    | true =>
      have past : c ≤ start := by
        obtain ⟨_, own, past⟩ := cancelled_iff.mp closed
        cases cancelled.symm.trans own
        exact past
      rw [request_of_cancelled token limit call reply closed]
      change _ = Ending.within (some (max start c)) _ _ ∧ _
      rw [Nat.max_eq_left past] at notTied ⊢
      refine ⟨(within_of_overdue _ fun t ended => ?_).symm, ?_⟩
      · have := later t ended
        have : t ≠ start := by
          rintro rfl
          exact notTied ended
        omega
      · exact (none_started_before (by simp) past).symm
    | false =>
      have before : start < c := by
        by_contra past
        cases closed.symm.trans (cancelled_iff.mpr ⟨c, cancelled, Nat.not_lt.mp past⟩)
      rw [request_of_open token limit call reply closed, cancelled]
      rw [Nat.max_eq_right (Nat.le_of_lt before)] at notTied
      change _ = Ending.within (some (max start c)) _ _ ∧ _
      rw [Nat.max_eq_right (Nat.le_of_lt before)]
      exact ⟨(within_eq_before _ notTied).symm, rfl⟩

-- A tied request: under a cancelled token it hangs on the race whether anything is answered.
example : raced (.cancelledFrom 3) (fun _ => true) none () (fun _ => .answer 0 7) 5 =
      ⟨[(5, ())], .returned 5 (.answered 7)⟩ ∧
    raced (.cancelledFrom 3) (fun _ => false) none () (fun _ => .answer 0 7) 5 =
      ⟨[], .returned 5 .cancelled⟩ := ⟨rfl, rfl⟩

/-- The name service with lookups that give way to any token. -/
def NameService.yielding (names : NameService) : NameService :=
  { names with ahead := fun _ _ _ => false }

namespace Dns.Resolver

theorem yielding_ask {α : Type} (r : Resolver) (names : NameService) (token : Token) (call : Call)
    (reply : Nat → Reply α) :
    r.ask names.yielding token call reply = request token (some r.timeout) call reply :=
  funext fun _ => raced_of_behind token _ call reply _ rfl

theorem asks_same_untied (r : Resolver) (names : NameService) {token : Token} {c : Nat}
    (cancelled : token.cancelledAt = some c) :
    AsksBoth (SameUntied c (r.TiedAt c names)) r names names.yielding token token := by
  constructor
  · intro host
    unfold systemLookup
    rw [yielding_ask]
    exact raced_same_untied cancelled fun _ first ended => ⟨first, ended⟩
  · intro name type
    rw [yielding_ask]
    exact raced_same_untied cancelled fun _ first ended => ⟨first, ended⟩

end Dns.Resolver

theorem Probe.probe_same_untied {c : Nat} (setup : Probe.Setup)
    (cancelled : setup.token.cancelledAt = some c) (key : PublicKey) (address : NetAddress)
    (client : Probe.Client) :
    SameUntied c (setup.TiedAt c address.protocol) _ (Probe.run setup key address client)
      (Probe.run (setup.elsewhere setup.names.yielding setup.token) key address client) :=
  Probe.probes_related (same_untied_congruent c _)
    ⟨Dns.Resolver.asks_same_untied _ _ cancelled, same_as_itself _, same_as_itself _,
      same_as_itself _⟩

namespace Inspector

open Probe

def World.yielding (world : World) : World := { world with names := world.names.yielding }

namespace HostTest

variable (policy : Policy) (resolver : Dns.Resolver) (world : World) {test : HostTest} {c : Nat}
  (cancelled : test.token.cancelledAt = some c)
include cancelled

theorem lane_same_untied (seen : List Protocol) (address : NetAddress) :
    SameUntied c (resolver.TiedAt c (world.names.facing address.protocol)) _
      (test.lane policy resolver world seen address)
      (test.lane policy resolver world.yielding seen address) := by
  have clients : world.yielding.clients = world.clients := rfl
  unfold lane
  dsimp only
  rw [clients]
  split
  · exact same_as_itself _
  split
  · exact same_as_itself _
  split
  · exact same_as_itself _
  · exact rescued_same_untied _ (probe_same_untied _ cancelled _ _ _)

theorem lanes_same_untied (seen : List Protocol) (addresses : List NetAddress) :
    List.Forall₂
      (SameUntied c (fun call => ∃ protocol, resolver.TiedAt c (world.names.facing protocol) call) _)
      (test.lanes policy resolver world seen addresses)
      (test.lanes policy resolver world.yielding seen addresses) := by
  induction addresses generalizing seen with
  | nil => exact .nil
  | cons address rest ih =>
    refine .cons ?_ (ih _)
    exact (lane_same_untied policy resolver world cancelled seen address).weaken
      fun call isTied => ⟨_, isTied⟩

theorem host_test_same_untied :
    SameUntied c (fun call => ∃ protocol, resolver.TiedAt c (world.names.facing protocol) call) _
      (test.run policy resolver world) (test.run policy resolver world.yielding) := by
  apply bind_same_untied (together_same_untied (lanes_same_untied policy resolver world cancelled
    [] test.host.netAddresses))
  intro ended
  have derived : DerivedRelated
      (SameUntied c fun call => ∃ protocol, resolver.TiedAt c (world.names.facing protocol) call)
      policy resolver world world.yielding test test := by
    unfold DerivedRelated
    change Option.Rel _ _ (world.clients.find? .rhp3)
    cases world.clients.find? .rhp3 with
    | none => exact .none
    | some client =>
      refine .some fun address => ?_
      exact (probe_same_untied (test.setup policy resolver world) cancelled _ _ _).weaken
        fun call isTied => ⟨_, isTied⟩
  exact bind_same_untied (derived_if_due_related (same_untied_congruent c _) derived rfl rfl _)
    fun _ => same_as_itself _

theorem untied_tests_end_alike {other : World} (same : other.yielding = world.yielding)
    {start : Nat} (untied : Untied c resolver world (test.run policy resolver world start).calls)
    (untiedOther : Untied c resolver other (test.run policy resolver other start).calls) :
    (test.run policy resolver other start).ending = (test.run policy resolver world start).ending ∧
      startedBefore c (test.run policy resolver other start).calls =
        startedBefore c (test.run policy resolver world start).calls := by
  obtain ⟨ended, calls⟩ := host_test_same_untied policy resolver world cancelled start
    fun call member ⟨protocol, isTied⟩ => untied call member protocol isTied
  obtain ⟨endedOther, callsOther⟩ := host_test_same_untied policy resolver other cancelled start
    fun call member ⟨protocol, isTied⟩ => untiedOther call member protocol isTied
  rw [same] at endedOther callsOther
  exact ⟨endedOther.symm.trans ended, callsOther.symm.trans calls⟩

end HostTest
end Inspector
end HostHealth
