import HostHealth.Proofs.LastGoodFetches

/- When the loops of an inspector fetch. A fetch that is slow puts off the one after it, but no others
   are made up for, and while none is slow the loop keeps its beat. What the answers say has no part
   in it, and nor has the other loop. -/
namespace HostHealth

def Reply.answerDelay? {α : Type} : Reply α → Option Nat
  | .answer delay _ => some delay
  | _ => none

theorem Reply.answer_delay_of_map {α β : Type} (f : α → β) (reply : Reply α) :
    (reply.map f).answerDelay? = reply.answerDelay? := by
  cases reply <;> rfl

namespace Inspector

open Net

namespace Fetch

variable {α : Type} {fetches : List (Fetch α)} {period horizon due free : Nat}
  {fetch : Nat → Reply (Option α)}

def IsWithin (most : Nat) (f : Fetch α) : Prop := ∃ e, f.ended = some e ∧ e ≤ f.started + most

structure Follows (period : Nat) (f g : Fetch α) : Prop where
  finished : ∃ e, f.ended = some e ∧ f.started ≤ e ∧ e ≤ g.started
  spaced : f.started + period ≤ g.started + tolerance
  prompt : ∀ e, f.ended = some e → g.started ≤ max e (f.started + period)

/-- The fetches by the horizon of a loop that began at `begun`, whose source takes as long as `takes`
    says for an answer to a request made at some instant. -/
structure Scheduled (period begun horizon : Nat) (takes : Nat → Option Nat)
    (fetches : List (Fetch α)) : Prop where
  lasts : ∀ f ∈ fetches, f.ended = (takes f.started).map (f.started + ·)
  first : ∀ f, fetches[0]? = some f → f.started = begun + period
  begins : begun + period ≤ horizon → ∃ f, fetches[0]? = some f
  next : ∀ i f g, fetches[i]? = some f → fetches[i + 1]? = some g → Follows period f g
  resumes : ∀ i f e, fetches[i]? = some f → f.ended = some e →
    max e (f.started + period) ≤ horizon → ∃ g, fetches[i + 1]? = some g
  steady : ∀ k, begun + (k + 1) * period ≤ horizon → (∀ f ∈ fetches.take k, f.IsWithin period) →
    ∃ f, fetches[k]? = some f ∧ f.started = begun + (k + 1) * period

def timetable (fetches : List (Fetch α)) : List (Nat × Option Nat) :=
  fetches.map fun f => (f.started, f.ended)

theorem timetable_cons (f : Fetch α) (rest : List (Fetch α)) :
    timetable (f :: rest) = (f.started, f.ended) :: timetable rest := rfl

/-- The fetches of a loop that is free from `free` on and whose timer is due at `due`, one by one. -/
inductive Unrolls (period : Nat) (fetch : Nat → Reply (Option α)) (horizon : Nat) :
    Nat → Nat → List (Fetch α) → Prop
  | answered {due free delay : Nat} {value : Option α} {rest : List (Fetch α)}
      (possible : due ≤ horizon ∧ free ≤ horizon ∧ 0 < period)
      (answer : fetch (max due free) = .answer delay value)
      (tail : Unrolls period fetch horizon (nextDue period due (max due free))
        (max due free + delay) rest) :
      Unrolls period fetch horizon due free
        (⟨max due free, some (max due free + delay), value⟩ :: rest)
  | unanswered {due free : Nat} (possible : due ≤ horizon ∧ free ≤ horizon ∧ 0 < period)
      (none : ∀ delay value, fetch (max due free) ≠ .answer delay value) :
      Unrolls period fetch horizon due free [⟨max due free, .none, .none⟩]
  | exhausted {due free : Nat} (impossible : ¬ (due ≤ horizon ∧ free ≤ horizon ∧ 0 < period)) :
      Unrolls period fetch horizon due free []

theorem series_unrolls (period : Nat) (fetch : Nat → Reply (Option α)) (horizon due free : Nat) :
    Unrolls period fetch horizon due free (series period fetch horizon due free) := by
  fun_induction series period fetch horizon due free with
  | case1 due free possible fired delay value answer ih => exact .answered possible answer ih
  | case2 due free possible fired none => exact .unanswered possible none
  | case3 due free impossible => exact .exhausted impossible

theorem next_due_bounds (period : Nat) {due fired : Nat} (late : due ≤ fired) :
    fired + period ≤ nextDue period due fired + tolerance ∧
      nextDue period due fired ≤ fired + period := by
  unfold nextDue
  split <;> omega

theorem next_due_of_punctual (period due : Nat) : nextDue period due due = due + period :=
  if_neg (by omega)

section Unrolled

variable (unrolls : Unrolls period fetch horizon due free fetches)
include unrolls

theorem first_of_unrolled : ∀ f, fetches[0]? = some f → f.started = max due free := by
  cases unrolls with
  | exhausted => exact nofun
  | _ =>
    rintro f ⟨⟩
    rfl

theorem unrolled_lasts : ∀ f ∈ fetches,
    f.ended = (fetch f.started).answerDelay?.map (f.started + ·) := by
  induction unrolls with
  | answered possible answer tail ih =>
    refine List.forall_mem_cons.mpr ⟨?_, ih⟩
    dsimp only
    rw [answer]
    rfl
  | @unanswered due free possible none =>
    refine List.forall_mem_singleton.mpr ?_
    dsimp only
    cases reply : fetch (max due free) with
    | answer delay value => exact absurd reply (none delay value)
    | crash | silence => rfl
  | exhausted => exact nofun

theorem unrolled_begins (positive : 0 < period) (soon : max due free ≤ horizon) :
    ∃ f, fetches[0]? = some f := by
  cases unrolls with
  | exhausted impossible => omega
  | _ => exact ⟨_, rfl⟩

theorem unrolled_next : ∀ i f g, fetches[i]? = some f → fetches[i + 1]? = some g →
    Follows period f g := by
  induction unrolls with
  | @answered due free delay value rest possible answer tail ih =>
    intro i f g own later
    rw [List.getElem?_cons_succ] at later
    cases i with
    | zero =>
      cases own
      have started := first_of_unrolled tail g later
      have bounds := next_due_bounds period (Nat.le_max_left due free)
      constructor
      · exact ⟨_, rfl, Nat.le_add_right _ _, by omega⟩
      · dsimp only
        omega
      · rintro e ⟨⟩
        dsimp only
        omega
    | succ i => exact ih i f g own later
  | unanswered => exact nofun
  | exhausted => exact nofun

theorem unrolled_resumes : ∀ i f e, fetches[i]? = some f → f.ended = some e →
    max e (f.started + period) ≤ horizon → ∃ g, fetches[i + 1]? = some g := by
  induction unrolls with
  | @answered due free delay value rest possible answer tail ih =>
    intro i f e own ended soon
    rw [List.getElem?_cons_succ]
    cases i with
    | zero =>
      cases own
      cases ended
      have bounds := next_due_bounds period (Nat.le_max_left due free)
      dsimp only at soon
      exact unrolled_begins tail possible.2.2 (by omega)
    | succ i => exact ih i f e own ended soon
  | unanswered =>
    intro i f e own ended
    cases i with
    | zero =>
      cases own
      cases ended
    | succ i => cases own
  | exhausted => exact nofun

theorem unrolled_is_steady (positive : 0 < period) (ready : free ≤ due) : ∀ k,
    due + k * period ≤ horizon → (∀ f ∈ fetches.take k, f.IsWithin period) →
    ∃ f, fetches[k]? = some f ∧ f.started = due + k * period := by
  induction unrolls with
  | @answered due free delay value rest possible answer tail ih =>
    have punctual : max due free = due := Nat.max_eq_left ready
    rw [punctual] at ih ⊢
    rw [next_due_of_punctual] at ih
    intro k soon quick
    cases k with
    | zero =>
      refine ⟨_, rfl, ?_⟩
      dsimp only
      omega
    | succ k =>
      rw [List.take_succ_cons, List.forall_mem_cons] at quick
      obtain ⟨⟨e, ended, inTime⟩, others⟩ := quick
      cases ended
      have sum : due + (k + 1) * period = due + period + k * period := by
        rw [Nat.succ_mul]
        omega
      rw [sum] at soon ⊢
      exact ih inTime k soon others
  | unanswered possible none =>
    intro k soon quick
    cases k with
    | zero =>
      refine ⟨_, rfl, ?_⟩
      dsimp only
      omega
    | succ k =>
      -- The fetch never ends, so it is not within the time.
      obtain ⟨e, ended, _⟩ := quick _ List.mem_cons_self
      cases ended
  | exhausted impossible =>
    intro k soon
    omega

theorem timetable_of_delays {β : Type} {fetch' : Nat → Reply (Option β)}
    (same : ∀ t, (fetch' t).answerDelay? = (fetch t).answerDelay?) :
    timetable (series period fetch' horizon due free) = timetable fetches := by
  induction unrolls with
  | @answered due free delay value rest possible answer tail ih =>
    have own := same (max due free)
    rw [answer] at own
    cases answer' : fetch' (max due free) with
    | answer delay' value' =>
      rw [answer'] at own
      cases own
      rw [series_of_answer possible answer', timetable_cons, timetable_cons, ih]
    | crash | silence =>
      rw [answer'] at own
      cases own
  | @unanswered due free possible none =>
    rw [series_without_answer possible]
    · rfl
    · intro delay value answer'
      have own := same (max due free)
      rw [answer'] at own
      cases answer : fetch (max due free) with
      | answer delay value => exact none delay value answer
      | crash | silence =>
        rw [answer] at own
        cases own
  | exhausted impossible =>
    rw [series, if_neg impossible]
    rfl

end Unrolled

section Loops

variable {β : Type} (source source' : Nat → Reply β) (read : β → Option α) (begun : Nat)

theorem loop_is_scheduled (positive : 0 < period) :
    Scheduled period begun horizon (fun t => (source t).answerDelay?)
      (loop period (fun t => (source t).map read) begun horizon) := by
  have unrolls := series_unrolls period (fun t => (source t).map read) horizon (begun + period) begun
  have ready : begun ≤ begun + period := Nat.le_add_right _ _
  have start : max (begun + period) begun = begun + period := Nat.max_eq_left ready
  constructor
  · intro f member
    rw [unrolled_lasts unrolls f member, Reply.answer_delay_of_map]
  · intro f first
    rw [first_of_unrolled unrolls f first, start]
  · intro soon
    exact unrolled_begins unrolls positive (by rwa [start])
  · exact unrolled_next unrolls
  · exact unrolled_resumes unrolls
  · intro k
    have sum : begun + (k + 1) * period = begun + period + k * period := by
      rw [Nat.succ_mul]
      omega
    rw [sum]
    exact unrolled_is_steady unrolls positive ready k

variable {source source'} in
theorem loop_goes_by_delays (same : ∀ t, (source' t).answerDelay? = (source t).answerDelay?) :
    timetable (loop period (fun t => (source' t).map read) begun horizon) =
      timetable (loop period (fun t => (source t).map read) begun horizon) := by
  refine timetable_of_delays (series_unrolls _ _ _ _ _) ?_
  intro t
  rw [Reply.answer_delay_of_map, Reply.answer_delay_of_map, same]

end Loops

end Fetch

namespace Service

def askedAt (s : Service) (call : Call) : List Nat :=
  (s.log.filter fun entry => entry.2 = call).map Prod.fst

def tips (s : Service) : List (Fetch ConsensusState) := s.inspector.consensusFetches s.world s.now

def releases (s : Service) : List (Fetch Version) := s.inspector.releaseFetches s.world s.now

section Requests

variable (s : Service)

theorem visits_ask_no_source {call : Call} (source : call.asksSource = true) :
    ((s.visits.flatMap (Visit.calls s.inspector)).filter fun entry => entry.1 ≤ s.now).filter
      (fun entry => entry.2 = call) = [] := by
  apply List.filter_eq_nil_iff.mpr
  intro entry member own
  obtain ⟨visit, _, asked⟩ := List.mem_flatMap.mp (List.mem_filter.mp member).1
  have noSource := visit_asks_no_source asked
  rw [of_decide_eq_true own, source] at noSource
  cases noSource

theorem tips_asked : s.askedAt .consensus = s.tips.map Fetch.started := by
  unfold askedAt log loopCalls tips
  rw [List.filter_append, List.filter_append, visits_ask_no_source s rfl]
  simp [List.filter_map, Function.comp_def]

theorem releases_asked : s.askedAt (.release s.inspector.policy.releaseOrg
    s.inspector.policy.releaseRepo) = s.releases.map Fetch.started := by
  unfold askedAt log loopCalls releases
  rw [List.filter_append, List.filter_append, visits_ask_no_source s rfl]
  simp [List.filter_map, Function.comp_def]

end Requests

section Open

variable {policy : Policy} {world : World} {begun : Nat} {initial : Snapshot} {s : Service}
  (stands : s.Stands policy world begun initial) (isOpen : s.inspector.closedAt = none)
include stands isOpen

theorem tips_of_open : s.tips = Fetch.loop policy.tipRefresh
    (fun t => (world.consensus t).map Except.toOption) begun s.now := by
  unfold tips consensusFetches
  rw [isOpen, stands.policy, stands.world, stands.begun]
  rfl

theorem releases_of_open : s.releases = Fetch.loop policy.releaseRefresh
    (fun t => (world.releaseName t).map fun name => (readReleaseName name).toOption)
    begun s.now := by
  unfold releases releaseFetches
  rw [isOpen, stands.policy, stands.world, stands.begun]
  rfl

end Open

/-- Both loops of an inspector that is open fetch on schedule, whatever else is asked of it, and make
    no other requests. When a loop fetches, and for how long, hangs on when it began, on its period
    and on how long its own source takes for its answers, be they good or bad, and on nothing else. -/
theorem refreshes_keep_time (policy : Policy) (resolver : Dns.Resolver) (world : World)
    (begun : Nat) (initial : Snapshot) (acts : List Act) (s : Service)
    (ran : (opened policy resolver world begun initial).run acts = some s)
    (isOpen : s.inspector.closedAt = none) :
    s.askedAt .consensus = s.tips.map Fetch.started ∧
      s.askedAt (.release policy.releaseOrg policy.releaseRepo) =
        s.releases.map Fetch.started ∧
      (0 < policy.tipRefresh → Fetch.Scheduled policy.tipRefresh begun s.now
        (fun t => (world.consensus t).answerDelay?) s.tips) ∧
      (0 < policy.releaseRefresh → Fetch.Scheduled policy.releaseRefresh begun s.now
        (fun t => (world.releaseName t).answerDelay?) s.releases) ∧
      ∀ policy' resolver' world' initial' acts' s',
        (opened policy' resolver' world' begun initial').run acts' = some s' →
        s'.inspector.closedAt = none → s'.now = s.now →
        (policy'.tipRefresh = policy.tipRefresh →
          (∀ t, (world'.consensus t).answerDelay? = (world.consensus t).answerDelay?) →
          Fetch.timetable s'.tips = Fetch.timetable s.tips) ∧
        (policy'.releaseRefresh = policy.releaseRefresh →
          (∀ t, (world'.releaseName t).answerDelay? = (world.releaseName t).answerDelay?) →
          Fetch.timetable s'.releases = Fetch.timetable s.releases) := by
  have stands : s.Stands policy world begun initial :=
    run_keeps (fun _ _ _ => step_stands) ⟨rfl, rfl, rfl, rfl⟩ ran
  have tips := tips_of_open stands isOpen
  have releases := releases_of_open stands isOpen
  refine ⟨tips_asked s, ?_, ?_, ?_, ?_⟩
  · rw [← stands.policy]
    exact releases_asked s
  · intro positive
    rw [tips]
    exact Fetch.loop_is_scheduled _ _ _ positive
  · intro positive
    rw [releases]
    exact Fetch.loop_is_scheduled _ _ _ positive
  · intro policy' resolver' world' initial' acts' s' ran' isOpen' sameNow
    have stands' : s'.Stands policy' world' begun initial' :=
      run_keeps (fun _ _ _ => step_stands) ⟨rfl, rfl, rfl, rfl⟩ ran'
    constructor
    · intro period same
      rw [tips, tips_of_open stands' isOpen', period, sameNow]
      exact Fetch.loop_goes_by_delays _ _ same
    · intro period same
      rw [releases, releases_of_open stands' isOpen', period, sameNow]
      exact Fetch.loop_goes_by_delays _ _ same

end Service

namespace Slow

open Service

def policy : Policy :=
  { Policy.standard with tipRefresh := Span.ofMillis 20, releaseRefresh := Span.ofMillis 20 }

def tip : ConsensusState := ⟨⟨100, ""⟩, ⟨1, 1⟩⟩

def world : World :=
  { names := .silent
    clients := .empty
    consensus := fun t =>
      .answer (if t = Span.ofMillis 40 then Span.ofMillis 32 else Span.ofMillis 3) (.ok tip)
    releaseName := fun _ => .answer (Span.ofMillis 20) (.ok "nightly") }

def failing : World :=
  { world with
    consensus := fun t => (world.consensus t).map fun _ => .error (.request "timed out")
    releaseName := fun _ => .silence }

def known : Snapshot := ⟨tip, ⟨1, 2, 0, ""⟩⟩

def host : Host := ⟨.filled 1, []⟩

def later : Service :=
  { Service.opened policy .standard world 0 known with now := Span.ofMillis 100 }

def busyActs : List Act := [.enter host .never failing, .visit 0, .wait (Span.ofMillis 100)]

theorem tips_of_later : later.tips =
    [⟨Span.ofMillis 20, some (Span.ofMillis 23), some tip⟩,
      ⟨Span.ofMillis 40, some (Span.ofMillis 72), some tip⟩,
      ⟨Span.ofMillis 72, some (Span.ofMillis 75), some tip⟩,
      ⟨Span.ofMillis 92, some (Span.ofMillis 95), some tip⟩] := by
  change Fetch.series (Span.ofMillis 20) _ (Span.ofMillis 100) (Span.ofMillis 20) 0 = _
  rw [Fetch.series_of_answer (by decide) rfl]
  change _ :: Fetch.series _ _ _ (Span.ofMillis 40) (Span.ofMillis 23) = _
  rw [Fetch.series_of_answer (by decide) rfl]
  change _ :: _ :: Fetch.series _ _ _ (Span.ofMillis 60) (Span.ofMillis 72) = _
  rw [Fetch.series_of_answer (by decide) rfl]
  change _ :: _ :: _ :: Fetch.series _ _ _ (Span.ofMillis 92) (Span.ofMillis 75) = _
  rw [Fetch.series_of_answer (by decide) rfl]
  change _ :: _ :: _ :: _ :: Fetch.series _ _ _ (Span.ofMillis 112) (Span.ofMillis 95) = _
  rw [series_not_due _ _ _ (by decide)]
  rfl

theorem beat_after_slow_fetch :
    (Service.opened policy .standard world 0 known).run [.wait (Span.ofMillis 100)] = some later ∧
      later.inspector.closedAt = none ∧ 0 < policy.tipRefresh ∧ 0 < policy.releaseRefresh ∧
      later.askedAt .consensus = [20, 40, 72, 92].map Span.ofMillis ∧
      (∀ f g, later.tips[1]? = some f → later.tips[2]? = some g →
        Fetch.Follows policy.tipRefresh f g) ∧
      (∃ f, later.releases[4]? = some f ∧ f.started = Span.ofMillis 100) ∧
      ∃ other, (Service.opened policy .standard failing 0 known).run
          busyActs = some other ∧
        Fetch.timetable other.tips = Fetch.timetable later.tips := by
  obtain ⟨asked, _, tips, releases, other⟩ :=
    refreshes_keep_time policy .standard world 0 known [.wait (Span.ofMillis 100)] later rfl rfl
  have scheduled := releases (by decide)
  have quick : ∀ f ∈ later.releases.take 4, f.IsWithin policy.releaseRefresh := by
    intro f member
    exact ⟨_, scheduled.lasts f (List.mem_of_mem_take member), Nat.le_refl _⟩
  refine ⟨rfl, rfl, by decide, by decide, ?_, (tips (by decide)).next 1,
    scheduled.steady 4 (by decide) quick, _, rfl, ?_⟩
  · rw [asked, tips_of_later]
    rfl
  · exact (other policy .standard failing known busyActs _ rfl rfl rfl).1 rfl fun _ => rfl

end Slow
end Inspector
end HostHealth
