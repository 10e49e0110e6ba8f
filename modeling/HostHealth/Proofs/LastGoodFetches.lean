import HostHealth.Proofs.RequestLogs
import HostHealth.Proofs.ServiceSound
import Mathlib.Data.List.Induction

/- What an inspector knows about the chain and the latest release is the last good answer of either
   source. Fetches of one loop never overlap, so the last one made is also the last one to come. -/
namespace HostHealth.Inspector

open Net Probe Timed

/-- The value of the last good fetch, by the instants when it was made and when its answer came; the
    initial one if there was none. -/
inductive LastGood {α : Type} (good : Nat → Nat → α → Prop) (initial : α) : α → Prop
  | initially (none : ∀ made came value, ¬ good made came value) : LastGood good initial initial
  | fetched {made came : Nat} {value : α} (own : good made came value)
      (last : ∀ made' came' value', good made' came' value' → made' ≤ made ∧ came' ≤ came) :
      LastGood good initial value

theorem last_good_unique {α : Type} {good : Nat → Nat → α → Prop} {initial first second : α}
    (one : ∀ made came came' value value', good made came value → good made came' value' →
      value = value')
    (h : LastGood good initial first) (h' : LastGood good initial second) : first = second := by
  cases h with
  | initially none =>
    cases h' with
    | initially => rfl
    | fetched own => exact absurd own (none _ _ _)
  | fetched own last =>
    cases h' with
    | initially none => exact absurd own (none _ _ _)
    | fetched own' last' =>
      have same := Nat.le_antisymm (last' _ _ _ own).1 (last _ _ _ own').1
      subst same
      exact one _ _ _ _ _ own own'

namespace Fetch

variable {α : Type} {fetches : List (Fetch α)} {period horizon due free : Nat}
  {fetch : Nat → Reply (Option α)}

def Brings (fetches : List (Fetch α)) (t made came : Nat) (value : α) : Prop :=
  ⟨made, some came, some value⟩ ∈ fetches ∧ came ≤ t

structure InSequence (fetches : List (Fetch α)) : Prop where
  forward : ∀ f ∈ fetches, ∀ e, f.ended = some e → f.started ≤ e
  apart : fetches.Pairwise fun f g =>
    f.started ≤ g.started ∧ ∀ e, f.ended = some e → e ≤ g.started

theorem series_in_sequence : InSequence (series period fetch horizon due free) := by
  fun_induction series period fetch horizon due free with
  | case1 due free possible fired delay value answer ih =>
    have later : ∀ g ∈ series period fetch horizon (nextDue period due fired) (fired + delay),
        fired + delay ≤ g.started := by
      intro g member
      have := series_starts_when_due g member
      omega
    constructor
    · intro f member e ended
      rcases List.mem_cons.mp member with rfl | member
      · cases ended
        exact Nat.le_add_right _ _
      · exact ih.forward f member e ended
    · refine List.pairwise_cons.mpr ⟨?_, ih.apart⟩
      intro g member
      have := later g member
      refine ⟨Nat.le_trans (Nat.le_add_right _ _) this, ?_⟩
      intro e ended
      cases ended
      exact this
  | case2 due free possible fired answer =>
    refine ⟨?_, List.pairwise_singleton _ _⟩
    intro f member e ended
    cases List.mem_singleton.mp member
    cases ended
  | case3 =>
    constructor
    · intro f member
      cases member
    · exact List.Pairwise.nil

def keptUntil (c : Nat) (f : Fetch α) : Fetch α :=
  match f.ended with
  | some e => if e < c then f else { f with ended := none, value := none }
  | none => f

theorem stopped_eq_map_kept (c : Nat) (fetches : List (Fetch α)) :
    stopped (some c) fetches = (fetches.filter fun f => f.started < c).map (keptUntil c) := rfl

theorem started_of_kept (c : Nat) (f : Fetch α) : (keptUntil c f).started = f.started := by
  unfold keptUntil
  split
  · split <;> rfl
  · rfl

theorem kept_of_early {c e : Nat} {f : Fetch α} (ended : f.ended = some e) (early : e < c) :
    keptUntil c f = f := by
  unfold keptUntil
  rw [ended]
  exact if_pos early

theorem ended_of_kept {c e : Nat} {f : Fetch α} (ended : (keptUntil c f).ended = some e) :
    f.ended = some e ∧ e < c := by
  unfold keptUntil at ended
  split at ended
  · rename_i u own
    split at ended
    · rename_i early
      cases own.symm.trans ended
      exact ⟨own, early⟩
    · cases ended
  · rename_i none
    cases none.symm.trans ended

theorem stopped_in_sequence (h : InSequence fetches) (stop : Option Nat) :
    InSequence (stopped stop fetches) := by
  cases stop with
  | none => exact h
  | some c =>
    rw [stopped_eq_map_kept]
    constructor
    · intro f member e ended
      obtain ⟨whole, kept, rfl⟩ := List.mem_map.mp member
      rw [started_of_kept]
      exact h.forward whole (List.mem_filter.mp kept).1 e (ended_of_kept ended).1
    · refine (h.apart.filter _).map (keptUntil c) ?_
      rintro f g ⟨order, finished⟩
      rw [started_of_kept, started_of_kept]
      exact ⟨order, fun e ended => finished e (ended_of_kept ended).1⟩

theorem held_append (initial : α) (front : List (Fetch α)) (f : Fetch α) (t : Nat) :
    held initial (front ++ [f]) t =
      match f.ended, f.value with
      | some e, some new => if e ≤ t then new else held initial front t
      | _, _ => held initial front t := by
  unfold held
  rw [List.foldl_append]
  rfl

theorem held_is_last_good (h : InSequence fetches) (initial : α) (t : Nat) :
    LastGood (Brings fetches t) initial (held initial fetches t) := by
  induction fetches using List.reverseRecOn with
  | nil => exact .initially fun _ _ _ brings => by cases brings.1
  | append_singleton front f ih =>
    obtain ⟨before, _, apart⟩ := List.pairwise_append.mp h.apart
    have frontLast := ih ⟨fun g member => h.forward g (List.mem_append_left _ member), before⟩
    by_cases good : ∃ made came value, f = ⟨made, some came, some value⟩ ∧ came ≤ t
    · -- The last fetch is good. All others were over when it started.
      obtain ⟨made, came, value, rfl, soon⟩ := good
      have there : (⟨made, some came, some value⟩ : Fetch α) ∈
          front ++ [⟨made, some came, some value⟩] :=
        List.mem_append_right _ (List.mem_singleton_self _)
      have holds : held initial (front ++ [⟨made, some came, some value⟩]) t = value := by
        rw [held_append]
        exact if_pos soon
      rw [holds]
      refine .fetched ⟨there, soon⟩ ?_
      rintro made' came' value' ⟨member, _⟩
      rcases List.mem_append.mp member with old | new
      · obtain ⟨order, finished⟩ := apart _ old _ (List.mem_singleton_self _)
        exact ⟨order, Nat.le_trans (finished came' rfl) (h.forward _ there came rfl)⟩
      · cases List.mem_singleton.mp new
        exact ⟨Nat.le_refl _, Nat.le_refl _⟩
    · have same : Brings (front ++ [f]) t = Brings front t := by
        funext made came value
        apply propext
        constructor
        · rintro ⟨member, soon⟩
          rcases List.mem_append.mp member with old | new
          · exact ⟨old, soon⟩
          · cases List.mem_singleton.mp new
            exact absurd ⟨made, came, value, rfl, soon⟩ good
        · rintro ⟨member, soon⟩
          exact ⟨List.mem_append_left _ member, soon⟩
      have holds : held initial (front ++ [f]) t = held initial front t := by
        rw [held_append]
        split
        · rename_i e new ended value
          by_cases soon : e ≤ t
          · exact absurd ⟨f.started, e, new, by rw [← ended, ← value], soon⟩ good
          · exact if_neg soon
        · rfl
      rw [same, holds]
      exact frontLast

theorem series_tells {f : Fetch α} (member : f ∈ series period fetch horizon due free)
    {came : Nat} {value : α} :
    f.ended = some came ∧ f.value = some value ↔
      ∃ delay, fetch f.started = .answer delay (some value) ∧ came = f.started + delay := by
  fun_induction series period fetch horizon due free with
  | case1 due free possible fired delay found answer ih =>
    rcases List.mem_cons.mp member with rfl | later
    · dsimp only
      rw [answer]
      constructor
      · rintro ⟨ended, rfl⟩
        cases ended
        exact ⟨delay, rfl, rfl⟩
      · rintro ⟨_, same, rfl⟩
        cases same
        exact ⟨rfl, rfl⟩
    · exact ih later
  | case2 due free possible fired none =>
    cases List.mem_singleton.mp member
    constructor
    · rintro ⟨ended, _⟩
      cases ended
    · rintro ⟨delay, answer, _⟩
      exact absurd answer (none delay _)
  | case3 => cases member

theorem stopped_loop_brings_iff {stop : Option Nat} {begun made came : Nat} {value : α} :
    ⟨made, some came, some value⟩ ∈ stopped stop (loop period fetch begun horizon) ↔
      made ∈ (stopped stop (loop period fetch begun horizon)).map Fetch.started ∧
        ∃ delay, fetch made = .answer delay (some value) ∧ came = made + delay ∧
          ∀ c, stop = some c → came < c := by
  cases stop with
  | none =>
    change _ ∈ loop period fetch begun horizon ↔ _
    constructor
    · intro member
      obtain ⟨delay, answer, sum⟩ := (series_tells member).mp ⟨rfl, rfl⟩
      exact ⟨List.mem_map.mpr ⟨_, member, rfl⟩, delay, answer, sum, nofun⟩
    · rintro ⟨started, delay, answer, sum, _⟩
      obtain ⟨f, member, rfl⟩ := List.mem_map.mp started
      obtain ⟨ended, own⟩ := (series_tells member).mpr ⟨delay, answer, sum⟩
      rw [← ended, ← own]
      exact member
  | some c =>
    rw [stopped_eq_map_kept]
    constructor
    · intro member
      obtain ⟨f, kept, shape⟩ := List.mem_map.mp member
      obtain ⟨ended, early⟩ := ended_of_kept (by rw [shape] : (keptUntil c f).ended = some came)
      rw [kept_of_early ended early] at shape
      subst shape
      obtain ⟨delay, answer, sum⟩ :=
        (series_tells (List.mem_filter.mp kept).1).mp ⟨rfl, rfl⟩
      refine ⟨List.mem_map.mpr ⟨_, member, rfl⟩, delay, answer, sum, ?_⟩
      intro other same
      cases same
      exact early
    · rintro ⟨started, delay, answer, sum, inTime⟩
      obtain ⟨_, member, same⟩ := List.mem_map.mp started
      obtain ⟨f, kept, rfl⟩ := List.mem_map.mp member
      rw [started_of_kept] at same
      subst same
      obtain ⟨ended, own⟩ :=
        (series_tells (List.mem_filter.mp kept).1).mpr ⟨delay, answer, sum⟩
      rw [kept_of_early ended (inTime c rfl)] at member
      rw [← ended, ← own]
      exact member

end Fetch
end HostHealth.Inspector

namespace HostHealth

open Timed

def Call.asksSource : Call → Bool
  | .consensus | .release _ _ => true
  | _ => false

theorem map_eq_answer_iff {α β : Type} {f : α → β} {reply : Reply α} {delay : Nat} {value : β} :
    reply.map f = .answer delay value ↔ ∃ own, reply = .answer delay own ∧ f own = value := by
  cases reply <;> simp [Reply.map]

theorem to_option_eq_some_iff {ε α : Type} {result : Except ε α} {value : α} :
    result.toOption = some value ↔ result = .ok value := by
  cases result <;> simp [Except.toOption]

theorem undisturbed_bind {κ α β : Type} (call : κ) (reply : Nat → Reply α)
    (next : Response α → Timed κ β) (t : Nat) :
    (request .never none call reply >>= next) t =
      match reply t with
      | .answer delay value =>
        ⟨(t, call) :: (next (.answered value) (t + delay)).calls,
          (next (.answered value) (t + delay)).ending⟩
      | .crash delay reason => ⟨[(t, call)], .crashed (t + delay) reason⟩
      | .silence => ⟨[(t, call)], .pending⟩ := by
  have course : request .never none call reply t = ⟨[(t, call)], (reply t).ending t⟩ := rfl
  cases told : reply t with
  | answer delay value =>
    rw [bind_of_returned (by rw [course, told]; rfl), course]
    rfl
  | crash delay reason =>
    rw [bind_of_crashed (by rw [course, told]; rfl), course]
  | silence =>
    rw [bind_of_pending (by rw [course, told]; rfl), course]

namespace Inspector

open Net Probe Timed

namespace HostTest

variable {policy : Policy} {resolver : Dns.Resolver} {world : World} {test : HostTest}

theorem probe_asks_no_source (address : NetAddress) (client : Client) :
    AsksOnly (fun call => call.asksSource = false)
      (test.probe policy resolver world address client) := by
  have asks : Probe.Asks (fun _ activity => AsksOnly (fun call => call.asksSource = false) activity)
      (test.setup policy resolver world) test.host.publicKey address client := by
    refine ⟨⟨?_, ?_⟩, ?_, ?_, ?_⟩
    · exact fun _ => raced_asks_only _ _ _ _ _ rfl
    · exact fun _ _ => raced_asks_only _ _ _ _ _ rfl
    · exact request_asks_only _ _ _ _ rfl
    · exact request_asks_only _ _ _ _ rfl
    · exact request_asks_only _ _ _ _ rfl
  exact Probe.probe_has (asks_only_inherited _) asks

theorem test_asks_no_source :
    AsksOnly (fun call => call.asksSource = false) (test.run policy resolver world) :=
  host_test_logs_only probe_asks_no_source

end HostTest

section Starting

variable {policy : Policy} {world : World} {t begun : Nat} {initial : Snapshot}

theorem read_release_name_iff {result : Except SourceError String} {version : Version} :
    readReleaseName result = .ok version ↔
      ∃ name, result = .ok name ∧ Version.readRelease name = .ok version := by
  unfold readReleaseName
  cases result with
  | error e => simp
  | ok name =>
    dsimp only
    cases read : Version.readRelease name with
    | error e => simp [read]
    | ok own => simp [read]

theorem start_returns_iff :
    (start policy world t).ending = .returned begun (.ok initial) ↔
      ∃ delay name delay', world.releaseName t = .answer delay (.ok name) ∧
        Version.readRelease name = .ok initial.latest ∧
        world.consensus (t + delay) = .answer delay' (.ok initial.consensus) ∧
        begun = t + delay + delay' := by
  unfold start
  rw [undisturbed_bind]
  cases release : world.releaseName t with
  | answer delay result =>
    dsimp only
    cases read : readReleaseName result with
    | error e =>
      constructor
      · intro returned
        cases (returned_pure_iff.mp returned).2
      · rintro ⟨_, name, _, same, own, _⟩
        cases same
        cases read.symm.trans (read_release_name_iff.mpr ⟨name, rfl, own⟩)
    | ok latest =>
      obtain ⟨name, rfl, own⟩ := read_release_name_iff.mp read
      dsimp only
      rw [undisturbed_bind]
      constructor
      · intro returned
        cases chain : world.consensus (t + delay) with
        | answer delay' told =>
          rw [chain] at returned
          dsimp only at returned
          cases told with
          | ok consensus =>
            obtain ⟨rfl, same⟩ := returned_pure_iff.mp returned
            cases same
            exact ⟨delay, name, delay', rfl, own, chain, rfl⟩
          | error e => cases (returned_pure_iff.mp returned).2
        | crash | silence =>
          rw [chain] at returned
          cases returned
      · rintro ⟨_, _, delay', same, own', chain, rfl⟩
        cases same
        cases own.symm.trans own'
        rw [chain]
        rfl
  | crash | silence => simp

theorem start_asks_consensus_iff :
    Call.consensus ∈ (start policy world t).calls.map Prod.snd ↔
      ∃ delay name latest, world.releaseName t = .answer delay (.ok name) ∧
        Version.readRelease name = .ok latest := by
  unfold start
  rw [undisturbed_bind]
  cases release : world.releaseName t with
  | answer delay result =>
    dsimp only
    cases read : readReleaseName result with
    | error e =>
      constructor
      · intro asked
        cases List.mem_singleton.mp asked
      · rintro ⟨_, name, latest, same, own⟩
        cases same
        cases read.symm.trans (read_release_name_iff.mpr ⟨name, rfl, own⟩)
    | ok latest =>
      obtain ⟨name, rfl, own⟩ := read_release_name_iff.mp read
      dsimp only
      rw [undisturbed_bind]
      refine iff_of_true ?_ ⟨delay, name, latest, rfl, own⟩
      cases world.consensus (t + delay) <;> simp
  | crash | silence => simp

end Starting

namespace Service

/-- A request in the log that has been answered by now, and before any closing. -/
structure Answered {α : Type} (s : Service) (call : Call) (reply : Nat → Reply α)
    (made came : Nat) (result : α) : Prop where
  asked : (made, call) ∈ s.log
  told : ∃ delay, reply made = .answer delay result ∧ came = made + delay
  by_now : came ≤ s.now
  in_time : ∀ c, s.inspector.closedAt = some c → came < c

def TipCame (s : Service) (made came : Nat) (state : ConsensusState) : Prop :=
  s.Answered .consensus s.world.consensus made came (.ok state)

def ReleaseCame (s : Service) (made came : Nat) (version : Version) : Prop :=
  ∃ name,
    s.Answered (.release s.inspector.policy.releaseOrg s.inspector.policy.releaseRepo)
      s.world.releaseName made came (.ok name) ∧
    Version.readRelease name = .ok version

variable {s s' : Service} {a : Act}

theorem visit_asks_no_source {visit : Visit} {entry : Nat × Call}
    (asked : entry ∈ visit.calls s.inspector) : entry.2.asksSource = false := by
  unfold Visit.calls at asked
  split at asked
  · exact HostTest.test_asks_no_source _ _ asked
  · exact HostTest.test_asks_no_source _ _ asked
  · exact HostTest.test_asks_no_source _ _ asked
  · cases asked

theorem source_call_of_log {made : Nat} {call : Call} (source : call.asksSource = true) :
    (made, call) ∈ s.log ↔ (made, call) ∈ s.inspector.loopCalls s.world s.now := by
  constructor
  · intro member
    rcases List.mem_append.mp member with own | tests
    · exact own
    · obtain ⟨visit, _, asked⟩ := List.mem_flatMap.mp (List.mem_filter.mp tests).1
      have noSource := visit_asks_no_source asked
      rw [source] at noSource
      cases noSource
  · exact List.mem_append_left _

theorem tip_asked_iff {made : Nat} :
    (made, .consensus) ∈ s.log ↔
      made ∈ (s.inspector.consensusFetches s.world s.now).map Fetch.started := by
  rw [source_call_of_log rfl, loop_calls_eq_starts]
  simp

theorem release_asked_iff {made : Nat} :
    (made, .release s.inspector.policy.releaseOrg s.inspector.policy.releaseRepo) ∈ s.log ↔
      made ∈ (s.inspector.releaseFetches s.world s.now).map Fetch.started := by
  rw [source_call_of_log rfl, loop_calls_eq_starts]
  simp

theorem tip_came_iff {made came : Nat} {state : ConsensusState} :
    Fetch.Brings (s.inspector.consensusFetches s.world s.now) s.now made came state ↔
      s.TipCame made came state := by
  unfold Fetch.Brings consensusFetches
  rw [Fetch.stopped_loop_brings_iff]
  have asked : (made, .consensus) ∈ s.log ↔ _ := tip_asked_iff
  unfold consensusFetches at asked
  rw [← asked]
  simp only [map_eq_answer_iff, to_option_eq_some_iff]
  constructor
  · rintro ⟨⟨inLog, delay, ⟨_, answer, rfl⟩, sum, inTime⟩, soon⟩
    exact ⟨inLog, ⟨delay, answer, sum⟩, soon, inTime⟩
  · rintro ⟨inLog, ⟨delay, answer, sum⟩, soon, inTime⟩
    exact ⟨⟨inLog, delay, ⟨_, answer, rfl⟩, sum, inTime⟩, soon⟩

theorem release_came_iff {made came : Nat} {version : Version} :
    Fetch.Brings (s.inspector.releaseFetches s.world s.now) s.now made came version ↔
      s.ReleaseCame made came version := by
  unfold Fetch.Brings releaseFetches
  rw [Fetch.stopped_loop_brings_iff]
  have asked : (made, .release s.inspector.policy.releaseOrg
    s.inspector.policy.releaseRepo) ∈ s.log ↔ _ := release_asked_iff
  unfold releaseFetches at asked
  rw [← asked]
  simp only [map_eq_answer_iff, to_option_eq_some_iff, read_release_name_iff]
  constructor
  · rintro ⟨⟨inLog, delay, ⟨_, answer, name, rfl, own⟩, sum, inTime⟩, soon⟩
    exact ⟨name, ⟨inLog, ⟨delay, answer, sum⟩, soon, inTime⟩, own⟩
  · rintro ⟨name, ⟨inLog, ⟨delay, answer, sum⟩, soon, inTime⟩, own⟩
    exact ⟨⟨inLog, delay, ⟨_, answer, name, rfl, own⟩, sum, inTime⟩, soon⟩

structure Stands (policy : Policy) (world : World) (begun : Nat) (initial : Snapshot)
    (s : Service) : Prop where
  policy : s.inspector.policy = policy
  world : s.world = world
  begun : s.inspector.begun = begun
  initial : s.inspector.initial = initial

theorem step_stands {policy : Policy} {world : World} {begun : Nat} {initial : Snapshot}
    (h : s.Stands policy world begun initial) (step : s.Step a s') :
    s'.Stands policy world begun initial := by
  cases step with
  | visit i there proceeds =>
    obtain ⟨cooldown, rfl⟩ := proceeds_keeps proceeds
    exact ⟨h.policy, h.world, h.begun, h.initial⟩
  | _ => exact ⟨h.policy, h.world, h.begun, h.initial⟩

theorem answered_once {α : Type} {call : Call} {reply : Nat → Reply α} {made came came' : Nat}
    {result result' : α} (h : s.Answered call reply made came result)
    (h' : s.Answered call reply made came' result') : result = result' := by
  obtain ⟨delay, answer, _⟩ := h.told
  obtain ⟨delay', answer', _⟩ := h'.told
  cases answer.symm.trans answer'
  rfl

theorem held_iff_last_good {α : Type} {fetches : List (Fetch α)} {came : Nat → Nat → α → Prop}
    (ordered : Fetch.InSequence fetches) {t : Nat}
    (brings : ∀ {made at' value}, Fetch.Brings fetches t made at' value ↔ came made at' value)
    (one : ∀ made at' atOther value other, came made at' value → came made atOther other →
      value = other) (initial value : α) :
    Fetch.held initial fetches t = value ↔ LastGood came initial value := by
  have same : Fetch.Brings fetches t = came := by
    funext made at' value
    exact propext brings
  have holds := Fetch.held_is_last_good ordered initial t
  rw [same] at holds
  constructor
  · rintro rfl
    exact holds
  · exact last_good_unique one holds

theorem tip_is_last_good (s : Service) (state : ConsensusState) :
    s.snapshot.consensus = state ↔ LastGood s.TipCame s.inspector.initial.consensus state := by
  refine held_iff_last_good (Fetch.stopped_in_sequence Fetch.series_in_sequence _) tip_came_iff ?_
    _ _
  intro made came other value value' h h'
  cases answered_once h h'
  rfl

theorem release_is_last_good (s : Service) (version : Version) :
    s.snapshot.latest = version ↔ LastGood s.ReleaseCame s.inspector.initial.latest version := by
  refine held_iff_last_good (Fetch.stopped_in_sequence Fetch.series_in_sequence _)
    release_came_iff ?_ _ _
  rintro made came other value value' ⟨name, h, read⟩ ⟨name', h', read'⟩
  cases answered_once h h'
  cases read.symm.trans read'
  rfl

structure FollowsSources (s : Service) (initial : Snapshot) : Prop where
  tip : ∀ state, s.snapshot.consensus = state ↔ LastGood s.TipCame initial.consensus state
  release : ∀ version, s.snapshot.latest = version ↔ LastGood s.ReleaseCame initial.latest version

theorem opened_follows_sources {policy : Policy} {resolver : Dns.Resolver} {world : World}
    {begun : Nat} {initial : Snapshot} {acts : List Act}
    (ran : (opened policy resolver world begun initial).run acts = some s) :
    s.FollowsSources initial := by
  have stands : s.Stands policy world begun initial :=
    run_keeps (fun _ _ _ => step_stands) ⟨rfl, rfl, rfl, rfl⟩ ran
  rw [← stands.initial]
  exact ⟨tip_is_last_good s, release_is_last_good s⟩

theorem same_tip {t : Service} (initial : t.inspector.initial.consensus = s.inspector.initial.consensus)
    (begun : t.inspector.begun = s.inspector.begun)
    (period : t.inspector.policy.tipRefresh = s.inspector.policy.tipRefresh)
    (source : t.world.consensus = s.world.consensus) (now : t.now = s.now)
    (closedAt : t.inspector.closedAt = s.inspector.closedAt) :
    t.snapshot.consensus = s.snapshot.consensus := by
  unfold snapshot Inspector.snapshot consensusFetches
  dsimp only
  rw [initial, begun, period, source, now, closedAt]

theorem same_release {t : Service} (initial : t.inspector.initial.latest = s.inspector.initial.latest)
    (begun : t.inspector.begun = s.inspector.begun)
    (period : t.inspector.policy.releaseRefresh = s.inspector.policy.releaseRefresh)
    (source : t.world.releaseName = s.world.releaseName) (now : t.now = s.now)
    (closedAt : t.inspector.closedAt = s.inspector.closedAt) :
    t.snapshot.latest = s.snapshot.latest := by
  unfold snapshot Inspector.snapshot releaseFetches
  dsimp only
  rw [initial, begun, period, source, now, closedAt]

/-- An inspector starts with two good answers, the chain being asked for after a good release only.
    From then on, whatever is done to it, either half of what it knows is the last good answer of
    its own source. Neither half depends on the source of the other, on the tests, on who asks for
    them, or on when they are asked for. -/
theorem background_is_last_good (policy : Policy) (resolver : Dns.Resolver) (world : World)
    (t : Nat) :
    (∀ begun initial, (start policy world t).ending = .returned begun (.ok initial) ↔
      ∃ delay name delay', world.releaseName t = .answer delay (.ok name) ∧
        Version.readRelease name = .ok initial.latest ∧
        world.consensus (t + delay) = .answer delay' (.ok initial.consensus) ∧
        begun = t + delay + delay') ∧
    (Call.consensus ∈ (start policy world t).calls.map Prod.snd ↔
      ∃ delay name latest, world.releaseName t = .answer delay (.ok name) ∧
        Version.readRelease name = .ok latest) ∧
    ∀ begun initial acts s, (opened policy resolver world begun initial).run acts = some s →
      s.FollowsSources initial ∧
        ∀ policy' resolver' world' initial' acts' s',
          (opened policy' resolver' world' begun initial').run acts' = some s' →
          s'.now = s.now → s'.inspector.closedAt = s.inspector.closedAt →
          (policy'.tipRefresh = policy.tipRefresh → world'.consensus = world.consensus →
            initial'.consensus = initial.consensus →
            s'.snapshot.consensus = s.snapshot.consensus) ∧
          (policy'.releaseRefresh = policy.releaseRefresh →
            world'.releaseName = world.releaseName → initial'.latest = initial.latest →
            s'.snapshot.latest = s.snapshot.latest) := by
  refine ⟨fun _ _ => start_returns_iff, start_asks_consensus_iff, ?_⟩
  intro begun initial acts s ran
  refine ⟨opened_follows_sources ran, ?_⟩
  intro policy' resolver' world' initial' acts' s' ran' sameNow sameClosing
  have stands : s.Stands policy world begun initial :=
    run_keeps (fun _ _ _ => step_stands) ⟨rfl, rfl, rfl, rfl⟩ ran
  have stands' : s'.Stands policy' world' begun initial' :=
    run_keeps (fun _ _ _ => step_stands) ⟨rfl, rfl, rfl, rfl⟩ ran'
  have sameBegun : s'.inspector.begun = s.inspector.begun := stands'.begun.trans stands.begun.symm
  constructor
  · intro period source first
    refine same_tip ?_ sameBegun ?_ ?_ sameNow sameClosing
    · rw [stands'.initial, first, stands.initial]
    · rw [stands'.policy, period, stands.policy]
    · rw [stands'.world, source, stands.world]
  · intro period source first
    refine same_release ?_ sameBegun ?_ ?_ sameNow sameClosing
    · rw [stands'.initial, first, stands.initial]
    · rw [stands'.policy, period, stands.policy]
    · rw [stands'.world, source, stands.world]

end Service

namespace Flaky

open Service

def policy : Policy := { Policy.standard with tipRefresh := 10, releaseRefresh := 10 }

def tipAt (t : Nat) : ConsensusState := ⟨⟨.ofNat (100 + t), ""⟩, ⟨1, 1⟩⟩

def world : World :=
  { names := .silent
    clients := .empty
    consensus := fun t =>
      if t < 20 then .answer 1 (.ok (tipAt t))
      else if t < 30 then .answer 1 (.error (.request "timed out"))
      else .answer 100 (.ok (tipAt t))
    releaseName := fun t =>
      if t < 20 then .answer 1 (.ok "v1.2.0")
      else if t < 30 then .answer 1 (.ok "nightly")
      else .silence }

def quiet : World := { world with releaseName := fun _ => .silence }

def known : Snapshot := ⟨tipAt 1, ⟨1, 2, 0, ""⟩⟩

def host : Host := ⟨.filled 1, []⟩

def acts : List Act := [.wait 35, .close]

def busyActs : List Act := [.enter host .never world, .visit 0, .visit 0, .wait 35, .close]

def after : Service :=
  { Service.opened policy .standard world 2 known with
    inspector := { Inspector.opened policy .standard 2 known with closedAt := some 36 }
    now := 36
    closings := [.begun] }

theorem tip_fetches : after.inspector.consensusFetches world 36 =
    [⟨12, some 13, some (tipAt 12)⟩, ⟨22, some 23, none⟩, ⟨32, none, none⟩] := by
  change Fetch.stopped (some 36) (Fetch.series 10 _ 36 12 2) = _
  rw [Fetch.series, if_pos (by decide)]
  change Fetch.stopped (some 36) (_ :: Fetch.series 10 _ 36 22 13) = _
  rw [Fetch.series, if_pos (by decide)]
  change Fetch.stopped (some 36) (_ :: _ :: Fetch.series 10 _ 36 32 23) = _
  rw [Fetch.series, if_pos (by decide)]
  change Fetch.stopped (some 36) (_ :: _ :: _ :: Fetch.series 10 _ 36 42 132) = _
  rw [series_not_due _ _ _ (by decide)]
  rfl

theorem tip_outlasts_failure :
    (start policy world 0).ending = .returned 2 (.ok known) ∧
      LastGood after.TipCame known.consensus (tipAt 12) ∧
      ∃ busy, (Service.opened policy .standard quiet 2 known).run busyActs = some busy ∧
        busy.visits ≠ [] ∧ busy.snapshot.consensus = tipAt 12 := by
  have tip : after.snapshot.consensus = tipAt 12 := by
    change Fetch.held known.consensus (after.inspector.consensusFetches world 36) 36 = _
    rw [tip_fetches]
    rfl
  obtain ⟨begins, _, follows⟩ := background_is_last_good policy .standard world 0
  obtain ⟨own, other⟩ := follows 2 known acts after rfl
  refine ⟨(begins 2 known).mpr ⟨1, "v1.2.0", 1, rfl, by decide, rfl, rfl⟩, (own.tip _).mp tip,
    _, rfl, List.cons_ne_nil _ _, ?_⟩
  obtain ⟨sameTip, _⟩ := other policy .standard quiet known busyActs _ rfl rfl rfl
  exact (sameTip rfl rfl rfl).trans tip

end Flaky
end Inspector
end HostHealth
