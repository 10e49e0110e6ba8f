import HostHealth.Proofs.LookupEvents
import HostHealth.Proofs.Successes
import HostHealth.Proofs.TestDeadlines
import Mathlib.Algebra.Ring.GeomSum

/- How much a lookup asks for, and how long that takes. A walk goes down one level with every alias,
   whatever the aliases lead to. -/
namespace HostHealth

open Net Timed

namespace Timed

variable {κ α β : Type}

/-- Over after so much time for every request at the latest. -/
def Paced (span : Nat) (activity : Timed κ α) : Prop :=
  ∀ start, ∃ t, (activity start).ending.instant? = some t ∧ start ≤ t ∧
    t ≤ start + (activity start).calls.length * span

def AtMost (most : Nat) (activity : Timed κ α) : Prop :=
  ∀ start, (activity start).calls.length ≤ most

theorem paced_inherited (span : Nat) :
    Inherited fun α (activity : Timed κ α) => Paced span activity := by
  constructor
  · intro α value start
    exact ⟨start, rfl, Nat.le_refl _, Nat.le_add_right _ _⟩
  · intro α β first next begun continued start
    obtain ⟨t, ended, later, bound⟩ := begun start
    cases course : (first start).ending with
    | returned u value =>
      rw [course] at ended
      cases ended
      obtain ⟨v, rest, afterwards, limit⟩ := continued value t
      rw [bind_of_returned course]
      refine ⟨v, rest, by omega, ?_⟩
      rw [List.length_append, Nat.add_mul]
      omega
    | crashed u reason =>
      rw [course] at ended
      rw [bind_of_crashed course]
      exact ⟨t, ended, later, bound⟩
    | pending =>
      rw [course] at ended
      cases ended
  · intro α activity h start
    rw [calls_of_measured, instant_of_measured]
    exact h start

theorem at_most_weaken {activity : Timed κ α} {most more : Nat} (h : AtMost most activity)
    (fewer : most ≤ more) : AtMost more activity :=
  fun start => Nat.le_trans (h start) fewer

theorem bind_at_most {first : Timed κ α} {next : α → Timed κ β} {most more : Nat}
    (begun : AtMost most first)
    (continued : ∀ start t value, (first start).ending = .returned t value →
      AtMost more (next value)) : AtMost (most + more) (first >>= next) := by
  intro start
  have own := begun start
  cases ended : (first start).ending with
  | returned t value =>
    have later := continued start t value ended t
    rw [bind_of_returned ended, List.length_append]
    omega
  | crashed t reason =>
    rw [bind_of_crashed ended]
    dsimp only
    omega
  | pending =>
    rw [bind_of_pending ended]
    dsimp only
    omega

theorem pure_at_most (value : α) : AtMost 0 (pure value : Timed κ α) := fun _ => Nat.le_refl 0

end Timed

section Request

variable {κ α : Type} (token : Token) (span : Nat) (call : κ) (reply : Nat → Reply α)

theorem undisturbed_in_time (start : Nat) :
    ∃ u, (undisturbed (some span) reply start).instant? = some u ∧ u ≤ start + span := by
  unfold undisturbed Ending.within
  cases ended : ((reply start).ending start).instant? with
  | none => exact ⟨start + span, rfl, Nat.le_refl _⟩
  | some u =>
    by_cases inTime : u ≤ start + span
    · exact ⟨u, by simp [inTime, ended], inTime⟩
    · exact ⟨start + span, by simp [inTime, Ending.instant?], Nat.le_refl _⟩

theorem request_paced : Paced span (request token (some span) call reply) := by
  intro start
  cases cancelled : token.isCancelled start with
  | true =>
    rw [request_of_cancelled token _ call reply cancelled]
    exact ⟨start, rfl, Nat.le_refl _, Nat.le_add_right _ _⟩
  | false =>
    obtain ⟨u, ended, inTime⟩ := undisturbed_in_time span reply start
    have later := undisturbed_ends_after_start (some span) reply start u ended
    rw [request_of_open token _ call reply cancelled, List.length_singleton, Nat.one_mul]
    obtain ⟨_ | c⟩ := token
    · exact ⟨u, ended, later, inTime⟩
    · have still : start < c := Nat.not_le.mp (of_decide_eq_false cancelled)
      by_cases early : u < c
      · rw [before_of_early .cancelled ended early]
        exact ⟨u, ended, later, inTime⟩
      · have late : ∀ v, (undisturbed (some span) reply start).instant? = some v → c ≤ v := by
          intro v ended'
          cases ended.symm.trans ended'
          exact Nat.not_lt.mp early
        rw [before_of_late .cancelled late]
        exact ⟨c, rfl, by omega, by omega⟩

theorem raced_paced (ahead : Nat → Bool) : Paced span (raced token ahead (some span) call reply) := by
  intro start
  cases first : ahead start with
  | false =>
    rw [raced_of_behind token _ call reply ahead first]
    exact request_paced token span call reply start
  | true =>
    obtain ⟨u, ended, inTime⟩ := undisturbed_in_time span reply start
    have later := undisturbed_ends_after_start (some span) reply start u ended
    rw [raced_of_ahead token _ call reply ahead first, List.length_singleton, Nat.one_mul]
    obtain ⟨_ | c⟩ := token
    · exact ⟨u, ended, later, inTime⟩
    · rcases within_timely_or_overdue (undisturbed (some span) reply start) (max start c)
        Response.cancelled with ⟨same, _⟩ | ⟨same, overdue⟩
      · exact ⟨u, (congrArg Ending.instant? same).trans ended, later, inTime⟩
      · have := overdue u ended
        exact ⟨max start c, congrArg Ending.instant? same, by omega, by omega⟩

theorem raced_at_most_once (limit : Option Nat) (ahead : Nat → Bool) :
    AtMost 1 (raced token ahead limit call reply) := by
  intro start
  rcases raced_asks_once token limit call reply ahead start with idle | once
  · rw [idle]
    exact Nat.zero_le _
  · rw [once]
    exact Nat.le_refl _

theorem answer_of_raced {ε : Type} {reply : Nat → Reply (Except ε α)} {ahead : Nat → Bool}
    {limit : Option Nat} {start t : Nat} {value : α}
    (returned : (raced token ahead limit call reply start).ending =
      .returned t (.answered (.ok value))) : ∃ delay, reply start = .answer delay (.ok value) := by
  cases first : ahead start with
  | false =>
    rw [raced_of_behind token limit call reply ahead first] at returned
    obtain ⟨delay, answer, _⟩ := request_succeeds_iff.mp returned
    exact ⟨delay, answer⟩
  | true =>
    rw [raced_of_ahead token limit call reply ahead first] at returned
    obtain ⟨delay, answer, _⟩ := undisturbed_answers_iff.mp (within_kept (by simp) returned)
    exact ⟨delay, answer⟩

end Request

namespace Call

def isRecordQuery : Call → Bool
  | .recordQuery _ _ _ => true
  | _ => false

end Call

def recordQueries (log : List (Nat × Call)) : Nat :=
  (log.filter fun call => call.2.isRecordQuery).length

namespace Dns.Resolver

variable {r : Resolver} {names : NameService} {token : Token}

/-- No answer about the aliases of a name holds more than that. -/
def FewAliases (names : NameService) (most : Nat) : Prop :=
  ∀ t name delay answers, names.records t name .cname = .answer delay (.ok answers) →
    (answers.filterMap Answer.alias?).length ≤ most

theorem query_at_most_once (name : String) (type : RecordType) :
    AtMost 1 (query r names token name type) := by
  intro start
  unfold query
  rw [calls_of_bind_pure]
  exact raced_at_most_once _ _ _ _ _ start

theorem answers_of_query {name : String} {type : RecordType} {start t : Nat}
    {answers : List Answer}
    (returned : (query r names token name type start).ending = .returned t (.ok answers)) :
    ∃ delay, names.records start name type = .answer delay (.ok answers) := by
  obtain ⟨u, response, ended, rest⟩ := returned_bind_iff.mp returned
  obtain ⟨rfl, same⟩ := returned_pure_iff.mp rest
  rcases response with result | _ | _
  · cases same
    exact answer_of_raced _ _ ended
  · cases same
  · cases same

theorem follow_at_most {walk : String → Lookup} {most : Nat}
    (each : ∀ name, AtMost most (walk name)) (targets : List String) :
    AtMost (targets.length * most) (follow walk targets) := by
  induction targets with
  | nil =>
    rw [List.length_nil, Nat.zero_mul]
    exact pure_at_most _
  | cons target rest ih =>
    rw [List.length_cons, Nat.succ_mul, Nat.add_comm]
    apply bind_at_most (each target)
    rintro start t (e | found) _
    · exact at_most_weaken (pure_at_most _) (Nat.zero_le _)
    · rw [← Nat.add_zero (rest.length * most)]
      apply bind_at_most ih
      rintro start t (e | more) _
      · exact pure_at_most _
      · exact pure_at_most _

theorem walk_at_most {most : Nat} (few : FewAliases names most) (levels : Nat) (name : String) :
    AtMost (3 * ∑ i ∈ Finset.range levels, most ^ i) (r.walk names token levels name) := by
  induction levels generalizing name with
  | zero => exact pure_at_most _
  | succ levels ih =>
    -- A question each for three types of records, and then so many walks with a level less.
    have sum : 3 * ∑ i ∈ Finset.range (levels + 1), most ^ i =
        1 + (1 + (1 + (most * (3 * ∑ i ∈ Finset.range levels, most ^ i) + 0))) := by
      rw [geom_sum_succ, Nat.mul_add, Nat.mul_left_comm]
      omega
    have failed : ∀ (e : DnsError) (more : Nat),
        AtMost more (pure (.error e) : Lookup) :=
      fun e more => at_most_weaken (pure_at_most _) (Nat.zero_le more)
    rw [sum]
    apply bind_at_most (query_at_most_once name .a)
    rintro start t (e | a) _
    · exact failed e _
    apply bind_at_most (query_at_most_once name .aaaa)
    rintro start t (e | aaaa) _
    · exact failed e _
    apply bind_at_most (query_at_most_once name .cname)
    rintro start t (e | cname) asked
    · exact failed e _
    obtain ⟨delay, reply⟩ := answers_of_query asked
    have aliases := few start name delay cname reply
    apply bind_at_most
    · exact at_most_weaken (follow_at_most ih _) (Nat.mul_le_mul_right _ aliases)
    rintro start t (e | behind) _
    · exact failed e _
    · exact pure_at_most _

theorem lookup_paced (r : Resolver) (names : NameService) (token : Token) (host : String) :
    Paced r.timeout (r.lookup names token host) :=
  lookup_has (paced_inherited _) (fun _ _ => raced_paced _ _ _ _ _) host

theorem resolve_paced (r : Resolver) (names : NameService) (token : Token) (host : String) :
    Paced r.timeout (r.resolve names token host) :=
  resolve_has (paced_inherited _)
    ⟨fun _ => raced_paced _ _ _ _ _, fun _ _ => raced_paced _ _ _ _ _⟩ host

section Calm

variable (calm : names.Calm) (token : Token)
include calm

theorem calm_queries_never_crash (name : String) (type : RecordType) :
    NeverCrashes (r.ask names token (Call.recordQuery type name r.server)
      fun t => names.records t name type) :=
  raced_never_crashes (calm.records name type) token _ _ _

theorem calm_lookup_returns (host : String) (start : Nat) :
    ∃ t outcome, (r.lookup names token host start).ending = .returned t outcome := by
  obtain ⟨t, ended, _⟩ := lookup_paced r names token host start
  exact ⟨t, returned_of_ended ended
    (lookup_has never_crashes_inherited (calm_queries_never_crash calm token) host start)⟩

theorem calm_resolve_returns (host : String) (start : Nat) :
    ∃ t outcome, (r.resolve names token host start).ending = .returned t outcome := by
  have system : ∀ host, NeverCrashes (r.systemLookup names token host) :=
    fun host => raced_never_crashes (calm.system host) token _ _ _
  obtain ⟨t, ended, _⟩ := resolve_paced r names token host start
  exact ⟨t, returned_of_ended ended
    (resolve_has never_crashes_inherited ⟨system, calm_queries_never_crash calm token⟩ host start)⟩

end Calm

theorem lookup_asks_for_records (host : String) :
    AsksOnly (fun call => call.isRecordQuery = true) (r.lookup names token host) :=
  lookup_has (asks_only_inherited _) (fun _ _ => raced_asks_only _ _ _ _ _ rfl) host

theorem lookup_at_most {most : Nat} (few : FewAliases names most) (host : String) :
    AtMost (3 * ∑ i ∈ Finset.range (r.maxDepth + 1), most ^ i) (r.lookup names token host) := by
  cases literal : Ip.read host with
  | some ip =>
    unfold lookup
    rw [literal]
    exact at_most_weaken (pure_at_most _) (Nat.zero_le _)
  | none =>
    intro start
    rw [calls_of_lookup literal]
    exact walk_at_most few _ host start

theorem record_queries_of_lookup (r : Resolver) (names : NameService) (token : Token)
    (host : String) (start : Nat) :
    recordQueries (r.lookup names token host start).calls =
      (r.lookup names token host start).calls.length := by
  have all : (r.lookup names token host start).calls.filter (fun call => call.2.isRecordQuery) =
      (r.lookup names token host start).calls :=
    List.filter_eq_self.mpr (lookup_asks_for_records host start)
  unfold recordQueries
  rw [all]

theorem calls_of_system_lookup (r : Resolver) (names : NameService) (token : Token) (host : String)
    (start : Nat) :
    (systemLookup r names token host start).calls = [] ∨
      (systemLookup r names token host start).calls = [(start, .systemLookup host)] := by
  rcases raced_asks_once token (some r.timeout) (Call.systemLookup host)
    (fun t => names.system t host) (fun t => names.ahead none t (.systemLookup host)) start with
    idle | once
  · exact Or.inl (congrArg Course.calls idle)
  · exact Or.inr once

theorem resolve_log (r : Resolver) (names : NameService) (token : Token) (host : String)
    (start : Nat) :
    ∃ asked looked, (r.resolve names token host start).calls = asked ++ looked ∧
      (asked = [] ∨ asked = [(start, .systemLookup host)]) ∧
      (looked = [] ∨ ∃ t, looked = (r.lookup names token host t).calls) := by
  unfold resolve
  cases Ip.read host with
  | some ip => exact ⟨[], [], rfl, Or.inl rfl, Or.inl rfl⟩
  | none =>
    have asked := calls_of_system_lookup r names token host start
    cases ended : (systemLookup r names token host start).ending with
    | returned t response =>
      dsimp only
      rw [bind_of_returned ended]
      refine ⟨_, _, rfl, asked, ?_⟩
      rcases response with (e | _ | ⟨ip, ips⟩) | _ | _
      · exact Or.inr ⟨t, rfl⟩
      · exact Or.inr ⟨t, rfl⟩
      · exact Or.inl rfl
      · exact Or.inr ⟨t, rfl⟩
      · exact Or.inl rfl
    | crashed t reason =>
      dsimp only
      rw [bind_of_crashed ended]
      exact ⟨_, [], (List.append_nil _).symm, asked, Or.inl rfl⟩
    | pending =>
      dsimp only
      rw [bind_of_pending ended]
      exact ⟨_, [], (List.append_nil _).symm, asked, Or.inl rfl⟩

theorem record_queries_of_resolve {most : Nat} (few : FewAliases names most) (host : String)
    (start : Nat) :
    (r.resolve names token host start).calls.length ≤
        recordQueries (r.resolve names token host start).calls + 1 ∧
      recordQueries (r.resolve names token host start).calls ≤
        3 * ∑ i ∈ Finset.range (r.maxDepth + 1), most ^ i := by
  obtain ⟨asked, looked, log, first, later⟩ := resolve_log r names token host start
  have none : asked.length ≤ 1 ∧ recordQueries asked = 0 := by
    rcases first with rfl | rfl
    · exact ⟨Nat.zero_le _, rfl⟩
    · exact ⟨Nat.le_refl _, rfl⟩
  have all : recordQueries looked = looked.length ∧
      looked.length ≤ 3 * ∑ i ∈ Finset.range (r.maxDepth + 1), most ^ i := by
    rcases later with rfl | ⟨t, rfl⟩
    · exact ⟨rfl, Nat.zero_le _⟩
    · exact ⟨record_queries_of_lookup r names token host t, lookup_at_most few host t⟩
  have count : recordQueries (asked ++ looked) = recordQueries asked + recordQueries looked := by
    unfold recordQueries
    rw [List.filter_append, List.length_append]
  rw [log, count, List.length_append]
  omega

end Dns.Resolver

namespace Dns

def asks (server : SocketAddr) (name : String) : List Call :=
  [.recordQuery .a name server, .recordQuery .aaaa name server, .recordQuery .cname name server]

namespace Records

variable {records : Records} {timeout levels : Nat} {name : String} {server : SocketAddr}

/-- Every name in reach is answered for, and has just one alias. -/
def EndlessChain (records : Records) (timeout : Nat) (name : String) : Prop :=
  ∀ steps target, records.Reaches timeout name steps target →
    records.Answered timeout target ∧ ∃ via, records.aliases timeout target = [via]

theorem calls_behind (via : String) (events : List Event) :
    (events.map (Event.behind via)).filterMap (Event.call? server) =
      events.filterMap (Event.call? server) := by
  rw [List.filterMap_map]
  rfl

theorem calls_of_events
    (shallow : ∀ event ∈ records.events timeout levels name, event.asked ≠ none) :
    (records.events timeout levels name).filterMap (Event.call? server) =
      (records.unfolded timeout levels name).preorder.flatMap (asks server) := by
  induction levels generalizing name with
  | zero => exact absurd rfl (shallow _ (List.mem_singleton.mpr rfl))
  | succ levels ih =>
    have own : (Event.questions name).filterMap (Event.call? server) = asks server name := rfl
    rw [events, List.filterMap_append, own, List.filterMap_flatMap, unfolded,
      AliasTree.preorder, AliasTree.preorders_eq_flat_map, List.flatMap_cons, List.flatMap_map,
      List.flatMap_assoc]
    congr 1
    apply List.flatMap_congr
    intro via listed
    rw [calls_behind]
    apply ih
    intro event member
    exact shallow (event.behind via) (mem_events_iff.mpr (Or.inr ⟨via, listed, event, member, rfl⟩))

theorem events_of_chain (chain : records.EndlessChain timeout name) (levels : Nat) :
    ∃ front last, records.events timeout levels name = front ++ [last] ∧
      (∀ event ∈ front, records.Passes timeout event) ∧ last.asked = none ∧
      (front.filterMap (Event.call? server)).length = 3 * levels := by
  induction levels generalizing name with
  | zero => exact ⟨[], ⟨[], name, none⟩, rfl, nofun, rfl, rfl⟩
  | succ levels ih =>
    obtain ⟨⟨answered, via, only⟩, further⟩ := all_reached_iff.mp chain
    have next : records.EndlessChain timeout via :=
      further via (by rw [only]; exact List.mem_singleton.mpr rfl)
    obtain ⟨front, last, split, passed, deep, length⟩ := ih next
    refine ⟨Event.questions name ++ front.map (Event.behind via), last.behind via, ?_, ?_, deep, ?_⟩
    · rw [events, only, List.flatMap_singleton, split, List.map_append, List.append_assoc]
      rfl
    · intro event member
      rcases List.mem_append.mp member with own | behind
      · obtain ⟨type, rfl⟩ := mem_questions_iff.mp own
        exact answered type
      · obtain ⟨earlier, there, rfl⟩ := List.mem_map.mp behind
        exact passed earlier there
    · have own : (Event.questions name).filterMap (Event.call? server) = asks server name := rfl
      rw [List.filterMap_append, own, calls_behind, List.length_append, length, Nat.mul_succ,
        Nat.add_comm]
      rfl

end Records

namespace Resolver

section Static

variable {r : Resolver} {names : NameService} {records : Records} {host : String}
  (same : ∀ t, names.records t = records) (named : Ip.read host = none)
include same named

theorem queries_of_chain (chain : records.EndlessChain r.timeout host) (start : Nat) :
    recordQueries (r.lookup names .never host start).calls = 3 * (r.maxDepth + 1) := by
  obtain ⟨front, last, split, passed, deep, length⟩ :=
    Records.events_of_chain chain (r.maxDepth + 1)
  have first : records.FirstFailure r.timeout r.maxDepth
      (records.events r.timeout (r.maxDepth + 1) host) front last (.depthExceeded r.maxDepth) :=
    ⟨⟨[], split⟩, passed, .tooDeep deep⟩
  obtain ⟨_, _, log⟩ := through_fails same first start
  have unasked : last.call? r.server = none := by
    unfold Event.call?
    rw [deep]
    rfl
  rw [record_queries_of_lookup, calls_of_lookup named, calls_of_walk same, ← List.length_map, log,
    List.filterMap_append, List.filterMap_cons_none unasked, List.filterMap_nil, List.append_nil,
    length]

theorem queries_of_tree {start : Nat} {ips : List Ip}
    (returned : Returns (r.lookup names .never host) start (.ok ips)) :
    ∃ tree, tree.name = host ∧ records.Unfolds r.timeout tree ∧
      (r.lookup names .never host start).calls.map Prod.snd =
        tree.preorder.flatMap (asks r.server) := by
  have walked := ((lookup_returns_iff named).mp returned).2
  obtain ⟨passed, _⟩ := (walk_passes_iff same).mp walked
  obtain ⟨shallow, _⟩ := (Records.walk_returns_tree_iff same).mp walked
  have deeper : records.Shallow r.timeout (r.maxDepth + 1) host :=
    fun steps target path => Nat.le_succ_of_le (shallow steps target path)
  have asked : ∀ event ∈ records.events r.timeout (r.maxDepth + 1) host, event.asked ≠ none := by
    intro event member unasked
    have passes := passed event member
    unfold Records.Passes at passes
    rw [unasked] at passes
    cases passes
  obtain ⟨_, _, log⟩ := through_passes same passed start
  refine ⟨_, Records.name_of_unfolded _ _, Records.unfolded_unfolds deeper, ?_⟩
  rw [calls_of_lookup named, calls_of_walk same, log, Records.calls_of_events asked]

end Static

/-- What a lookup asks for and how long it takes, under any token, with a name service that
    answers, fails or falls silent as it likes, and whose aliases may run in circles. If the service
    gives the same answers at all times, an endless chain takes all that a walk with one alias for
    each name can ask for, and a lookup that comes through asks for each node of the alias tree
    once. -/
theorem resolution_is_bounded (r : Resolver) (names : NameService) (token : Token) (host : String)
    (start most : Nat) (few : FewAliases names most) :
    let bound := 3 * ∑ i ∈ Finset.range (r.maxDepth + 1), most ^ i
    let lookup := r.lookup names token host start
    let resolve := r.resolve names token host start
    (recordQueries lookup.calls ≤ bound ∧ recordQueries lookup.calls = lookup.calls.length ∧
      ∃ t, lookup.ending.instant? = some t ∧ start ≤ t ∧
        t ≤ start + recordQueries lookup.calls * r.timeout) ∧
    (recordQueries resolve.calls ≤ bound ∧
      ∃ t, resolve.ending.instant? = some t ∧ start ≤ t ∧
        t ≤ start + (recordQueries resolve.calls + 1) * r.timeout) ∧
    (names.Calm → (∃ t outcome, lookup.ending = .returned t outcome) ∧
      ∃ t outcome, resolve.ending = .returned t outcome) ∧
    ∀ records : Records, (∀ t, names.records t = records) → token = .never →
      Ip.read host = none →
      (records.EndlessChain r.timeout host →
        recordQueries lookup.calls = 3 * (r.maxDepth + 1)) ∧
      ∀ t ips, lookup.ending = .returned t (.ok ips) →
        ∃ tree, tree.name = host ∧ records.Unfolds r.timeout tree ∧
          lookup.calls.map Prod.snd = tree.preorder.flatMap (asks r.server) := by
  intro bound lookup resolve
  have asked := record_queries_of_lookup r names token host start
  refine ⟨⟨?_, asked, ?_⟩, ⟨(record_queries_of_resolve few host start).2, ?_⟩, ?_, ?_⟩
  · rw [asked]
    exact lookup_at_most few host start
  · rw [asked]
    exact lookup_paced r names token host start
  · obtain ⟨t, ended, later, pace⟩ := resolve_paced r names token host start
    refine ⟨t, ended, later, Nat.le_trans pace (Nat.add_le_add_left ?_ _)⟩
    exact Nat.mul_le_mul_right _ (record_queries_of_resolve few host start).1
  · intro calm
    exact ⟨calm_lookup_returns calm token host start, calm_resolve_returns calm token host start⟩
  · rintro records same rfl named
    exact ⟨fun chain => queries_of_chain same named chain start,
      fun t ips returned => queries_of_tree same named ⟨t, returned⟩⟩

theorem forked_has_few_aliases (system : Nat → String → Reply (Except DnsError (List Ip))) :
    FewAliases (forked.service system) 2 := by
  intro t name delay answers reply
  change forked name .cname = _ at reply
  unfold forked at reply
  split at reply
  all_goals
    cases reply
    try decide

theorem ring_is_endless : forked.EndlessChain standard.timeout "ring.example" := by
  have aliases : forked.aliases standard.timeout "ring.example" = ["ring.example"] := by rfl
  have alone : ∀ {name target : String} {steps : Nat},
      forked.Reaches standard.timeout name steps target → name = "ring.example" →
        target = "ring.example" := by
    intro name target steps path
    induction path with
    | here name => exact id
    | behind member _ ih =>
      rintro rfl
      rw [aliases] at member
      exact ih (List.mem_singleton.mp member)
  intro steps target path
  cases alone path rfl
  refine ⟨?_, "ring.example", aliases⟩
  rintro (_ | _ | _) <;> rfl

theorem queries_of_forked :
    let names := forked.service fun _ _ => .silence
    let log (host : String) : List (Nat × Call) := (standard.lookup names .never host 0).calls
    FewAliases names 2 ∧ recordQueries (log "www.example") ≤ 45 ∧
    (∃ tree, tree.name = "www.example" ∧ forked.Unfolds standard.timeout tree ∧
      (log "www.example").map Prod.snd = tree.preorder.flatMap (asks standard.server)) ∧
    forked.EndlessChain standard.timeout "ring.example" ∧
    recordQueries (log "ring.example") = 12 := by
  intro names log
  have few : FewAliases names 2 := forked_has_few_aliases _
  obtain ⟨⟨bound, _⟩, _, _, fork⟩ :=
    resolution_is_bounded standard names .never "www.example" 0 2 few
  obtain ⟨_, _, _, ring⟩ := resolution_is_bounded standard names .never "ring.example" 0 2 few
  exact ⟨few, bound, (fork forked (fun _ => rfl) rfl (by decide)).2 9 _ rfl, ring_is_endless,
    (ring forked (fun _ => rfl) rfl (by decide)).1 ring_is_endless⟩

end Resolver
end Dns
end HostHealth
