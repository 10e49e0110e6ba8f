import HostHealth.Proofs.AliasTrees
import HostHealth.Proofs.RequestLogs

/- The events of a walk, depth first. A walk goes through its events one after the other, and the
   first one that fails is what it fails with. -/
namespace HostHealth

open Net Timed

def Reply.delay? {α : Type} : Reply α → Option Nat
  | .answer delay _ => some delay
  | .crash delay _ => some delay
  | .silence => none

namespace Dns

/-- What happens in a walk: a question about a name, or, in its stead, that the name is too deep.
    `path` are the aliases that were followed to the name. -/
structure Event where
  path : List String
  name : String
  asked : Option RecordType
  deriving DecidableEq

namespace Event

def behind (via : String) (event : Event) : Event := { event with path := via :: event.path }

def questions (name : String) : List Event :=
  [⟨[], name, some .a⟩, ⟨[], name, some .aaaa⟩, ⟨[], name, some .cname⟩]

def call? (server : SocketAddr) (event : Event) : Option Call :=
  event.asked.map fun type => .recordQuery type event.name server

end Event

namespace DnsError

/-- The error, wrapped once for every alias on the path, the first one outermost. -/
def wrapped (path : List String) (error : DnsError) : DnsError := path.foldr .behindAlias error

end DnsError

namespace Records

variable (records : Records) (timeout : Nat)

/-- The events of a walk with so many levels of names left, if none of them fails. -/
def events : Nat → String → List Event
  | 0, name => [⟨[], name, none⟩]
  | levels + 1, name => Event.questions name ++
    (records.aliases timeout name).flatMap fun via => (events levels via).map (Event.behind via)

def Passes (event : Event) : Prop :=
  (event.asked.bind (records.answers? timeout event.name)).isSome

instance (event : Event) : Decidable (records.Passes timeout event) :=
  inferInstanceAs (Decidable (_ = true))

inductive Fails (maxDepth : Nat) (event : Event) : DnsError → Prop
  | tooDeep : event.asked = none → Fails maxDepth event (.depthExceeded maxDepth)
  | refused {type : RecordType} {delay : Nat} {error : DnsError} : event.asked = some type →
      records event.name type = .answer delay (.error error) → delay ≤ timeout →
      Fails maxDepth event error
  | late {type : RecordType} : event.asked = some type →
      (∀ delay, (records event.name type).delay? = some delay → timeout < delay) →
      Fails maxDepth event .timeout

/-- The first of the events that fails, and those before it. -/
structure FirstFailure (maxDepth : Nat) (events front : List Event) (failing : Event)
    (e : DnsError) : Prop where
  among : ∃ back, events = front ++ failing :: back
  passed : ∀ event ∈ front, records.Passes timeout event
  failed : records.Fails timeout maxDepth failing e

variable {records timeout} {levels : Nat} {name : String} {event : Event}

theorem mem_events_iff : event ∈ records.events timeout (levels + 1) name ↔
    event ∈ Event.questions name ∨ ∃ via ∈ records.aliases timeout name,
      ∃ later ∈ records.events timeout levels via, later.behind via = event := by
  rw [events, List.mem_append, List.mem_flatMap]
  simp only [List.mem_map]

theorem mem_questions_iff :
    event ∈ Event.questions name ↔ ∃ type, event = ⟨[], name, some type⟩ := by
  constructor
  · intro own
    simp only [Event.questions, List.mem_cons, List.not_mem_nil, or_false] at own
    rcases own with rfl | rfl | rfl
    · exact ⟨.a, rfl⟩
    · exact ⟨.aaaa, rfl⟩
    · exact ⟨.cname, rfl⟩
  · rintro ⟨_ | _ | _, rfl⟩
    all_goals simp [Event.questions]

end Records

namespace Resolver

variable (r : Resolver) (names : NameService)

def failure? : Except DnsError (List Answer) → Option DnsError
  | .error e => some e
  | .ok _ => none

def attempt (event : Event) : Timed Call (Option DnsError) :=
  match event.asked with
  | none => return some (.depthExceeded r.maxDepth)
  | some type => do return failure? (← query r names .never event.name type)

/-- One event after the other, up to the first that fails. -/
def through : List Event → Timed Call (Option (Event × DnsError))
  | [] => return none
  | event :: rest => do
    match ← attempt r names event with
    | some e => return some (event, e)
    | none => through rest

def conclude (found : List Ip) : Option (Event × DnsError) → Except DnsError (List Ip)
  | none => .ok found
  | some (event, e) => .error (e.wrapped event.path)

variable {r names}

theorem through_append (front back : List Event) :
    through r names (front ++ back) = (through r names front >>= fun failure =>
      match failure with
      | some failure => pure (some failure)
      | none => through r names back) := by
  induction front with
  | nil => exact (done_bind _ _).symm
  | cons event rest ih =>
    rw [List.cons_append, through, through, bind_bind]
    congr 1
    funext outcome
    cases outcome with
    | some e => exact (done_bind _ _).symm
    | none => exact ih

theorem through_behind (via : String) (events : List Event) :
    through r names (events.map (Event.behind via)) = (through r names events >>= fun failure =>
      pure (failure.map fun f => (f.1.behind via, f.2))) := by
  induction events with
  | nil => exact (done_bind _ _).symm
  | cons event rest ih =>
    rw [List.map_cons, through, through, bind_bind]
    change (attempt r names event >>= _) = _
    congr 1
    funext outcome
    cases outcome with
    | some e => exact (done_bind _ _).symm
    | none => exact ih

theorem follow_goes_through {walk : String → Lookup} {events : String → List Event}
    {found : String → List Ip}
    (each : ∀ via, walk via = (through r names (events via) >>= fun failure =>
      pure (conclude (found via) failure))) (targets : List String) :
    follow walk targets =
      (through r names (targets.flatMap fun via => (events via).map (Event.behind via)) >>=
        fun failure => pure (conclude (targets.flatMap found) failure)) := by
  induction targets with
  | nil => exact (done_bind _ _).symm
  | cons via rest ih =>
    rw [follow, List.flatMap_cons, through_append, through_behind, each, bind_bind, bind_bind,
      bind_bind]
    congr 1
    funext failure
    rw [done_bind, done_bind]
    cases failure with
    | some failure =>
      exact (done_bind _ _).symm
    | none =>
      -- All is well behind this alias, so what the rest of them comes to decides.
      change (follow walk rest >>= _) = (through r names _ >>= _)
      rw [ih, bind_bind]
      congr 1
      funext failure
      rw [done_bind]
      cases failure with
      | some failure => rfl
      | none => rfl

variable {records : Records}

theorem through_question {name : String} {type : RecordType} {rest : List Event} :
    through r names (⟨[], name, some type⟩ :: rest) =
      (query r names .never name type >>= fun outcome =>
        match outcome with
        | .error e => pure (some (⟨[], name, some type⟩, e))
        | .ok _ => through r names rest) := by
  rw [through, attempt, bind_bind]
  congr 1
  funext outcome
  cases outcome with
  | error e => exact done_bind _ _
  | ok answers => exact done_bind _ _

theorem question_comes_first (same : ∀ t, names.records t = records) {name : String}
    {type : RecordType} {continued : List Answer → Lookup}
    {rest : Timed Call (Option (Event × DnsError))} {found : List Ip}
    (alike : continued (records.answers r.timeout name type) =
      (rest >>= fun failure => pure (conclude found failure))) :
    (query r names .never name type >>= fun outcome =>
      match outcome with
      | .error e => pure (.error e)
      | .ok answers => continued answers) =
    (query r names .never name type >>= fun outcome =>
      match outcome with
      | .error e => pure (some (⟨[], name, some type⟩, e))
      | .ok _ => rest) >>= fun failure => pure (conclude found failure) := by
  rw [bind_bind]
  funext start
  apply bind_of_same
  intro t outcome ended
  cases outcome with
  | error e => exact congrFun (done_bind _ _).symm t
  | ok answers =>
    obtain ⟨_, rfl⟩ := (Records.query_returns_iff same).mp ⟨t, ended⟩
    exact congrFun alike t

theorem walk_goes_through (same : ∀ t, names.records t = records) (levels : Nat) (name : String) :
    r.walk names .never levels name =
      (through r names (records.events r.timeout levels name) >>= fun failure =>
        pure (conclude (records.treeAddresses r.timeout (records.unfolded r.timeout levels name))
          failure)) := by
  -- On the levels: the name's own questions come first, and then each alias goes through the events
  -- behind it with one level less.
  induction levels generalizing name with
  | zero =>
    rw [walk, Records.events, through, attempt, done_bind]
    exact (done_bind _ _).symm
  | succ levels ih =>
    rw [walk, Records.events, Event.questions]
    simp only [List.cons_append, List.nil_append, through_question]
    refine question_comes_first same ?_
    refine question_comes_first same ?_
    refine question_comes_first same ?_
    have aliased := follow_goes_through ih (records.aliases r.timeout name)
    rw [Records.unfolded, Records.tree_addresses_of_node, List.flatMap_map]
    change (follow (walk r names .never levels) (records.aliases r.timeout name) >>= _) = _
    rw [aliased, bind_bind]
    congr 1
    funext failure
    rw [done_bind]
    cases failure with
    | some failure => rfl
    | none =>
      simp only [conclude, List.filterMap_append]
      rfl

section Outcomes

variable (same : ∀ t, names.records t = records)
include same

theorem query_ending (name : String) (type : RecordType) (start : Nat) :
    (query r names .never name type start).ending =
      match records name type with
      | .answer delay outcome =>
        if delay ≤ r.timeout then .returned (start + delay) outcome
        else .returned (start + r.timeout) (.error .timeout)
      | .crash delay reason =>
        if delay ≤ r.timeout then .crashed (start + delay) reason
        else .returned (start + r.timeout) (.error .timeout)
      | .silence => .returned (start + r.timeout) (.error .timeout) := by
  have asked : (request .never (some r.timeout) (Call.recordQuery type name r.server)
      (fun t => names.records t name type) start).ending =
        ((records name type).ending start).within (some (start + r.timeout)) .timedOut := by
    rw [← same start]
    rfl
  unfold query
  rw [ask_of_never, ending_of_bind, asked]
  cases records name type with
  | answer delay outcome =>
    by_cases inTime : delay ≤ r.timeout
    · simp [Reply.ending, Ending.within, Ending.instant?, inTime]
      rfl
    · simp [Reply.ending, Ending.within, Ending.instant?, inTime]
      rfl
  | crash delay reason =>
    by_cases inTime : delay ≤ r.timeout
    · simp [Reply.ending, Ending.within, Ending.instant?, inTime]
    · simp [Reply.ending, Ending.within, Ending.instant?, inTime]
      rfl
  | silence => rfl

theorem query_fails_iff {event : Event} {type : RecordType} (asked : event.asked = some type)
    {start : Nat} {e : DnsError} :
    Returns (query r names .never event.name type) start (.error e) ↔
      records.Fails r.timeout r.maxDepth event e := by
  unfold Returns
  rw [query_ending same]
  constructor
  · rintro ⟨t, ended⟩
    have late (delayed : ∀ delay, (records event.name type).delay? = some delay →
        r.timeout < delay) : records.Fails r.timeout r.maxDepth event .timeout :=
      .late asked delayed
    cases reply : records event.name type with
    | answer delay outcome =>
      simp only [reply, Reply.delay?, Option.some.injEq, forall_eq'] at ended late
      by_cases inTime : delay ≤ r.timeout
      · rw [if_pos inTime] at ended
        cases ended
        exact .refused asked reply inTime
      · rw [if_neg inTime] at ended
        cases ended
        exact late (Nat.not_le.mp inTime)
    | crash delay reason =>
      simp only [reply, Reply.delay?, Option.some.injEq, forall_eq'] at ended late
      by_cases inTime : delay ≤ r.timeout
      · rw [if_pos inTime] at ended
        cases ended
      · rw [if_neg inTime] at ended
        cases ended
        exact late (Nat.not_le.mp inTime)
    | silence =>
      rw [reply] at ended late
      cases ended
      exact late nofun
  · intro failed
    cases failed with
    | tooDeep unasked => cases unasked.symm.trans asked
    | refused asked' reply inTime =>
      cases asked.symm.trans asked'
      rw [reply]
      exact ⟨_, if_pos inTime⟩
    | late asked' delayed =>
      cases asked.symm.trans asked'
      refine ⟨start + r.timeout, ?_⟩
      cases reply : records event.name type with
      | answer delay outcome =>
        exact if_neg (Nat.not_le.mpr (delayed delay (by rw [reply]; rfl)))
      | crash delay reason =>
        exact if_neg (Nat.not_le.mpr (delayed delay (by rw [reply]; rfl)))
      | silence => rfl

variable {event : Event} {events front : List Event} {start t : Nat} {e : DnsError}

theorem attempt_passes_iff :
    Returns (attempt r names event) start none ↔ records.Passes r.timeout event := by
  unfold attempt Records.Passes
  cases event.asked with
  | none =>
    dsimp only
    rw [returns_pure_iff]
    simp
  | some type =>
    dsimp only
    rw [returns_bind_iff, Option.bind_some]
    constructor
    · rintro ⟨u, e | answers, ended, rest⟩
      · cases returns_pure_iff.mp rest
      · exact ((Records.query_returns_iff same).mp ⟨u, ended⟩).1
    · intro answered
      obtain ⟨u, ended⟩ := (Records.query_returns_iff same).mpr ⟨answered, rfl⟩
      exact ⟨u, _, ended, returns_pure_iff.mpr rfl⟩

theorem attempt_fails_iff :
    Returns (attempt r names event) start (some e) ↔
      records.Fails r.timeout r.maxDepth event e := by
  unfold attempt
  cases asked : event.asked with
  | none =>
    dsimp only
    rw [returns_pure_iff]
    constructor
    · intro deep
      cases deep
      exact .tooDeep asked
    · intro failed
      cases failed with
      | tooDeep => rfl
      | refused asked' => cases asked.symm.trans asked'
      | late asked' => cases asked.symm.trans asked'
  | some type =>
    dsimp only
    rw [returns_bind_iff, ← query_fails_iff same asked]
    constructor
    · rintro ⟨u, e | answers, ended, rest⟩
      · cases returns_pure_iff.mp rest
        exact ⟨u, ended⟩
      · cases returns_pure_iff.mp rest
    · rintro ⟨u, ended⟩
      exact ⟨u, _, ended, returns_pure_iff.mpr rfl⟩

omit same in
theorem calls_of_attempt (event : Event) (start : Nat) :
    (attempt r names event start).calls.map Prod.snd = (event.call? r.server).toList := by
  unfold attempt Event.call?
  cases event.asked with
  | none => rfl
  | some type =>
    dsimp only
    rw [calls_of_bind_pure]
    unfold query
    rw [calls_of_bind_pure, ask_of_never]
    rfl

theorem through_passes (each : ∀ event ∈ events, records.Passes r.timeout event) (start : Nat) :
    ∃ t, (through r names events start).ending = .returned t none ∧
      (through r names events start).calls.map Prod.snd =
        events.filterMap (Event.call? r.server) := by
  induction events generalizing start with
  | nil => exact ⟨start, rfl, rfl⟩
  | cons event rest ih =>
    obtain ⟨u, passed⟩ := (attempt_passes_iff same).mpr (each event List.mem_cons_self)
    obtain ⟨t, ended, log⟩ := ih (fun e later => each e (List.mem_cons_of_mem _ later)) u
    refine ⟨t, ?_, ?_⟩
    · rw [through, bind_of_returned passed]
      exact ended
    · rw [through, bind_of_returned passed]
      dsimp only
      rw [List.map_append, calls_of_attempt, log, List.filterMap_cons]
      cases event.call? r.server <;> rfl

theorem through_fails {failing : Event}
    (first : records.FirstFailure r.timeout r.maxDepth events front failing e) (start : Nat) :
    ∃ t, (through r names events start).ending = .returned t (some (failing, e)) ∧
      (through r names events start).calls.map Prod.snd =
        (front ++ [failing]).filterMap (Event.call? r.server) := by
  obtain ⟨back, rfl⟩ := first.among
  obtain ⟨u, passed, log⟩ := through_passes same first.passed start
  obtain ⟨t, failed⟩ := (attempt_fails_iff same).mpr first.failed
  refine ⟨t, ?_, ?_⟩
  · rw [through_append, bind_of_returned passed]
    dsimp only
    rw [through, bind_of_returned failed]
    rfl
  · rw [through_append, bind_of_returned passed]
    dsimp only
    rw [through, bind_of_returned failed, List.map_append, List.filterMap_append, log,
      List.map_append, calls_of_attempt, List.filterMap_cons]
    cases failing.call? r.server <;> rfl

theorem through_returned {outcome : Option (Event × DnsError)}
    (returned : Returns (through r names events) start outcome) :
    (outcome = none ∧ ∀ event ∈ events, records.Passes r.timeout event) ∨
      ∃ front failing e, outcome = some (failing, e) ∧
        records.FirstFailure r.timeout r.maxDepth events front failing e := by
  induction events generalizing start with
  | nil =>
    left
    exact ⟨returns_pure_iff.mp returned, fun _ member => by cases member⟩
  | cons event rest ih =>
    obtain ⟨u, failure, ended, later⟩ := returns_bind_iff.mp returned
    cases failure with
    | some e =>
      right
      cases returns_pure_iff.mp later
      refine ⟨[], event, e, rfl, ⟨rest, rfl⟩, ?_, (attempt_fails_iff same).mp ⟨u, ended⟩⟩
      intro event member
      cases member
    | none =>
      have passes := (attempt_passes_iff same).mp ⟨u, ended⟩
      rcases ih later with ⟨none, all⟩ | ⟨front, failing, e, some, ⟨back, split⟩, passed, failed⟩
      · exact Or.inl ⟨none, List.forall_mem_cons.mpr ⟨passes, all⟩⟩
      · refine Or.inr ⟨event :: front, failing, e, some, ⟨back, ?_⟩, ?_, failed⟩
        · rw [split, List.cons_append]
        · exact List.forall_mem_cons.mpr ⟨passes, passed⟩

section Walks

variable {levels : Nat} {name : String} {ips : List Ip}

theorem walk_passes_iff :
    Returns (r.walk names .never levels name) start (.ok ips) ↔
      (∀ event ∈ records.events r.timeout levels name, records.Passes r.timeout event) ∧
      ips = records.treeAddresses r.timeout (records.unfolded r.timeout levels name) := by
  rw [walk_goes_through same, returns_bind_iff]
  constructor
  · rintro ⟨u, outcome, ended, rest⟩
    rcases through_returned same ⟨u, ended⟩ with ⟨rfl, all⟩ | ⟨_, failing, e, rfl, _⟩
    · cases returns_pure_iff.mp rest
      exact ⟨all, rfl⟩
    · cases returns_pure_iff.mp rest
  · rintro ⟨all, rfl⟩
    obtain ⟨u, ended, _⟩ := through_passes same all start
    exact ⟨u, none, ended, returns_pure_iff.mpr rfl⟩

theorem walk_fails_iff :
    Returns (r.walk names .never levels name) start (.error e) ↔
      ∃ front failing source, records.FirstFailure r.timeout r.maxDepth
          (records.events r.timeout levels name) front failing source ∧
        e = source.wrapped failing.path := by
  rw [walk_goes_through same, returns_bind_iff]
  constructor
  · rintro ⟨u, outcome, ended, rest⟩
    rcases through_returned same ⟨u, ended⟩ with ⟨rfl, _⟩ | ⟨front, failing, source, rfl, first⟩
    · cases returns_pure_iff.mp rest
    · cases returns_pure_iff.mp rest
      exact ⟨front, failing, source, first, rfl⟩
  · rintro ⟨front, failing, source, first, rfl⟩
    obtain ⟨u, ended, _⟩ := through_fails same first start
    exact ⟨u, _, ended, returns_pure_iff.mpr rfl⟩

theorem calls_of_walk (levels : Nat) (name : String) (start : Nat) :
    (r.walk names .never levels name start).calls =
      (through r names (records.events r.timeout levels name) start).calls := by
  rw [walk_goes_through same]
  exact calls_of_bind_pure _ _ start

end Walks

end Outcomes

theorem calls_of_lookup {token : Token} {host : String} (named : Ip.read host = none)
    (start : Nat) : (r.lookup names token host start).calls =
      (r.walk names token (r.maxDepth + 1) host start).calls := by
  unfold lookup
  rw [named]
  apply calls_of_quiet_bind
  rintro (e | _ | ⟨ip, more⟩) t
  all_goals rfl

end Resolver
end Dns
end HostHealth
