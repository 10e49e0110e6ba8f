import HostHealth.Proofs.LookupEvents

/- Why a lookup fails. If it is not for want of an address, it is the first event of its walk that
   fails, and the error tells the way there: it is wrapped in just the aliases that lead from the
   host to the name of that event, the first one outermost. -/
namespace HostHealth.Dns

open Net Timed

namespace DnsError

def targets : DnsError → List String
  | .behindAlias target source => target :: source.targets
  | _ => []

theorem root_of_wrapped (path : List String) (error : DnsError) :
    (error.wrapped path).root = error.root := by
  induction path with
  | nil => rfl
  | cons via rest ih => exact ih

theorem targets_of_wrapped (path : List String) (error : DnsError) :
    (error.wrapped path).targets = path ++ error.targets := by
  induction path with
  | nil => rfl
  | cons via rest ih => exact congrArg (via :: ·) ih

theorem root_is_bare (error : DnsError) (target : String) (source : DnsError) :
    error.root ≠ .behindAlias target source := by
  induction error with
  | behindAlias _ _ ih => exact ih
  | notFound | depthExceeded | timeout | canceled | invalidName | query | system => nofun

end DnsError

namespace Records

variable {records : Records} {timeout levels : Nat} {name : String} {event : Event}

inductive Leads (records : Records) (timeout : Nat) : String → List String → String → Prop
  | here (name : String) : Leads records timeout name [] name
  | behind {name via target : String} {path : List String} :
    via ∈ records.aliases timeout name → Leads records timeout via path target →
    Leads records timeout name (via :: path) target

theorem event_leads (member : event ∈ records.events timeout levels name) :
    records.Leads timeout name event.path event.name := by
  induction levels generalizing name event with
  | zero =>
    cases List.mem_singleton.mp member
    exact .here name
  | succ levels ih =>
    rcases mem_events_iff.mp member with own | ⟨via, listed, later, there, rfl⟩
    · obtain ⟨type, rfl⟩ := mem_questions_iff.mp own
      exact .here name
    · exact .behind listed (ih there)

theorem depth_of_event (member : event ∈ records.events timeout levels name) :
    event.path.length ≤ levels ∧ (event.asked = none ↔ event.path.length = levels) := by
  induction levels generalizing name event with
  | zero =>
    cases List.mem_singleton.mp member
    exact ⟨Nat.le_refl _, iff_of_true rfl rfl⟩
  | succ levels ih =>
    rcases mem_events_iff.mp member with own | ⟨via, _, later, there, rfl⟩
    · obtain ⟨type, rfl⟩ := mem_questions_iff.mp own
      exact ⟨Nat.zero_le _, iff_of_false nofun (by simp)⟩
    · obtain ⟨bound, deep⟩ := ih there
      have length : (later.behind via).path.length = later.path.length + 1 := rfl
      rw [length, Nat.add_right_cancel_iff]
      exact ⟨Nat.succ_le_succ bound, deep⟩

theorem too_deep_of_unasked {maxDepth : Nat} {error : DnsError}
    (failed : records.Fails timeout maxDepth event error) (unasked : event.asked = none) :
    error = .depthExceeded maxDepth := by
  cases failed with
  | tooDeep => rfl
  | refused asked => cases unasked.symm.trans asked
  | late asked => cases unasked.symm.trans asked

theorem failing_among {maxDepth : Nat} {events front : List Event} {error : DnsError}
    (first : records.FirstFailure timeout maxDepth events front event error) :
    event ∈ events := by
  obtain ⟨back, rfl⟩ := first.among
  exact List.mem_append_right _ List.mem_cons_self

end Records

namespace Resolver

theorem walk_finds_nothing_iff {r : Resolver} {names : NameService} {records : Records}
    {name : String} {start : Nat} (same : ∀ t, names.records t = records) :
    Returns (r.walk names .never (r.maxDepth + 1) name) start (.ok []) ↔
      (∀ event ∈ records.events r.timeout (r.maxDepth + 1) name,
        records.Passes r.timeout event) ∧
      ∃ tree, tree.name = name ∧ records.Unfolds r.timeout tree ∧
        records.treeAddresses r.timeout tree = [] := by
  constructor
  · intro walked
    obtain ⟨_, _, tree, root, unfolds, empty⟩ := (Records.walk_returns_tree_iff same).mp walked
    exact ⟨((walk_passes_iff same).mp walked).1, tree, root, unfolds, empty.symm⟩
  · rintro ⟨all, tree, root, unfolds, empty⟩
    -- The walk comes back with the addresses of the tree that it unfolds, and there is just one.
    have walked : Returns (r.walk names .never (r.maxDepth + 1) name) start (.ok _) :=
      (walk_passes_iff same).mpr ⟨all, rfl⟩
    obtain ⟨_, _, other, root', unfolds', found⟩ := (Records.walk_returns_tree_iff same).mp walked
    cases Records.unfolds_unique unfolds unfolds' (root.trans root'.symm)
    rw [found, empty] at walked
    exact walked

/-- Why a direct lookup fails: the tree has no address, or an event of the walk fails, the first one
    that does. The error is that of this event, in one layer for each alias on the path to its name.
    What the walk had found before is lost, and nothing is asked afterwards. -/
theorem lookup_fails_at_first_event (r : Resolver) (records : Records)
    (system : Nat → String → Reply (Except DnsError (List Ip))) (host : String) (start : Nat)
    (named : Ip.read host = none) :
    let lookup := r.lookup (records.service system) .never host
    let events := records.events r.timeout (r.maxDepth + 1) host
    (∀ e, Returns lookup start (.error e) ↔
      (e = .notFound ∧ (∀ event ∈ events, records.Passes r.timeout event) ∧
        ∃ tree, tree.name = host ∧ records.Unfolds r.timeout tree ∧
          records.treeAddresses r.timeout tree = []) ∨
      ∃ front failing source,
        records.FirstFailure r.timeout r.maxDepth events front failing source ∧
          e = source.wrapped failing.path) ∧
    ∀ front failing source,
      records.FirstFailure r.timeout r.maxDepth events front failing source →
        let e := source.wrapped failing.path
        (lookup start).calls.map Prod.snd =
          (front ++ [failing]).filterMap (Event.call? r.server) ∧
        records.Leads r.timeout host failing.path failing.name ∧
        e.targets = failing.path ++ source.targets ∧
        e.root = source.root ∧ (∀ target inner, e.root ≠ .behindAlias target inner) ∧
        failing.path.length ≤ r.maxDepth + 1 ∧
        (failing.asked = none ↔ failing.path.length = r.maxDepth + 1) ∧
        (failing.asked = none →
          source = .depthExceeded r.maxDepth ∧ e.targets.length = r.maxDepth + 1) := by
  intro lookup events
  have same : ∀ t, (records.service system).records t = records := fun _ => rfl
  constructor
  · intro e
    rw [lookup_fails_iff named, walk_fails_iff same, walk_finds_nothing_iff same]
  · intro front failing source first e
    have member : failing ∈ events := Records.failing_among first
    obtain ⟨bound, deep⟩ := Records.depth_of_event member
    obtain ⟨_, _, log⟩ := through_fails same first start
    have layers := DnsError.targets_of_wrapped failing.path source
    refine ⟨?_, Records.event_leads member, layers, DnsError.root_of_wrapped _ _,
      DnsError.root_is_bare e, bound, deep, ?_⟩
    · rw [calls_of_lookup named, calls_of_walk same, log]
    · intro unasked
      have tooDeep := Records.too_deep_of_unasked first.failed unasked
      refine ⟨tooDeep, ?_⟩
      rw [layers, tooDeep, ← deep.mp unasked]
      simp [DnsError.targets]

def broken : Records
  | "www.example", .a => .answer 2 (.ok [.ip (.v4 ⟨192, 0, 2, 1⟩)])
  | "www.example", .cname => .answer 1 (.ok [.alias "cdn.example", .alias "dead.example"])
  | "dead.example", .aaaa => .silence
  | "ring.example", .cname => .answer 0 (.ok [.alias "ring.example"])
  | _, _ => .answer 0 (.ok [])

theorem failures_of_broken :
    let names := broken.service fun _ _ => .silence
    let asked (host : String) : List Call :=
      (standard.lookup names .never host 0).calls.map Prod.snd
    let all (name : String) : List Call :=
      [.recordQuery .a name standard.server, .recordQuery .aaaa name standard.server,
        .recordQuery .cname name standard.server]
    Ip.read "www.example" = none ∧ Ip.read "ring.example" = none ∧
    Returns (standard.lookup names .never "www.example") 0
      (.error (.behindAlias "dead.example" .timeout)) ∧
    asked "www.example" = all "www.example" ++ all "cdn.example" ++ (all "dead.example").take 2 ∧
    Returns (standard.lookup names .never "ring.example") 0
      (.error ((DnsError.depthExceeded 3).wrapped (List.replicate 4 "ring.example"))) ∧
    asked "ring.example" = (List.replicate 4 (all "ring.example")).flatten := by
  intro names asked all
  let front : List Event := Event.questions "www.example" ++
    (Event.questions "cdn.example").map (Event.behind "cdn.example") ++
      [⟨["dead.example"], "dead.example", some .a⟩]
  have dead : broken.FirstFailure standard.timeout standard.maxDepth
      (broken.events standard.timeout (standard.maxDepth + 1) "www.example") front
      ⟨["dead.example"], "dead.example", some .aaaa⟩ .timeout :=
    ⟨⟨[⟨["dead.example"], "dead.example", some .cname⟩], by rfl⟩, by decide, .late rfl nofun⟩
  let rounds : List Event := (broken.events standard.timeout 4 "ring.example").take 12
  have ring : broken.FirstFailure standard.timeout standard.maxDepth
      (broken.events standard.timeout (standard.maxDepth + 1) "ring.example") rounds
      ⟨List.replicate 4 "ring.example", "ring.example", none⟩ (.depthExceeded 3) :=
    ⟨⟨[], by rfl⟩, by decide, .tooDeep rfl⟩
  have deadLookup := lookup_fails_at_first_event standard broken (fun _ _ => .silence)
    "www.example" 0 (by decide)
  have ringLookup := lookup_fails_at_first_event standard broken (fun _ _ => .silence)
    "ring.example" 0 (by decide)
  exact ⟨by decide, by decide, (deadLookup.1 _).mpr (Or.inr ⟨_, _, _, dead, rfl⟩),
    (deadLookup.2 _ _ _ dead).1, (ringLookup.1 _).mpr (Or.inr ⟨_, _, _, ring, rfl⟩),
    (ringLookup.2 _ _ _ ring).1⟩

end Resolver
end HostHealth.Dns
