import HostHealth.Proofs.Lookups

/- Direct lookups against the alias tree of a host name, which repeats a name once for every path of
   aliases that leads to it. Only a name server that gives the same answers at all times has such a
   tree. -/
namespace HostHealth.Dns

open Net Timed

abbrev Records := String → RecordType → Reply (Except DnsError (List Answer))

/-- A name, and what is behind each of its aliases in order. -/
inductive AliasTree
  | node (name : String) (behind : List AliasTree)

namespace AliasTree

def name : AliasTree → String
  | .node name _ => name

mutual

def preorder : AliasTree → List String
  | .node name behind => name :: preorders behind

def preorders : List AliasTree → List String
  | [] => []
  | tree :: rest => preorder tree ++ preorders rest

end

theorem preorders_eq_flat_map (trees : List AliasTree) :
    preorders trees = trees.flatMap preorder := by
  induction trees with
  | nil => rfl
  | cons tree rest ih => rw [preorders, ih, List.flatMap_cons]

end AliasTree

namespace Records

variable (records : Records) (timeout : Nat)

def service (system : Nat → String → Reply (Except DnsError (List Ip))) : NameService :=
  { system := system, records := fun _ => records }

def answers? (name : String) (type : RecordType) : Option (List Answer) :=
  match records name type with
  | .answer delay (.ok answers) => if delay ≤ timeout then some answers else none
  | _ => none

def Answered (name : String) : Prop :=
  ∀ type, (records.answers? timeout name type).isSome

def answers (name : String) (type : RecordType) : List Answer :=
  (records.answers? timeout name type).getD []

def addresses (name : String) : List Ip :=
  (records.answers timeout name .a).filterMap Answer.ip? ++
    (records.answers timeout name .aaaa).filterMap Answer.ip?

def aliases (name : String) : List String :=
  (records.answers timeout name .cname).filterMap Answer.alias?

/-- So many aliases lead from the first name to the second. -/
inductive Reaches : String → Nat → String → Prop
  | here (name : String) : Reaches name 0 name
  | behind {name via target : String} {steps : Nat} :
    via ∈ records.aliases timeout name → Reaches via steps target →
    Reaches name (steps + 1) target

def Shallow (depth : Nat) (name : String) : Prop :=
  ∀ steps target, records.Reaches timeout name steps target → steps ≤ depth

def AnsweredThroughout (name : String) : Prop :=
  ∀ steps target, records.Reaches timeout name steps target → records.Answered timeout target

/-- A tree all of whose nodes stand before exactly the aliases of their names. -/
inductive Unfolds : AliasTree → Prop
  | node {name : String} {behind : List AliasTree} :
    behind.map AliasTree.name = records.aliases timeout name →
    (∀ tree ∈ behind, Unfolds tree) → Unfolds (.node name behind)

def unfolded : Nat → String → AliasTree
  | 0, name => .node name []
  | depth + 1, name => .node name ((records.aliases timeout name).map (unfolded depth))

def treeAddresses (tree : AliasTree) : List Ip :=
  tree.preorder.flatMap (records.addresses timeout)

variable {records : Records} {timeout : Nat}

theorem name_of_unfolded (depth : Nat) (name : String) :
    (records.unfolded timeout depth name).name = name := by
  cases depth <;> rfl

theorem tree_addresses_of_node (name : String) (behind : List AliasTree) :
    records.treeAddresses timeout (.node name behind) =
      records.addresses timeout name ++ behind.flatMap (records.treeAddresses timeout) := by
  unfold treeAddresses
  rw [AliasTree.preorder, List.flatMap_cons, AliasTree.preorders_eq_flat_map,
    List.flatMap_assoc]

theorem all_reached_iff {holds : Nat → String → Prop} {name : String} :
    (∀ steps target, records.Reaches timeout name steps target → holds steps target) ↔
      holds 0 name ∧ ∀ via ∈ records.aliases timeout name, ∀ steps target,
        records.Reaches timeout via steps target → holds (steps + 1) target := by
  constructor
  · intro all
    refine ⟨all 0 name (.here name), ?_⟩
    intro via member steps target path
    exact all (steps + 1) target (.behind member path)
  · rintro ⟨own, further⟩ steps target path
    cases path with
    | here => exact own
    | behind member rest => exact further _ member _ _ rest

theorem reaches_trans {first second third : String} {m n : Nat}
    (path : records.Reaches timeout first m second)
    (onward : records.Reaches timeout second n third) :
    records.Reaches timeout first (m + n) third := by
  induction path with
  | here name =>
    rw [Nat.zero_add]
    exact onward
  | behind member _ ih =>
    rw [Nat.succ_add_eq_add_succ]
    exact .behind member (ih onward)

theorem reaches_around {name : String} {steps : Nat}
    (circle : records.Reaches timeout name (steps + 1) name) (times : Nat) :
    ∃ far, times ≤ far ∧ records.Reaches timeout name far name := by
  induction times with
  | zero => exact ⟨0, Nat.le_refl 0, .here name⟩
  | succ times ih =>
    obtain ⟨far, bound, path⟩ := ih
    exact ⟨steps + 1 + far, by omega, reaches_trans circle path⟩

theorem circle_leads_too_far {host name : String} {steps around : Nat} (depth : Nat)
    (path : records.Reaches timeout host steps name)
    (circle : records.Reaches timeout name (around + 1) name) :
    ¬ records.Shallow timeout depth host := by
  intro shallow
  obtain ⟨far, bound, rounds⟩ := reaches_around circle (depth + 1)
  have := shallow (steps + far) name (reaches_trans path rounds)
  omega

theorem unfolded_unfolds {depth : Nat} {name : String}
    (shallow : records.Shallow timeout depth name) :
    records.Unfolds timeout (records.unfolded timeout depth name) := by
  induction depth generalizing name with
  | zero =>
    have unaliased : records.aliases timeout name = [] := by
      rw [List.eq_nil_iff_forall_not_mem]
      intro via member
      have := shallow 1 via (.behind member (.here via))
      omega
    refine .node ?_ (by simp)
    rw [unaliased, List.map_nil]
  | succ depth ih =>
    refine .node ?_ ?_
    · rw [List.map_map]
      exact List.map_id'' (name_of_unfolded depth) _
    · intro tree member
      obtain ⟨via, listed, rfl⟩ := List.mem_map.mp member
      refine ih ?_
      intro steps target path
      exact Nat.le_of_succ_le_succ (shallow (steps + 1) target (.behind listed path))

theorem trees_unique {trees others : List AliasTree}
    (unique : ∀ tree ∈ trees, ∀ other, records.Unfolds timeout other →
      tree.name = other.name → tree = other)
    (unfold : ∀ other ∈ others, records.Unfolds timeout other)
    (same : trees.map AliasTree.name = others.map AliasTree.name) : trees = others := by
  induction trees generalizing others with
  | nil => exact (List.map_eq_nil_iff.mp same.symm).symm
  | cons tree rest ih =>
    cases others with
    | nil => cases same
    | cons other others =>
      rw [List.map_cons, List.map_cons, List.cons.injEq] at same
      obtain ⟨here, later⟩ := same
      have first := unique tree List.mem_cons_self other (unfold other List.mem_cons_self) here
      have tails := ih (fun t member => unique t (List.mem_cons_of_mem _ member))
        (fun o member => unfold o (List.mem_cons_of_mem _ member)) later
      rw [first, tails]

theorem unfolds_unique {tree other : AliasTree} (unfolds : records.Unfolds timeout tree)
    (also : records.Unfolds timeout other) (same : tree.name = other.name) :
    tree = other := by
  -- On how the first tree unfolds: the second has the same aliases behind the same name.
  induction unfolds generalizing other with
  | @node name behind listed _ ih =>
    cases also with
    | @node name' behind' listed' unfold =>
      have names : name = name' := same
      subst names
      have trees := trees_unique (fun tree member other => @ih tree member other) unfold
        (listed.trans listed'.symm)
      rw [trees]

theorem answers_in_time_iff {name : String} {type : RecordType} {found : List Answer} :
    (∃ delay, records name type = .answer delay (.ok found) ∧ delay ≤ timeout) ↔
      (records.answers? timeout name type).isSome ∧
        found = records.answers timeout name type := by
  unfold answers answers?
  rcases records name type with ⟨delay, e | given⟩ | ⟨delay, reason⟩ | _
  · simp
  · by_cases inTime : delay ≤ timeout
    · simp [inTime, eq_comm]
    · simp only [inTime, if_false, Option.isSome_none]
      constructor
      · rintro ⟨d, same, bound⟩
        cases same
        exact absurd bound inTime
      · rintro ⟨none, _⟩
        cases none
  · simp
  · simp

theorem query_returns_iff {r : Resolver} {names : NameService} {start : Nat} {name : String}
    {type : RecordType} {found : List Answer} (same : ∀ t, names.records t = records) :
    Returns (r.query names .never name type) start (.ok found) ↔
      (records.answers? r.timeout name type).isSome ∧
        found = records.answers r.timeout name type := by
  rw [← answers_in_time_iff, ← same start]
  have asked := @answered_in_time_iff _ _ (Call.recordQuery type name r.server)
    (fun t => names.records t name type) r.timeout start (.ok found)
  rw [← asked]
  unfold Resolver.query
  rw [Resolver.ask_of_never, returns_bind_iff]
  constructor
  · rintro ⟨u, response, ended, rest⟩
    have outcome := returns_pure_iff.mp rest
    rcases response with result | _ | _
    · cases outcome
      exact ⟨u, ended⟩
    · cases outcome
    · cases outcome
  · rintro ⟨u, ended⟩
    exact ⟨u, _, ended, returns_pure_iff.mpr rfl⟩

theorem follow_returns_iff {walk : String → Lookup} {comes : String → Prop}
    {found : String → List Ip}
    (settled : ∀ name u ips, Returns (walk name) u (.ok ips) ↔ comes name ∧ ips = found name)
    {targets : List String} {start : Nat} {ips : List Ip} :
    Returns (Resolver.follow walk targets) start (.ok ips) ↔
      (∀ target ∈ targets, comes target) ∧ ips = targets.flatMap found := by
  induction targets generalizing start ips with
  | nil =>
    rw [Resolver.follow, returns_pure_iff]
    simp
  | cons target rest ih =>
    rw [Resolver.follow, List.forall_mem_cons, and_assoc, List.flatMap_cons]
    refine returns_after_ok_iff (fun _ _ => not_returns_ok_of_error) (settled target start) ?_
    intro u
    refine returns_after_ok_iff (fun _ _ => not_returns_ok_of_error) (fun more => ih) ?_
    intro v
    rw [returns_pure_iff, Except.ok.injEq]

theorem answered_iff {name : String} :
    records.Answered timeout name ↔ (records.answers? timeout name .a).isSome ∧
      (records.answers? timeout name .aaaa).isSome ∧
      (records.answers? timeout name .cname).isSome := by
  constructor
  · intro all
    exact ⟨all .a, all .aaaa, all .cname⟩
  · rintro ⟨a, aaaa, cname⟩ (_ | _ | _)
    · exact a
    · exact aaaa
    · exact cname

theorem walk_returns_iff {r : Resolver} {names : NameService} {levels start : Nat}
    {name : String} {ips : List Ip} (same : ∀ t, names.records t = records) :
    Returns (r.walk names .never levels name) start (.ok ips) ↔
      (∀ steps target, records.Reaches r.timeout name steps target →
        steps < levels ∧ records.Answered r.timeout target) ∧
      ips = records.treeAddresses r.timeout (records.unfolded r.timeout levels name) := by
  -- Each alias costs the walk a level and the path a step, so the bound stays exact.
  induction levels generalizing start name ips with
  | zero =>
    rw [Resolver.walk]
    constructor
    · intro returned
      exact absurd returned not_returns_ok_of_error
    · rintro ⟨shallow, _⟩
      have := (shallow 0 name (.here name)).1
      omega
  | succ levels ih =>
    have split : (∀ steps target, records.Reaches r.timeout name steps target →
          steps < levels + 1 ∧ records.Answered r.timeout target) ↔
        records.Answered r.timeout name ∧ ∀ via ∈ records.aliases r.timeout name,
          ∀ steps target, records.Reaches r.timeout via steps target →
            steps < levels ∧ records.Answered r.timeout target := by
      rw [all_reached_iff]
      simp
    -- The four parts of the walk, each with the one value that it can come back with.
    rw [split, answered_iff, unfolded, tree_addresses_of_node, List.flatMap_map, Resolver.walk,
      and_assoc, and_assoc, and_assoc]
    refine returns_after_ok_iff (fun _ _ => not_returns_ok_of_error)
      (fun found => query_returns_iff same) ?_
    intro afterA
    refine returns_after_ok_iff (fun _ _ => not_returns_ok_of_error)
      (fun found => query_returns_iff same) ?_
    intro afterAaaa
    refine returns_after_ok_iff (fun _ _ => not_returns_ok_of_error)
      (fun found => query_returns_iff same) ?_
    intro afterCname
    refine returns_after_ok_iff (fun _ _ => not_returns_ok_of_error)
      (fun behind => follow_returns_iff (fun _ _ _ => ih)) ?_
    intro afterAliases
    rw [returns_pure_iff, Except.ok.injEq, List.filterMap_append]
    rfl

theorem walk_returns_tree_iff {r : Resolver} {names : NameService} {start : Nat}
    {name : String} {ips : List Ip} (same : ∀ t, names.records t = records) :
    Returns (r.walk names .never (r.maxDepth + 1) name) start (.ok ips) ↔
      records.Shallow r.timeout r.maxDepth name ∧ records.AnsweredThroughout r.timeout name ∧
      ∃ tree, tree.name = name ∧ records.Unfolds r.timeout tree ∧
        ips = records.treeAddresses r.timeout tree := by
  rw [walk_returns_iff same]
  constructor
  · rintro ⟨reached, rfl⟩
    have shallow : records.Shallow r.timeout r.maxDepth name :=
      fun steps target path => Nat.le_of_lt_succ (reached steps target path).1
    have deeper : records.Shallow r.timeout (r.maxDepth + 1) name :=
      fun steps target path => Nat.le_succ_of_le (shallow steps target path)
    exact ⟨shallow, fun steps target path => (reached steps target path).2, _,
      name_of_unfolded _ _, unfolded_unfolds deeper, rfl⟩
  · rintro ⟨shallow, answered, tree, rfl, unfolds, rfl⟩
    have deeper : records.Shallow r.timeout (r.maxDepth + 1) tree.name :=
      fun steps target path => Nat.le_succ_of_le (shallow steps target path)
    have only := unfolds_unique unfolds (unfolded_unfolds deeper) (name_of_unfolded _ _).symm
    refine ⟨?_, congrArg (records.treeAddresses r.timeout) only⟩
    intro steps target path
    exact ⟨Nat.lt_succ_of_le (shallow steps target path), answered steps target path⟩

end Records

namespace Resolver

/-- A direct lookup comes through exactly when the alias tree does, with the addresses of the
    tree. No circle of aliases comes through, and a tree without an address is not found. -/
theorem lookup_follows_alias_tree (r : Resolver) (records : Records)
    (system : Nat → String → Reply (Except DnsError (List Ip))) (host : String) (start : Nat)
    (named : Ip.read host = none) :
    (∀ ips, Returns (r.lookup (records.service system) .never host) start (.ok ips) ↔
      records.Shallow r.timeout r.maxDepth host ∧ records.AnsweredThroughout r.timeout host ∧
      (∃ tree, tree.name = host ∧ records.Unfolds r.timeout tree ∧
        ips = records.treeAddresses r.timeout tree) ∧
      ips ≠ []) ∧
    (∀ name steps around, records.Reaches r.timeout host steps name →
      records.Reaches r.timeout name (around + 1) name →
      ∀ ips, ¬ Returns (r.lookup (records.service system) .never host) start (.ok ips)) ∧
    (∀ tree, tree.name = host → records.Unfolds r.timeout tree →
      records.Shallow r.timeout r.maxDepth host → records.AnsweredThroughout r.timeout host →
      records.treeAddresses r.timeout tree = [] →
      Returns (r.lookup (records.service system) .never host) start (.error .notFound)) := by
  have same : ∀ t, (records.service system).records t = records := fun _ => rfl
  have comes_through : ∀ ips,
      Returns (r.lookup (records.service system) .never host) start (.ok ips) ↔
        records.Shallow r.timeout r.maxDepth host ∧ records.AnsweredThroughout r.timeout host ∧
        (∃ tree, tree.name = host ∧ records.Unfolds r.timeout tree ∧
          ips = records.treeAddresses r.timeout tree) ∧
        ips ≠ [] := by
    intro ips
    rw [lookup_returns_iff named, Records.walk_returns_tree_iff same, and_comm, and_assoc,
      and_assoc]
  refine ⟨comes_through, ?_, ?_⟩
  · intro name steps around path circle ips returned
    have shallow := ((comes_through ips).mp returned).1
    exact Records.circle_leads_too_far r.maxDepth path circle shallow
  · intro tree root unfolds shallow answered empty
    refine lookup_finds_nothing named ?_
    rw [Records.walk_returns_tree_iff same]
    exact ⟨shallow, answered, tree, root, unfolds, empty.symm⟩

def forked : Records
  | "www.example", .a => .answer 2 (.ok [.ip (.v4 ⟨192, 0, 2, 1⟩), .alias "stray.example"])
  | "www.example", .cname =>
    .answer 1 (.ok [.alias "cdn.example", .ip (.v4 ⟨192, 0, 2, 9⟩), .alias "cdn.example"])
  | "cdn.example", .aaaa => .answer 3 (.ok [.ip (.v4 ⟨192, 0, 2, 2⟩)])
  | "ring.example", .cname => .answer 0 (.ok [.alias "ring.example"])
  | _, _ => .answer 0 (.ok [])

theorem lookups_of_forked :
    let system : Nat → String → Reply (Except DnsError (List Ip)) := fun _ _ => .silence
    let names := forked.service system
    let found : List Ip := [.v4 ⟨192, 0, 2, 1⟩, .v4 ⟨192, 0, 2, 2⟩, .v4 ⟨192, 0, 2, 2⟩]
    Ip.read "www.example" = none ∧
    Returns (standard.lookup names .never "www.example") 0 (.ok found) ∧
    (∃ tree, tree.name = "www.example" ∧ forked.Unfolds standard.timeout tree ∧
      found = forked.treeAddresses standard.timeout tree) ∧
    (∀ ips, ¬ Returns (standard.lookup names .never "ring.example") 0 (.ok ips)) ∧
    Returns (standard.lookup names .never "bare.example") 0 (.error .notFound) := by
  intro system names found
  have came : Returns (standard.lookup names .never "www.example") 0 (.ok found) := ⟨9, rfl⟩
  have fork := lookup_follows_alias_tree standard forked system "www.example" 0 (by decide)
  have ring := lookup_follows_alias_tree standard forked system "ring.example" 0 (by decide)
  have bare := lookup_follows_alias_tree standard forked system "bare.example" 0 (by decide)
  refine ⟨by decide, came, ((fork.1 found).mp came).2.2.1, ?_, ?_⟩
  · exact ring.2.1 "ring.example" 0 0 (.here _) (.behind (by decide) (.here _))
  · have alone : ∀ steps target,
        forked.Reaches standard.timeout "bare.example" steps target →
          steps = 0 ∧ target = "bare.example" := by
      rw [Records.all_reached_iff]
      exact ⟨⟨rfl, rfl⟩, nofun⟩
    refine bare.2.2 (.node "bare.example" []) rfl (.node rfl nofun) ?_ ?_ rfl
    · intro steps target path
      rw [(alone steps target path).1]
      exact Nat.zero_le _
    · intro steps target path
      rw [(alone steps target path).2]
      rintro (_ | _ | _) <;> rfl

end Resolver
end HostHealth.Dns
