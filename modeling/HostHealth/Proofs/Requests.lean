import HostHealth.Inspector.HostTest
import HostHealth.Proofs.Courses

/- Lookups and probes are requests put together. A relation between two activities that composed
   ones inherit from their parts holds of two lookups, and of two probes, if it holds of each
   request that they make. So does a property of one activity, which is a relation to itself. -/
namespace HostHealth

open Net Timed

namespace Timed

variable {κ : Type}

/-- A property that composed activities inherit from their parts. -/
structure Inherited (P : (α : Type) → Timed κ α → Prop) : Prop where
  done : ∀ {α : Type} (value : α), P α (pure value)
  bind : ∀ {α β : Type} {first : Timed κ α} {next : α → Timed κ β},
    P α first → (∀ value, P β (next value)) → P β (first >>= next)
  measured : ∀ {α : Type} {activity : Timed κ α}, P α activity → P (α × Nat) (measured activity)

/-- A relation that two composed activities inherit from their parts. -/
structure Congruent (R : (α : Type) → Timed κ α → Timed κ α → Prop) : Prop where
  done : ∀ {α : Type} (value : α), R α (pure value) (pure value)
  bind : ∀ {α β : Type} {first other : Timed κ α} {next nextOther : α → Timed κ β},
    R α first other → (∀ value, R β (next value) (nextOther value)) →
    R β (first >>= next) (other >>= nextOther)
  measured : ∀ {α : Type} {activity other : Timed κ α}, R α activity other →
    R (α × Nat) (measured activity) (measured other)

def Only (P : (α : Type) → Timed κ α → Prop) (α : Type) (activity other : Timed κ α) : Prop :=
  other = activity ∧ P α activity

theorem only_congruent {P : (α : Type) → Timed κ α → Prop} (h : Inherited P) :
    Congruent (Only P) := by
  constructor
  · intro α value
    exact ⟨rfl, h.done value⟩
  · rintro α β first _ next nextOther ⟨rfl, begun⟩ each
    have same : nextOther = next := funext fun value => (each value).1
    exact ⟨by rw [same], h.bind begun fun value => (each value).2⟩
  · rintro α activity _ ⟨rfl, own⟩
    exact ⟨rfl, h.measured own⟩

theorem ends_by_inherited (cut : Nat) :
    Inherited fun α (activity : Timed κ α) => EndsBy cut activity :=
  ⟨pure_ends_by cut, bind_ends_by, measured_ends_by⟩

theorem never_crashes_inherited :
    Inherited fun α (activity : Timed κ α) => NeverCrashes activity := by
  constructor
  · exact pure_never_crashes
  · intro α β first next begun continued start t reason crashed
    rcases crashed_bind_iff.mp crashed with own | ⟨u, value, _, after⟩
    · exact begun start t reason own
    · exact continued value u t reason after
  · intro α activity safe start t reason crashed
    rw [ending_of_measured] at crashed
    cases ended : (activity start).ending with
    | returned u value => simp [ended] at crashed
    | crashed u other => exact safe start u other ended
    | pending => simp [ended] at crashed

end Timed

variable {P : (α : Type) → Timed Call α → Prop}
  {R : (α : Type) → Timed Call α → Timed Call α → Prop}

namespace Dns.Resolver

structure Asks (P : (α : Type) → Timed Call α → Prop) (r : Resolver) (names : NameService)
    (token : Token) : Prop where
  system : ∀ host, P _ (systemLookup r names token host)
  records : ∀ name type, P _ (ask r names token (.recordQuery type name r.server)
    fun t => names.records t name type)

structure AsksBoth (R : (α : Type) → Timed Call α → Timed Call α → Prop) (r : Resolver)
    (names other : NameService) (token tokenOther : Token) : Prop where
  system : ∀ host, R _ (systemLookup r names token host) (systemLookup r other tokenOther host)
  records : ∀ name type, R _
    (ask r names token (.recordQuery type name r.server) fun t => names.records t name type)
    (ask r other tokenOther (.recordQuery type name r.server) fun t => other.records t name type)

variable {r : Resolver} {names other : NameService} {token tokenOther : Token}

theorem both_ask_only (asks : Asks P r names token) : AsksBoth (Only P) r names names token token :=
  ⟨fun host => ⟨rfl, asks.system host⟩, fun name type => ⟨rfl, asks.records name type⟩⟩

theorem follows_related (h : Congruent R) {walk walkOther : String → Lookup}
    (each : ∀ name, R _ (walk name) (walkOther name)) (targets : List String) :
    R _ (follow walk targets) (follow walkOther targets) := by
  induction targets with
  | nil => exact h.done _
  | cons target rest ih =>
    apply h.bind (each target)
    rintro (e | found)
    · exact h.done _
    · apply h.bind ih
      rintro (e | more)
      · exact h.done _
      · exact h.done _

/- A walk asks the name server alone: nothing is needed of the machine's own lookup. -/
section Walks

variable (h : Congruent R) (records : ∀ name type, R _
    (ask r names token (.recordQuery type name r.server) fun t => names.records t name type)
    (ask r other tokenOther (.recordQuery type name r.server) fun t => other.records t name type))
include h records

theorem queries_related (name : String) (type : RecordType) :
    R _ (query r names token name type) (query r other tokenOther name type) :=
  h.bind (records name type) fun _ => h.done _

theorem walks_related (levels : Nat) (name : String) :
    R _ (walk r names token levels name) (walk r other tokenOther levels name) := by
  induction levels generalizing name with
  | zero => exact h.done _
  | succ levels ih =>
    apply h.bind (queries_related h records name .a)
    rintro (e | a)
    · exact h.done _
    apply h.bind (queries_related h records name .aaaa)
    rintro (e | aaaa)
    · exact h.done _
    apply h.bind (queries_related h records name .cname)
    rintro (e | cname)
    · exact h.done _
    apply h.bind (follows_related h ih _)
    rintro (e | behind)
    · exact h.done _
    · exact h.done _

theorem lookups_related (host : String) :
    R _ (lookup r names token host) (lookup r other tokenOther host) := by
  unfold lookup
  cases Ip.read host with
  | some ip => exact h.done _
  | none =>
    apply h.bind (walks_related h records _ host)
    rintro (e | (_ | ⟨ip, more⟩))
    · exact h.done _
    · exact h.done _
    · exact h.done _

end Walks

theorem resolves_related (h : Congruent R) (asks : AsksBoth R r names other token tokenOther)
    (host : String) : R _ (resolve r names token host) (resolve r other tokenOther host) := by
  unfold resolve
  cases Ip.read host with
  | some ip => exact h.done _
  | none =>
    apply h.bind (asks.system host)
    rintro ((e | (_ | ⟨ip, more⟩)) | _ | _)
    · exact lookups_related h asks.records host
    · exact lookups_related h asks.records host
    · exact h.done _
    · exact lookups_related h asks.records host
    · exact h.done _

theorem lookup_has (h : Inherited P) (records : ∀ name type, P _
    (ask r names token (.recordQuery type name r.server) fun t => names.records t name type))
    (host : String) :
    P _ (lookup r names token host) :=
  (lookups_related (only_congruent h) (fun name type => ⟨rfl, records name type⟩) host).2

theorem resolve_has (h : Inherited P) (asks : Asks P r names token) (host : String) :
    P _ (resolve r names token host) :=
  (resolves_related (only_congruent h) (both_ask_only asks) host).2

end Dns.Resolver

namespace Probe

structure Asks (P : (α : Type) → Timed Call α → Prop) (setup : Setup) (key : PublicKey)
    (address : NetAddress) (client : Client) : Prop where
  resolve : Dns.Resolver.Asks P setup.resolver (setup.names.facing address.protocol) setup.token
  dial : P _ (request setup.token (some setup.dialTimeout)
    (.dial address.protocol address.address) fun t => client.dial t address.address)
  upgrade : P _ (request setup.token none (.upgrade address.protocol key)
    fun t => client.upgrade t key)
  scan : P _ (request setup.token none (.scan address.protocol address.address)
    fun t => client.scan t address.address)

def Setup.elsewhere (setup : Setup) (names : NameService) (token : Token) : Setup :=
  { setup with names := names, token := token }

structure AsksBoth (R : (α : Type) → Timed Call α → Timed Call α → Prop) (setup : Setup)
    (names : NameService) (token : Token) (key : PublicKey) (address : NetAddress)
    (client other : Client) : Prop where
  resolve : Dns.Resolver.AsksBoth R setup.resolver (setup.names.facing address.protocol)
    (names.facing address.protocol) setup.token token
  dial : R _
    (request setup.token (some setup.dialTimeout) (.dial address.protocol address.address)
      fun t => client.dial t address.address)
    (request token (some setup.dialTimeout) (.dial address.protocol address.address)
      fun t => other.dial t address.address)
  upgrade : R _
    (request setup.token none (.upgrade address.protocol key) fun t => client.upgrade t key)
    (request token none (.upgrade address.protocol key) fun t => other.upgrade t key)
  scan : R _
    (request setup.token none (.scan address.protocol address.address)
      fun t => client.scan t address.address)
    (request token none (.scan address.protocol address.address)
      fun t => other.scan t address.address)

variable {setup : Setup} {names : NameService} {token : Token} {key : PublicKey}
  {address : NetAddress} {client other : Client}

theorem scans_related (h : Congruent R)
    (asks : AsksBoth R setup names token key address client other) (report : ProbeReport) :
    R _ (scan setup address client report)
      (scan (setup.elsewhere names token) address other report) := by
  apply h.bind (h.measured asks.scan)
  rintro ⟨(e | settings) | _ | _, elapsed⟩
  all_goals exact h.done _

theorem handshakes_related (h : Congruent R)
    (asks : AsksBoth R setup names token key address client other) (report : ProbeReport) :
    R _ (handshake setup key address client report)
      (handshake (setup.elsewhere names token) key address other report) := by
  apply h.bind (h.measured asks.upgrade)
  rintro ⟨(e | _) | _ | _, elapsed⟩
  · exact h.done _
  · exact scans_related h asks _
  · exact h.done _
  · exact h.done _

theorem dials_related (h : Congruent R)
    (asks : AsksBoth R setup names token key address client other) (report : ProbeReport) :
    R _ (dial setup key address client report)
      (dial (setup.elsewhere names token) key address other report) := by
  apply h.bind (h.measured asks.dial)
  rintro ⟨(e | _) | _ | _, elapsed⟩
  · exact h.done _
  · exact handshakes_related h asks _
  · exact h.done _
  · exact h.done _

theorem probes_related (h : Congruent R)
    (asks : AsksBoth R setup names token key address client other) :
    R _ (run setup key address client) (run (setup.elsewhere names token) key address other) := by
  unfold run
  cases HostPort.read address.address with
  | error e => exact h.done _
  | ok target =>
    apply h.bind (Dns.Resolver.resolves_related h asks.resolve _)
    rintro (e | ips)
    · exact h.done _
    · exact dials_related h asks _

theorem probe_has (h : Inherited P) (asks : Asks P setup key address client) :
    P _ (run setup key address client) := by
  have both : AsksBoth (Only P) setup setup.names setup.token key address client client :=
    ⟨Dns.Resolver.both_ask_only asks.resolve, ⟨rfl, asks.dial⟩, ⟨rfl, asks.upgrade⟩,
      ⟨rfl, asks.scan⟩⟩
  exact (probes_related (only_congruent h) both).2

end Probe

namespace Inspector.HostTest

open Probe

variable {policy : Policy} {resolver : Dns.Resolver} {world other : World}
  {test testOther : HostTest}

def DerivedRelated (R : (α : Type) → Timed Call α → Timed Call α → Prop) (policy : Policy)
    (resolver : Dns.Resolver) (world other : World) (test testOther : HostTest) : Prop :=
  Option.Rel
    (fun client clientOther => ∀ address, R _ (test.probe policy resolver world address client)
      (testOther.probe policy resolver other address clientOther))
    (world.clients.find? .rhp3) (other.clients.find? .rhp3)

theorem rel_iff {α β : Type} {related : α → β → Prop} {a : Option α} {b : Option β} :
    Option.Rel related a b ↔
      a = none ∧ b = none ∨ ∃ x y, a = some x ∧ b = some y ∧ related x y := by
  constructor
  · rintro (@⟨x, y, h⟩ | _)
    · exact Or.inr ⟨x, y, rfl, rfl, h⟩
    · exact Or.inl ⟨rfl, rfl⟩
  · rintro (⟨rfl, rfl⟩ | ⟨x, y, rfl, rfl, h⟩)
    · exact .none
    · exact .some h

theorem every_lane {holds : Timed Call ProbeReport → Prop} {policy : Policy}
    {resolver : Dns.Resolver} {world : World}
    (each : ∀ seen address, holds (test.lane policy resolver world seen address))
    (addresses : List NetAddress) (seen : List Protocol) :
    ∀ activity ∈ test.lanes policy resolver world seen addresses, holds activity := by
  induction addresses generalizing seen with
  | nil =>
    intro activity member
    cases member
  | cons address rest ih =>
    intro activity member
    rcases List.mem_cons.mp member with rfl | later
    · exact each seen address
    · exact ih _ activity later

theorem derived_related (h : Congruent R)
    (probes : DerivedRelated R policy resolver world other test testOther)
    (settings : SettingsV2) :
    R _ (test.derived policy resolver world settings)
      (testOther.derived policy resolver other settings) := by
  unfold derived
  cases HostPort.read settings.netAddress with
  | error e => exact h.done _
  | ok target =>
    rcases rel_iff.mp probes with ⟨none, noneOther⟩ | ⟨client, clientOther, here, there, each⟩
    · dsimp only
      rw [none, noneOther]
      exact h.done _
    · dsimp only
      rw [here, there]
      exact each _

theorem derived_if_due_related (h : Congruent R)
    (probes : DerivedRelated R policy resolver world other test testOther)
    (host : testOther.host = test.host) (snapshot : testOther.snapshot = test.snapshot)
    (results : List ProbeReport) :
    R _ (test.derivedIfDue policy resolver world results)
      (testOther.derivedIfDue policy resolver other results) := by
  unfold derivedIfDue legacyAllowed
  rw [host, snapshot]
  split
  · cases announced? results with
    | none => exact h.done _
    | some settings => exact h.bind (derived_related h probes settings) fun _ => h.done _
  · exact h.done _

theorem derived_if_due_has (h : Inherited P)
    (probes : ∀ address client, world.clients.find? .rhp3 = some client →
      P _ (test.probe policy resolver world address client)) (results : List ProbeReport) :
    P _ (test.derivedIfDue policy resolver world results) := by
  have both : DerivedRelated (Only P) policy resolver world world test test := by
    unfold DerivedRelated
    cases registered : world.clients.find? .rhp3 with
    | none => exact .none
    | some client => exact .some fun address => ⟨rfl, probes address client registered⟩
  exact (derived_if_due_related (only_congruent h) both rfl rfl results).2

end Inspector.HostTest
end HostHealth
