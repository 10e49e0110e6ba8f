import HostHealth.Proofs.Races
import HostHealth.Proofs.Requests

/- Who is asked, and for what. A lookup asks the name service and nobody else. A probe asks its own
   client for a dial, an upgrade and a scan, in this order and as far as it comes, and it has done
   with its lookup before. -/
namespace HostHealth

open Net Timed

namespace Call

def client? : Call → Option Protocol
  | .dial protocol _ | .upgrade protocol _ | .scan protocol _ => some protocol
  | _ => none

def dialed? : Call → Option NetAddress
  | .dial protocol address => some ⟨address, protocol⟩
  | _ => none

def isLookup : Call → Bool
  | .systemLookup _ | .recordQuery _ _ _ => true
  | _ => false

theorem lookup_has_no_client {call : Call} (h : call.isLookup = true) : call.client? = none := by
  cases call <;> first | rfl | cases h

theorem lookup_dials_nobody {call : Call} (h : call.isLookup = true) : call.dialed? = none := by
  cases call <;> first | rfl | cases h

end Call

def dialed (log : List (Nat × Call)) : List NetAddress :=
  (log.map Prod.snd).filterMap Call.dialed?

theorem dialed_append (front back : List (Nat × Call)) :
    dialed (front ++ back) = dialed front ++ dialed back := by
  simp [dialed]

namespace Timed

variable {κ α β : Type}

def AsksOnly (kind : κ → Prop) (activity : Timed κ α) : Prop :=
  ∀ start, ∀ call ∈ (activity start).calls, kind call.2

def LogsOnly (kind : Nat × κ → Prop) (activity : Timed κ α) : Prop :=
  ∀ start, ∀ call ∈ (activity start).calls, kind call

theorem logs_only_inherited (kind : Nat × κ → Prop) :
    Inherited fun α (activity : Timed κ α) => LogsOnly kind activity := by
  constructor
  · intro α value start call member
    cases member
  · intro α β first next begun continued start call member
    cases ended : (first start).ending with
    | returned u value =>
      rw [bind_of_returned ended] at member
      rcases List.mem_append.mp member with own | later
      · exact begun start call own
      · exact continued value u call later
    | crashed u reason =>
      rw [bind_of_crashed ended] at member
      exact begun start call member
    | pending =>
      rw [bind_of_pending ended] at member
      exact begun start call member
  · intro α activity h start call member
    rw [calls_of_measured] at member
    exact h start call member

theorem asks_only_inherited (kind : κ → Prop) :
    Inherited fun α (activity : Timed κ α) => AsksOnly kind activity :=
  logs_only_inherited fun call => kind call.2

theorem calls_of_quiet_bind {first : Timed κ α} {next : α → Timed κ β}
    (quiet : ∀ value t, (next value t).calls = []) (start : Nat) :
    ((first >>= next) start).calls = (first start).calls := by
  cases ended : (first start).ending with
  | returned u value =>
    rw [bind_of_returned ended, quiet]
    exact List.append_nil _
  | crashed u reason => rw [bind_of_crashed ended]
  | pending => rw [bind_of_pending ended]

theorem calls_of_bind_pure (first : Timed κ α) (result : α → β) (start : Nat) :
    ((first >>= fun value => pure (result value)) start).calls = (first start).calls :=
  calls_of_quiet_bind (fun _ _ => rfl) start

theorem calls_of_together (activities : List (Timed κ α)) (start : Nat) :
    (together activities start).calls =
      activities.flatMap fun activity => (activity start).calls := by
  induction activities with
  | nil => rfl
  | cons activity rest ih =>
    rw [List.flatMap_cons, ← ih]
    rfl

theorem calls_of_one {activities : List (Timed κ α)} {activity : Timed κ α}
    (member : activity ∈ activities) (start : Nat) :
    ∀ call ∈ (activity start).calls, call ∈ (together activities start).calls := by
  intro call asked
  rw [calls_of_together]
  exact List.mem_flatMap.mpr ⟨activity, member, asked⟩

end Timed

section Request

variable {κ α β : Type} (token : Token) (limit : Option Nat) (call : κ) (reply : Nat → Reply α)

theorem request_asks_once (start : Nat) :
    request token limit call reply start = ⟨[], .returned start .cancelled⟩ ∨
      (request token limit call reply start).calls = [(start, call)] := by
  cases cancelled : token.isCancelled start with
  | true => exact Or.inl (request_of_cancelled token limit call reply cancelled)
  | false =>
    right
    rw [request_of_open token limit call reply cancelled]

theorem request_asks_only {kind : κ → Prop} (h : kind call) :
    AsksOnly kind (request token limit call reply) := by
  intro start other member
  rcases request_asks_once token limit call reply start with idle | once
  · rw [idle] at member
    cases member
  · rw [once] at member
    cases List.mem_singleton.mp member
    exact h

theorem raced_asks_once (ahead : Nat → Bool) (start : Nat) :
    raced token ahead limit call reply start = ⟨[], .returned start .cancelled⟩ ∨
      (raced token ahead limit call reply start).calls = [(start, call)] := by
  cases first : ahead start with
  | false =>
    rw [raced_of_behind token limit call reply ahead first]
    exact request_asks_once token limit call reply start
  | true =>
    rw [raced_of_ahead token limit call reply ahead first]
    exact Or.inr rfl

theorem raced_asks_only {kind : κ → Prop} (ahead : Nat → Bool) (h : kind call) :
    AsksOnly kind (raced token ahead limit call reply) := by
  intro start other member
  rcases raced_asks_once token limit call reply ahead start with idle | once
  · rw [idle] at member
    cases member
  · rw [once] at member
    cases List.mem_singleton.mp member
    exact h

theorem request_under_open_token :
    LogsOnly (fun other => token.isCancelled other.1 = false) (request token limit call reply) := by
  intro start other member
  cases cancelled : token.isCancelled start with
  | true =>
    rw [request_of_cancelled token limit call reply cancelled] at member
    cases member
  | false =>
    rw [request_of_open token limit call reply cancelled] at member
    cases List.mem_singleton.mp member
    exact cancelled

theorem raced_under_open_token (ahead : Nat → Bool) :
    LogsOnly (fun other => token.isCancelled other.1 = false ∨ ahead other.1 = true ∧ other.2 = call)
      (raced token ahead limit call reply) := by
  intro start other member
  cases first : ahead start with
  | false =>
    rw [raced_of_behind token limit call reply ahead first] at member
    exact Or.inl (request_under_open_token token limit call reply start other member)
  | true =>
    rw [raced_of_ahead token limit call reply ahead first] at member
    cases List.mem_singleton.mp member
    exact Or.inr ⟨first, rfl⟩

theorem steps_after {next : Response α × Nat → Timed κ β} {later : List κ}
    (stops : ∀ elapsed u, (next (.cancelled, elapsed) u).calls = [])
    (continued : ∀ value u, (next value u).calls.map Prod.snd <+: later) (start : Nat) :
    ((measured (request token limit call reply) >>= next) start).calls.map Prod.snd <+:
      call :: later := by
  rcases request_asks_once token limit call reply start with idle | once
  · have ended : (measured (request token limit call reply) start).ending =
        .returned start (.cancelled, start - start) := by rw [ending_of_measured, idle]
    rw [bind_of_returned ended, calls_of_measured, idle, stops]
    exact List.nil_prefix
  · have asked := calls_of_measured (request token limit call reply) start
    rw [once] at asked
    have alone : [(start, call)].map Prod.snd <+: call :: later :=
      List.cons_prefix_cons.mpr ⟨rfl, List.nil_prefix⟩
    cases ended : (measured (request token limit call reply) start).ending with
    | returned u value =>
      rw [bind_of_returned ended, asked]
      exact List.cons_prefix_cons.mpr ⟨rfl, continued value u⟩
    | crashed u reason =>
      rw [bind_of_crashed ended, asked]
      exact alone
    | pending =>
      rw [bind_of_pending ended, asked]
      exact alone

end Request

namespace Dns.Resolver

theorem resolve_asks_names (r : Resolver) (names : NameService) (token : Token) (host : String) :
    AsksOnly (fun call => call.isLookup = true) (r.resolve names token host) :=
  resolve_has (asks_only_inherited _)
    ⟨fun _ => raced_asks_only _ _ _ _ _ rfl, fun _ _ => raced_asks_only _ _ _ _ _ rfl⟩ host

end Dns.Resolver

namespace Probe

def steps (key : PublicKey) (address : NetAddress) : List Call :=
  [.dial address.protocol address.address, .upgrade address.protocol key,
    .scan address.protocol address.address]

section Steps

variable (setup : Setup) (key : PublicKey) (address : NetAddress) (client : Client)
  (report : ProbeReport) (start : Nat)

theorem scan_steps :
    (scan setup address client report start).calls.map Prod.snd <+:
      [.scan address.protocol address.address] := by
  apply steps_after
  · exact fun _ _ => rfl
  · rintro ⟨(e | settings) | _ | _, elapsed⟩ u
    all_goals exact List.nil_prefix

theorem handshake_steps :
    (handshake setup key address client report start).calls.map Prod.snd <+:
      [.upgrade address.protocol key, .scan address.protocol address.address] := by
  apply steps_after
  · exact fun _ _ => rfl
  · rintro ⟨(e | _) | _ | _, elapsed⟩ u
    · exact List.nil_prefix
    · exact scan_steps setup address client _ u
    · exact List.nil_prefix
    · exact List.nil_prefix

theorem dial_steps :
    (dial setup key address client report start).calls.map Prod.snd <+: steps key address := by
  apply steps_after
  · exact fun _ _ => rfl
  · rintro ⟨(e | _) | _ | _, elapsed⟩ u
    · exact List.nil_prefix
    · exact handshake_steps setup key address client _ u
    · exact List.nil_prefix
    · exact List.nil_prefix

theorem probe_log :
    ∃ lookups taken, (run setup key address client start).calls = lookups ++ taken ∧
      (∀ call ∈ lookups, call.2.isLookup = true) ∧
      taken.map Prod.snd <+: steps key address := by
  unfold run
  cases HostPort.read address.address with
  | error e => exact ⟨[], [], rfl, (fun _ member => by cases member), List.nil_prefix⟩
  | ok target =>
    dsimp only
    have names := Dns.Resolver.resolve_asks_names setup.resolver
      (setup.names.facing address.protocol) setup.token target.host start
    cases ended : (setup.resolve address.protocol target.host start).ending with
    | returned u outcome =>
      rw [bind_of_returned ended]
      refine ⟨_, _, rfl, names, ?_⟩
      cases outcome with
      | error e => exact List.nil_prefix
      | ok ips => exact dial_steps setup key address client _ u
    | crashed u reason =>
      rw [bind_of_crashed ended]
      exact ⟨_, [], (List.append_nil _).symm, names, List.nil_prefix⟩
    | pending =>
      rw [bind_of_pending ended]
      exact ⟨_, [], (List.append_nil _).symm, names, List.nil_prefix⟩

theorem probe_dials : dialed (run setup key address client start).calls <+: [address] := by
  obtain ⟨lookups, taken, log, names, inOrder⟩ := probe_log setup key address client start
  have nobody : dialed lookups = [] := by
    unfold dialed
    rw [List.filterMap_map]
    apply List.filterMap_eq_nil_iff.mpr
    intro call member
    exact Call.lookup_dials_nobody (names call member)
  rw [log, dialed_append, nobody]
  exact inOrder.filterMap Call.dialed?

theorem probe_asks_own_client :
    ∀ call ∈ (run setup key address client start).calls, ∀ protocol,
      call.2.client? = some protocol → protocol = address.protocol := by
  obtain ⟨lookups, taken, log, names, inOrder⟩ := probe_log setup key address client start
  intro call member protocol asked
  rw [log] at member
  rcases List.mem_append.mp member with lookup | step
  · rw [Call.lookup_has_no_client (names call lookup)] at asked
    cases asked
  · have oneOf := inOrder.subset (List.mem_map_of_mem step)
    simp only [steps, List.mem_cons, List.not_mem_nil, or_false] at oneOf
    rcases oneOf with same | same | same
    all_goals
      rw [same] at asked
      cases asked
      rfl

end Steps
end Probe

namespace Inspector.HostTest

theorem host_test_logs_only {kind : Nat × Call → Prop} {policy : Policy} {resolver : Dns.Resolver}
    {world : World} {test : HostTest}
    (probes : ∀ address client, LogsOnly kind (test.probe policy resolver world address client)) :
    LogsOnly kind (test.run policy resolver world) := by
  have inherited := logs_only_inherited kind
  have lane : ∀ seen address, LogsOnly kind (test.lane policy resolver world seen address) := by
    intro seen address
    unfold lane
    dsimp only
    split
    · exact inherited.done _
    split
    · exact inherited.done _
    split
    · exact inherited.done _
    · intro start call member
      rw [calls_of_rescued] at member
      exact probes _ _ start call member
  have lanes : LogsOnly kind
      (together (test.lanes policy resolver world [] test.host.netAddresses)) := by
    intro start call member
    rw [calls_of_together] at member
    obtain ⟨own, there, asked⟩ := List.mem_flatMap.mp member
    exact every_lane lane _ [] own there start call asked
  apply inherited.bind lanes
  intro ended
  exact inherited.bind (derived_if_due_has inherited (fun address client _ => probes address client)
    _) fun _ => inherited.done _

end Inspector.HostTest
end HostHealth
