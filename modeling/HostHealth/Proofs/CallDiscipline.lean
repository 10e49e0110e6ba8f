import HostHealth.Proofs.CancelledProbes
import HostHealth.Proofs.RequestLogs
import HostHealth.Proofs.Successes

/- What a probe asks its client for, and when. A step starts at the instant at which the one before
   it has succeeded, the first one when the host name is resolved, and none starts under a cancelled
   token. The flags of a report say which of these steps succeeded. -/
namespace HostHealth

open Net Timed

namespace Probe

section Steps

variable (setup : Setup) (key : PublicKey) (address : NetAddress) (client : Client)

/-- The host name is read, and resolved at the instant to some addresses. -/
def Resolved (start s : Nat) : Prop :=
  ∃ target ips, HostPort.read address.address = .ok target ∧ ips ≠ [] ∧
    (setup.resolve address.protocol target.host start).ending =
      .returned s (.ok ips)

def DialSucceeds (started finished : Nat) : Prop :=
  Succeeds setup.token (some setup.dialTimeout) (fun t => client.dial t address.address)
    started () finished

def UpgradeSucceeds (started finished : Nat) : Prop :=
  Succeeds setup.token none (fun t => client.upgrade t key) started () finished

def ScanSucceeds (started : Nat) (settings : Settings) (finished : Nat) : Prop :=
  Succeeds setup.token none (fun t => client.scan t address.address) started settings finished

variable {setup key address client} {report result : ProbeReport} {start t : Nat}
  {entry : Nat × Call}

section Resolution

theorem resolved_once {target : HostPort} {s : Nat} {ips : List Ip}
    (readable : HostPort.read address.address = .ok target)
    (found : (setup.resolve address.protocol target.host start).ending =
      .returned s (.ok ips)) (s' : Nat) : Resolved setup address start s' ↔ s' = s := by
  constructor
  · rintro ⟨_, _, read, _, found'⟩
    cases readable.symm.trans read
    cases found.symm.trans found'
    rfl
  · rintro rfl
    exact ⟨target, ips, readable, Dns.Resolver.resolve_finds_some ⟨s', found⟩, found⟩

theorem unresolved_of_unreadable {e : AddressError}
    (unreadable : HostPort.read address.address = .error e) (s : Nat) :
    ¬ Resolved setup address start s := by
  rintro ⟨_, _, read, _⟩
  cases unreadable.symm.trans read

theorem unresolved_of_ending {target : HostPort}
    (readable : HostPort.read address.address = .ok target)
    (nothing : ∀ s ips, (setup.resolve address.protocol target.host start).ending ≠
      .returned s (.ok ips)) (s : Nat) : ¬ Resolved setup address start s := by
  rintro ⟨_, ips, read, _, found⟩
  cases readable.symm.trans read
  exact nothing s ips found

end Resolution

section Stages

structure SameFlags (report result : ProbeReport) : Prop where
  connected : result.connected = report.connected
  handshake : result.handshake = report.handshake
  scanned : result.scanned = report.scanned

/-- A stage is a request and what follows it. If the request does not succeed, nothing follows but
    the report, and that says that the probe came no further. -/
def Waits {ε α : Type} (report : ProbeReport) (asked : Timed Call (Response (Except ε α)))
    (later : α → Nat → Timed Call ProbeReport) (stage : Timed Call ProbeReport) : Prop :=
  ∃ next : Response (Except ε α) × Nat → Timed Call ProbeReport,
    stage = (measured asked >>= next) ∧
    (∀ value elapsed, next (.answered (.ok value), elapsed) = later value elapsed) ∧
    ∀ response elapsed, ¬ Good response →
      ∃ kept, next (response, elapsed) = pure kept ∧ SameFlags report kept

section Waiting

variable {ε α : Type} {limit : Option Nat} {call : Call} {reply : Nat → Reply (Except ε α)}
  {later : α → Nat → Timed Call ProbeReport} {stage : Timed Call ProbeReport}
  (waits : Waits report (request setup.token limit call reply) later stage)
include waits

theorem mem_calls_of_stage : entry ∈ (stage start).calls ↔
    setup.token.isCancelled start = false ∧ entry = (start, call) ∨
      ∃ value t, Succeeds setup.token limit reply start value t ∧
        entry ∈ (later value (t - start) t).calls := by
  obtain ⟨next, rfl, goesOn, givesUp⟩ := waits
  rw [mem_calls_of_step]
  · simp only [goesOn]
  · intro response elapsed u bad
    obtain ⟨kept, ends, _⟩ := givesUp response elapsed bad
    rw [ends]
    rfl

theorem stage_returned (returned : (stage start).ending = .returned t result) :
    (∃ value u, Succeeds setup.token limit reply start value u ∧
      (later value (u - start) u).ending = .returned t result) ∨
    (∀ value u, ¬ Succeeds setup.token limit reply start value u) ∧ SameFlags report result := by
  obtain ⟨next, rfl, goesOn, givesUp⟩ := waits
  rcases step_returned returned with
    ⟨value, u, succeeds, rest⟩ | ⟨failed, response, elapsed, u, bad, rest⟩
  · rw [goesOn] at rest
    exact Or.inl ⟨value, u, succeeds, rest⟩
  · obtain ⟨kept, ends, same⟩ := givesUp response elapsed bad
    rw [ends] at rest
    obtain ⟨_, rfl⟩ := returned_pure_iff.mp rest
    exact Or.inr ⟨failed, same⟩

end Waiting

theorem scan_waits : Waits report
    (request setup.token none (.scan address.protocol address.address)
      fun t => client.scan t address.address)
    (fun settings elapsed => pure (judge setup settings
      { report with scanned := true, scanTime := elapsed, settings := some settings }))
    (scan setup address client report) := by
  refine ⟨_, rfl, fun _ _ => rfl, ?_⟩
  rintro ((e | settings) | _ | _) elapsed bad
  · exact ⟨_, rfl, rfl, rfl, rfl⟩
  · exact absurd ⟨_, rfl⟩ bad
  · exact ⟨_, rfl, rfl, rfl, rfl⟩
  · exact ⟨_, rfl, rfl, rfl, rfl⟩

theorem handshake_waits : Waits report
    (request setup.token none (.upgrade address.protocol key) fun t => client.upgrade t key)
    (fun _ elapsed => scan setup address client
      { report with handshake := true, handshakeTime := elapsed })
    (handshake setup key address client report) := by
  refine ⟨_, rfl, fun _ _ => rfl, ?_⟩
  rintro ((e | _) | _ | _) elapsed bad
  · exact ⟨_, rfl, rfl, rfl, rfl⟩
  · exact absurd ⟨_, rfl⟩ bad
  · exact ⟨_, rfl, rfl, rfl, rfl⟩
  · exact ⟨_, rfl, rfl, rfl, rfl⟩

theorem dial_waits : Waits report
    (request setup.token (some setup.dialTimeout) (.dial address.protocol address.address)
      fun t => client.dial t address.address)
    (fun _ elapsed => handshake setup key address client
      { report with connected := true, dialTime := elapsed })
    (dial setup key address client report) := by
  refine ⟨_, rfl, fun _ _ => rfl, ?_⟩
  rintro ((e | _) | _ | _) elapsed bad
  · exact ⟨_, rfl, rfl, rfl, rfl⟩
  · exact absurd ⟨_, rfl⟩ bad
  · exact ⟨_, rfl, rfl, rfl, rfl⟩
  · exact ⟨_, rfl, rfl, rfl, rfl⟩

end Stages

section Log

theorem mem_calls_of_scan :
    entry ∈ (scan setup address client report start).calls ↔
      setup.token.isCancelled start = false ∧
        entry = (start, .scan address.protocol address.address) := by
  rw [mem_calls_of_stage scan_waits]
  constructor
  · rintro (own | ⟨_, _, _, later⟩)
    · exact own
    · cases later
  · exact Or.inl

theorem mem_calls_of_handshake :
    entry ∈ (handshake setup key address client report start).calls ↔
      setup.token.isCancelled start = false ∧ entry = (start, .upgrade address.protocol key) ∨
        ∃ t, UpgradeSucceeds setup key client start t ∧
          entry = (t, .scan address.protocol address.address) := by
  rw [mem_calls_of_stage handshake_waits]
  refine or_congr_right ⟨?_, ?_⟩
  · rintro ⟨_, t, succeeds, later⟩
    exact ⟨t, succeeds, (mem_calls_of_scan.mp later).2⟩
  · rintro ⟨t, succeeds, same⟩
    exact ⟨(), t, succeeds, mem_calls_of_scan.mpr ⟨open_after_success succeeds, same⟩⟩

theorem mem_calls_of_dial :
    entry ∈ (dial setup key address client report start).calls ↔
      setup.token.isCancelled start = false ∧
          entry = (start, .dial address.protocol address.address) ∨
        ∃ t, DialSucceeds setup address client start t ∧
          (entry = (t, .upgrade address.protocol key) ∨
            ∃ u, UpgradeSucceeds setup key client t u ∧
              entry = (u, .scan address.protocol address.address)) := by
  rw [mem_calls_of_stage dial_waits]
  refine or_congr_right ⟨?_, ?_⟩
  · rintro ⟨_, t, succeeds, later⟩
    exact ⟨t, succeeds, (mem_calls_of_handshake.mp later).imp_left And.right⟩
  · rintro ⟨t, succeeds, later⟩
    exact ⟨(), t, succeeds, mem_calls_of_handshake.mpr <|
      later.imp_left fun same => ⟨open_after_success succeeds, same⟩⟩

theorem mem_calls_of_probe (asked : entry.2.client? ≠ none) :
    entry ∈ (run setup key address client start).calls ↔
      ∃ s, Resolved setup address start s ∧
        (setup.token.isCancelled s = false ∧
            entry = (s, .dial address.protocol address.address) ∨
          ∃ t, DialSucceeds setup address client s t ∧
            (entry = (t, .upgrade address.protocol key) ∨
              ∃ u, UpgradeSucceeds setup key client t u ∧
                entry = (u, .scan address.protocol address.address))) := by
  unfold run
  cases readable : HostPort.read address.address with
  | error e =>
    simp only [unresolved_of_unreadable readable, false_and, exists_false, iff_false]
    exact List.not_mem_nil
  | ok target =>
    dsimp only
    have noLookup : entry ∉ (setup.resolve address.protocol target.host start).calls := by
      intro member
      exact asked (Call.lookup_has_no_client (Dns.Resolver.resolve_asks_names _ _ _ _ start entry
        member))
    cases ended : (setup.resolve address.protocol target.host start).ending with
    | returned s outcome =>
      rw [bind_of_returned ended, List.mem_append, or_iff_right noLookup]
      cases outcome with
      | error e =>
        have never : ∀ s, ¬ Resolved setup address start s :=
          unresolved_of_ending readable (by simp [ended])
        simp only [never, false_and, exists_false, iff_false]
        exact List.not_mem_nil
      | ok ips =>
        simp only [resolved_once readable ended, exists_eq_left]
        exact mem_calls_of_dial
    | crashed s reason =>
      rw [bind_of_crashed ended, iff_false_left noLookup]
      have never : ∀ s, ¬ Resolved setup address start s :=
        unresolved_of_ending readable (by simp [ended])
      simp only [never, false_and, exists_false, not_false_eq_true]
    | pending =>
      rw [bind_of_pending ended, iff_false_left noLookup]
      have never : ∀ s, ¬ Resolved setup address start s :=
        unresolved_of_ending readable (by simp [ended])
      simp only [never, false_and, exists_false, not_false_eq_true]

theorem dial_asked_iff {s : Nat} :
    (s, Call.dial address.protocol address.address) ∈ (run setup key address client start).calls ↔
      Resolved setup address start s ∧ setup.token.isCancelled s = false := by
  rw [mem_calls_of_probe (by simp [Call.client?])]
  simp

theorem upgrade_asked_iff {u : Nat} :
    (u, Call.upgrade address.protocol key) ∈ (run setup key address client start).calls ↔
      ∃ s, Resolved setup address start s ∧ DialSucceeds setup address client s u := by
  rw [mem_calls_of_probe (by simp [Call.client?])]
  simp

theorem scan_asked_iff {v : Nat} :
    (v, Call.scan address.protocol address.address) ∈ (run setup key address client start).calls ↔
      ∃ s, Resolved setup address start s ∧ ∃ u, DialSucceeds setup address client s u ∧
        UpgradeSucceeds setup key client u v := by
  rw [mem_calls_of_probe (by simp [Call.client?])]
  simp

theorem upgrade_follows_dial {u : Nat} :
    (u, Call.upgrade address.protocol key) ∈ (run setup key address client start).calls ↔
      ∃ s, (s, Call.dial address.protocol address.address) ∈
          (run setup key address client start).calls ∧ DialSucceeds setup address client s u := by
  simp only [upgrade_asked_iff, dial_asked_iff]
  constructor
  · rintro ⟨s, resolved, succeeds⟩
    exact ⟨s, ⟨resolved, open_of_succeeds succeeds⟩, succeeds⟩
  · rintro ⟨s, ⟨resolved, _⟩, succeeds⟩
    exact ⟨s, resolved, succeeds⟩

theorem scan_follows_upgrade {v : Nat} :
    (v, Call.scan address.protocol address.address) ∈ (run setup key address client start).calls ↔
      ∃ u, (u, Call.upgrade address.protocol key) ∈ (run setup key address client start).calls ∧
        UpgradeSucceeds setup key client u v := by
  simp only [scan_asked_iff, upgrade_asked_iff]
  constructor
  · rintro ⟨s, resolved, u, connected, shaken⟩
    exact ⟨u, ⟨s, resolved, connected⟩, shaken⟩
  · rintro ⟨u, ⟨s, resolved, connected⟩, shaken⟩
    exact ⟨s, resolved, u, connected, shaken⟩

def taken (calls : List (Nat × Call)) : List (Nat × Call) :=
  calls.filter fun call => call.2.client?.isSome

theorem taken_in_order (setup : Setup) (key : PublicKey) (address : NetAddress) (client : Client)
    (start : Nat) :
    (taken (run setup key address client start).calls).map Prod.snd <+: steps key address := by
  obtain ⟨lookups, asked, log, names, inOrder⟩ := probe_log setup key address client start
  have nobody : taken lookups = [] := by
    apply List.filter_eq_nil_iff.mpr
    intro call member
    rw [Call.lookup_has_no_client (names call member)]
    decide
  have everybody : taken asked = asked := by
    apply List.filter_eq_self.mpr
    intro call member
    have oneOf := inOrder.subset (List.mem_map_of_mem member)
    simp only [steps, List.mem_cons, List.not_mem_nil, or_false] at oneOf
    rcases oneOf with same | same | same
    all_goals
      rw [same]
      rfl
  unfold taken at nobody everybody ⊢
  rw [log, List.filter_append, nobody, everybody]
  exact inOrder

theorem steps_nodup (key : PublicKey) (address : NetAddress) : (steps key address).Nodup := by
  simp [steps]

theorem takes_steps_under_open_token (setup : Setup) (key : PublicKey) (address : NetAddress)
    (client : Client) (start : Nat) :
    ∀ call ∈ taken (run setup key address client start).calls,
      setup.token.isCancelled call.1 = false := by
  intro call member
  obtain ⟨made, asked⟩ := List.mem_filter.mp member
  obtain ⟨s, _, ⟨isOpen, rfl⟩ | ⟨t, connected, rfl | ⟨u, shaken, rfl⟩⟩⟩ :=
    (mem_calls_of_probe (Option.isSome_iff_ne_none.mp asked)).mp made
  · exact isOpen
  · obtain ⟨_, _, _, _, isOpen⟩ := connected
    exact isOpen
  · obtain ⟨_, _, _, _, isOpen⟩ := shaken
    exact isOpen

end Log

section Flags

theorem scan_flags
    (returned : (scan setup address client report start).ending = .returned t result)
    (unscanned : report.scanned = false) :
    result.connected = report.connected ∧ result.handshake = report.handshake ∧
      (result.scanned = true ↔
        ∃ settings u, ScanSucceeds setup address client start settings u) := by
  rcases stage_returned scan_waits returned with ⟨settings, u, succeeds, rest⟩ | ⟨failed, same⟩
  · obtain ⟨_, rfl⟩ := returned_pure_iff.mp rest
    exact ⟨rfl, rfl, iff_of_true rfl ⟨settings, u, succeeds⟩⟩
  · refine ⟨same.connected, same.handshake, iff_of_false ?_ ?_⟩
    · rw [same.scanned, unscanned]
      decide
    · rintro ⟨settings, u, succeeds⟩
      exact failed settings u succeeds

theorem handshake_flags
    (returned : (handshake setup key address client report start).ending = .returned t result)
    (unshaken : report.handshake = false) (unscanned : report.scanned = false) :
    result.connected = report.connected ∧
      (result.handshake = true ↔ ∃ u, UpgradeSucceeds setup key client start u) ∧
      (result.scanned = true ↔ ∃ u, UpgradeSucceeds setup key client start u ∧
        ∃ settings v, ScanSucceeds setup address client u settings v) := by
  rcases stage_returned handshake_waits returned with ⟨⟨⟩, u, succeeds, rest⟩ | ⟨failed, same⟩
  · obtain ⟨connected, shaken, scanned⟩ := scan_flags rest unscanned
    have one : ∀ u', UpgradeSucceeds setup key client start u' ↔ u' = u := success_iff succeeds
    simp only [one, exists_eq, exists_eq_left, iff_true]
    exact ⟨connected, shaken, scanned⟩
  · have never : ∀ u, ¬ UpgradeSucceeds setup key client start u := failed ()
    simp only [never, false_and, exists_false, iff_false, Bool.not_eq_true]
    exact ⟨same.connected, same.handshake.trans unshaken, same.scanned.trans unscanned⟩

theorem dial_flags
    (returned : (dial setup key address client report start).ending = .returned t result)
    (unconnected : report.connected = false) (unshaken : report.handshake = false)
    (unscanned : report.scanned = false) :
    (result.connected = true ↔ ∃ s, DialSucceeds setup address client start s) ∧
      (result.handshake = true ↔ ∃ s, DialSucceeds setup address client start s ∧
        ∃ u, UpgradeSucceeds setup key client s u) ∧
      (result.scanned = true ↔ ∃ s, DialSucceeds setup address client start s ∧
        ∃ u, UpgradeSucceeds setup key client s u ∧
          ∃ settings v, ScanSucceeds setup address client u settings v) := by
  rcases stage_returned dial_waits returned with ⟨⟨⟩, s, succeeds, rest⟩ | ⟨failed, same⟩
  · obtain ⟨connected, shaken, scanned⟩ := handshake_flags rest unshaken unscanned
    have one : ∀ s', DialSucceeds setup address client start s' ↔ s' = s := success_iff succeeds
    simp only [one, exists_eq, exists_eq_left, iff_true]
    exact ⟨connected, shaken, scanned⟩
  · have never : ∀ s, ¬ DialSucceeds setup address client start s := failed ()
    simp only [never, false_and, exists_false, iff_false, Bool.not_eq_true]
    exact ⟨same.connected.trans unconnected, same.handshake.trans unshaken,
      same.scanned.trans unscanned⟩

theorem probe_flags
    (returned : (run setup key address client start).ending = .returned t result) :
    (result.connected = true ↔ ∃ s, Resolved setup address start s ∧
        ∃ u, DialSucceeds setup address client s u) ∧
      (result.handshake = true ↔ ∃ s, Resolved setup address start s ∧
        ∃ u, DialSucceeds setup address client s u ∧ ∃ v, UpgradeSucceeds setup key client u v) ∧
      (result.scanned = true ↔ ∃ s, Resolved setup address start s ∧
        ∃ u, DialSucceeds setup address client s u ∧ ∃ v, UpgradeSucceeds setup key client u v ∧
          ∃ settings w, ScanSucceeds setup address client v settings w) := by
  unfold run at returned
  cases readable : HostPort.read address.address with
  | error e =>
    rw [readable] at returned
    obtain ⟨_, rfl⟩ := returned_pure_iff.mp returned
    simp only [unresolved_of_unreadable readable, false_and, exists_false, iff_false,
      Bool.not_eq_true]
    exact ⟨rfl, rfl, rfl⟩
  | ok target =>
    rw [readable] at returned
    obtain ⟨s, outcome, ended, rest⟩ := returned_bind_iff.mp returned
    cases outcome with
    | error e =>
      obtain ⟨_, rfl⟩ := returned_pure_iff.mp rest
      have never : ∀ s, ¬ Resolved setup address start s :=
        unresolved_of_ending readable (by simp [ended])
      simp only [never, false_and, exists_false, iff_false, Bool.not_eq_true]
      exact ⟨rfl, rfl, rfl⟩
    | ok ips =>
      simp only [resolved_once readable ended, exists_eq_left]
      exact dial_flags rest rfl rfl rfl

theorem scan_returns_open
    (returned : (scan setup address client report start).ending = .returned t result)
    (unscanned : report.scanned = false) (scanned : result.scanned = true) :
    setup.token.isCancelled t = false := by
  rcases stage_returned scan_waits returned with ⟨settings, u, succeeds, rest⟩ | ⟨_, same⟩
  · obtain ⟨rfl, _⟩ := returned_pure_iff.mp rest
    obtain ⟨_, _, _, _, isOpen⟩ := succeeds
    exact isOpen
  · cases (same.scanned.trans unscanned).symm.trans scanned

theorem scanned_probe_is_open
    (returned : (run setup key address client start).ending = .returned t result)
    (scanned : result.scanned = true) : setup.token.isCancelled t = false := by
  unfold run at returned
  cases readable : HostPort.read address.address with
  | error e =>
    rw [readable] at returned
    obtain ⟨_, rfl⟩ := returned_pure_iff.mp returned
    cases scanned
  | ok target =>
    rw [readable] at returned
    obtain ⟨s, outcome, _, rest⟩ := returned_bind_iff.mp returned
    cases outcome with
    | error e =>
      obtain ⟨_, rfl⟩ := returned_pure_iff.mp rest
      cases scanned
    | ok ips =>
      rcases stage_returned dial_waits rest with ⟨⟨⟩, u, _, shaking⟩ | ⟨_, same⟩
      · rcases stage_returned handshake_waits shaking with ⟨⟨⟩, v, _, scanning⟩ | ⟨_, same⟩
        · exact scan_returns_open scanning rfl scanned
        · cases same.scanned.symm.trans scanned
      · cases same.scanned.symm.trans scanned

theorem connected_iff
    (returned : (run setup key address client start).ending = .returned t result) :
    result.connected = true ↔
      ∃ s u, (s, Call.dial address.protocol address.address) ∈
        (run setup key address client start).calls ∧ DialSucceeds setup address client s u := by
  rw [(probe_flags returned).1]
  simp only [dial_asked_iff]
  constructor
  · rintro ⟨s, resolved, u, succeeds⟩
    exact ⟨s, u, ⟨resolved, open_of_succeeds succeeds⟩, succeeds⟩
  · rintro ⟨s, u, ⟨resolved, _⟩, succeeds⟩
    exact ⟨s, resolved, u, succeeds⟩

theorem handshake_iff
    (returned : (run setup key address client start).ending = .returned t result) :
    result.handshake = true ↔
      ∃ u v, (u, Call.upgrade address.protocol key) ∈
        (run setup key address client start).calls ∧ UpgradeSucceeds setup key client u v := by
  rw [(probe_flags returned).2.1]
  simp only [upgrade_asked_iff]
  constructor
  · rintro ⟨s, resolved, u, connected, v, shaken⟩
    exact ⟨u, v, ⟨s, resolved, connected⟩, shaken⟩
  · rintro ⟨u, v, ⟨s, resolved, connected⟩, shaken⟩
    exact ⟨s, resolved, u, connected, v, shaken⟩

theorem scanned_iff
    (returned : (run setup key address client start).ending = .returned t result) :
    result.scanned = true ↔
      ∃ v settings w, (v, Call.scan address.protocol address.address) ∈
        (run setup key address client start).calls ∧
          ScanSucceeds setup address client v settings w := by
  rw [(probe_flags returned).2.2]
  simp only [scan_asked_iff]
  constructor
  · rintro ⟨s, resolved, u, connected, v, shaken, settings, w, told⟩
    exact ⟨v, settings, w, ⟨s, resolved, u, connected, shaken⟩, told⟩
  · rintro ⟨v, settings, w, ⟨s, resolved, u, connected, shaken⟩, told⟩
    exact ⟨s, resolved, u, connected, v, shaken, settings, w, told⟩

end Flags

end Steps

/-- What a probe asks its client for from its start on, however it ends, and what its report says
    about it if there is one. -/
structure Disciplined (setup : Setup) (key : PublicKey) (address : NetAddress) (client : Client)
    (start : Nat) (course : Course Call ProbeReport) : Prop where
  in_order : (taken course.calls).map Prod.snd <+: steps key address
  once : ((taken course.calls).map Prod.snd).Nodup
  dialed : ∀ s, (s, Call.dial address.protocol address.address) ∈ course.calls ↔
    Resolved setup address start s ∧ setup.token.isCancelled s = false
  upgraded : ∀ u, (u, Call.upgrade address.protocol key) ∈ course.calls ↔
    ∃ s, (s, Call.dial address.protocol address.address) ∈ course.calls ∧
      DialSucceeds setup address client s u
  settings_asked : ∀ v, (v, Call.scan address.protocol address.address) ∈ course.calls ↔
    ∃ u, (u, Call.upgrade address.protocol key) ∈ course.calls ∧
      UpgradeSucceeds setup key client u v
  uncancelled : ∀ call ∈ taken course.calls, setup.token.isCancelled call.1 = false
  unreadable : ∀ e, HostPort.read address.address = .error e → course.calls = []
  unresolved : (∀ s, ¬ Resolved setup address start s) → taken course.calls = []
  connected : ∀ t report, course.ending = .returned t report → (report.connected = true ↔
    ∃ s u, (s, Call.dial address.protocol address.address) ∈ course.calls ∧
      DialSucceeds setup address client s u)
  handshake : ∀ t report, course.ending = .returned t report → (report.handshake = true ↔
    ∃ u v, (u, Call.upgrade address.protocol key) ∈ course.calls ∧
      UpgradeSucceeds setup key client u v)
  scanned : ∀ t report, course.ending = .returned t report → (report.scanned = true ↔
    ∃ v settings w, (v, Call.scan address.protocol address.address) ∈ course.calls ∧
      ScanSucceeds setup address client v settings w)

theorem probe_is_disciplined (setup : Setup) (key : PublicKey) (address : NetAddress)
    (client : Client) (start : Nat) :
    Disciplined setup key address client start (run setup key address client start) := by
  have inOrder := taken_in_order setup key address client start
  constructor
  · exact inOrder
  · exact (steps_nodup key address).sublist inOrder.sublist
  · intro s
    exact dial_asked_iff
  · intro u
    exact upgrade_follows_dial
  · intro v
    exact scan_follows_upgrade
  · exact takes_steps_under_open_token setup key address client start
  · intro e unreadable
    unfold run
    rw [unreadable]
    rfl
  · intro nowhere
    apply List.filter_eq_nil_iff.mpr
    intro call member asked
    obtain ⟨s, resolved, _⟩ := (mem_calls_of_probe (Option.isSome_iff_ne_none.mp asked)).mp member
    exact nowhere s resolved
  · intro t report returned
    exact connected_iff returned
  · intro t report returned
    exact handshake_iff returned
  · intro t report returned
    exact scanned_iff returned

end Probe
end HostHealth
