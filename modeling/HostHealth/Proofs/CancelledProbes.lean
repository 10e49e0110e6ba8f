import HostHealth.Proofs.CancelledLookups
import HostHealth.Proofs.ProbeStages

/- A probe that is cut at an instant, beside the same probe left alone. The one that is left alone
   has a history: the stages that it comes through, and the report as it stands after each. The one
   that is cut shows the latest report of that history, with the cancellation as its only error. -/
namespace HostHealth

open Net Timed

namespace Probe

/-- The latest report of a history that was there before the instant, `report` being there from
    the beginning. -/
def latestBefore (c : Nat) (report : ProbeReport) : List (Nat × ProbeReport) → ProbeReport
  | [] => report
  | (t, next) :: rest => if t < c then latestBefore c next rest else report

section History

variable (setup : Setup) (key : PublicKey) (address : NetAddress) (client : Client)

def dialing : Timed Call (Response (Except DialError Unit) × Nat) :=
  measured <| request setup.token (some setup.dialTimeout) (.dial address.protocol address.address)
    fun t => client.dial t address.address

def upgrading : Timed Call (Response (Except TransportError Unit) × Nat) :=
  measured <| request setup.token none (.upgrade address.protocol key) fun t => client.upgrade t key

/- The stages that a probe comes through from some point on, each with the instant of its end and
   the report as it stands then. The scan is not among them, since a probe that comes through it
   is over at once. -/

def historySinceDial (report : ProbeReport) (start : Nat) : List (Nat × ProbeReport) :=
  match (upgrading setup key address client start).ending with
  | .returned t (.answered (.ok ()), elapsed) =>
    [(t, { report with handshake := true, handshakeTime := elapsed })]
  | _ => []

def historySinceResolution (report : ProbeReport) (start : Nat) : List (Nat × ProbeReport) :=
  match (dialing setup address client start).ending with
  | .returned t (.answered (.ok ()), elapsed) =>
    let next := { report with connected := true, dialTime := elapsed }
    (t, next) :: historySinceDial setup key address client next t
  | _ => []

def history (start : Nat) : List (Nat × ProbeReport) :=
  match HostPort.read address.address with
  | .error _ => []
  | .ok target =>
    match (setup.resolve address.protocol target.host start).ending with
    | .returned t (.ok ips) =>
      let next := { ProbeReport.untouched address with resolvedAddresses := ips }
      (t, next) :: historySinceResolution setup key address client next t
    | _ => []

end History

section Cut

variable (c : Nat) (setup : Setup) (key : PublicKey) (address : NetAddress) (client : Client)

def cutAt : Setup := { setup with token := setup.token.meet (.cancelledFrom c) }

def Setup.TiedAt (protocol : Protocol) : Nat × Call → Prop :=
  setup.resolver.TiedAt c (setup.names.facing protocol)

instance (protocol : Protocol) : DecidablePred (setup.TiedAt c protocol) := fun call =>
  inferInstanceAs (Decidable (setup.resolver.TiedAt c (setup.names.facing protocol) call))

theorem scan_cut {tied : Nat × Call → Prop} (report : ProbeReport) :
    CleanCut c tied (scan setup address client report) (scan (cutAt c setup) address client report)
      fun _ result => result = report.withError canceled := by
  apply bind_cut (fun _ _ _ => False) (measured_cut (request_cut setup.token _ _ _ c _))
  · rintro ⟨(e | settings) | _ | _, elapsed⟩
    · exact pure_cut _ _
    · exact pure_cut _ _
    · exact pure_cut _ _
    · exact pure_cut _ _
  · rintro start ⟨_, elapsed⟩ _ rfl
    exact ⟨_, rfl, rfl⟩
  · intro start t value result _ _ nothing
    exact nothing.elim

theorem latest_before_of_late {c : Nat} {report : ProbeReport} {t : Nat} {next : ProbeReport}
    {rest : List (Nat × ProbeReport)} (late : c ≤ t) :
    latestBefore c report ((t, next) :: rest) = report :=
  if_neg (Nat.not_lt.mpr late)

theorem latest_before_of_early {c : Nat} {report : ProbeReport} {t : Nat} {next : ProbeReport}
    {rest : List (Nat × ProbeReport)} (early : t < c) :
    latestBefore c report ((t, next) :: rest) = latestBefore c next rest :=
  if_pos early

theorem late_of_running {κ α : Type} {course : Course κ α} {c t : Nat} {value : α}
    (running : ¬ course.OverBefore c) (ended : course.ending = .returned t value) : c ≤ t := by
  by_contra soon
  exact running ⟨t, by rw [ended]; rfl, by omega⟩

theorem handshake_cut {tied : Nat × Call → Prop} (report : ProbeReport) :
    CleanCut c tied (handshake setup key address client report)
      (handshake (cutAt c setup) key address client report)
      fun start result => result =
        (latestBefore c report
          (historySinceDial setup key address client report start)).withError canceled := by
  apply bind_cut
    (fun value _ result => value.1 = .answered (.ok ()) ∧
      result = { report with handshake := true, handshakeTime := value.2 }.withError canceled)
    (measured_cut (request_cut setup.token _ _ _ c _))
  · rintro ⟨(e | ⟨⟩) | _ | _, elapsed⟩
    · exact pure_cut _ _
    · exact (scan_cut c setup address client _).weaken fun _ _ same => ⟨rfl, same⟩
    · exact pure_cut _ _
    · exact pure_cut _ _
  · rintro start ⟨_, elapsed⟩ running rfl
    refine ⟨_, rfl, ?_⟩
    unfold historySinceDial
    split
    · rename_i t elapsed' ended
      rw [latest_before_of_late (late_of_running running ended)]
    · rfl
  · rintro start t ⟨_, elapsed⟩ result ended soon ⟨rfl, rfl⟩
    have shaken : (upgrading setup key address client start).ending =
      .returned t (.answered (.ok ()), elapsed) := ended
    unfold historySinceDial
    rw [shaken]
    dsimp only
    rw [latest_before_of_early soon]
    rfl

theorem dial_cut {tied : Nat × Call → Prop} (report : ProbeReport) :
    CleanCut c tied (dial setup key address client report)
      (dial (cutAt c setup) key address client report)
      fun start result => result =
        (latestBefore c report
          (historySinceResolution setup key address client report start)).withError canceled := by
  apply bind_cut
    (fun value t result => value.1 = .answered (.ok ()) ∧
      let next := { report with connected := true, dialTime := value.2 }
      result = (latestBefore c next
        (historySinceDial setup key address client next t)).withError canceled)
    (measured_cut (request_cut setup.token _ _ _ c _))
  -- What follows the dial is cut as well; a cut in the dial itself finds the history empty; and a
  -- cut after it finds the report with the dial in it.
  · rintro ⟨(e | ⟨⟩) | _ | _, elapsed⟩
    · exact pure_cut _ _
    · exact (handshake_cut c setup key address client _).weaken fun _ _ same => ⟨rfl, same⟩
    · exact pure_cut _ _
    · exact pure_cut _ _
  · rintro start ⟨_, elapsed⟩ running rfl
    refine ⟨_, rfl, ?_⟩
    unfold historySinceResolution
    split
    · rename_i t elapsed' ended
      rw [latest_before_of_late (late_of_running running ended)]
    · rfl
  · rintro start t ⟨_, elapsed⟩ result ended soon ⟨rfl, rfl⟩
    have connected : (dialing setup address client start).ending =
      .returned t (.answered (.ok ()), elapsed) := ended
    unfold historySinceResolution
    rw [connected]
    dsimp only
    rw [latest_before_of_early soon]

theorem resolve_failure_of_given_up {host : String} {e : Dns.DnsError}
    (given : e.root = .canceled) : resolveFailure host e = canceled := by
  unfold resolveFailure
  rw [given]

theorem history_of_resolved {target : HostPort} (readable : HostPort.read address.address = .ok target)
    {start t : Nat} {ips : List Ip}
    (ended : (setup.resolve address.protocol target.host start).ending =
      .returned t (.ok ips)) :
    history setup key address client start =
      let next := { ProbeReport.untouched address with resolvedAddresses := ips }
      (t, next) :: historySinceResolution setup key address client next t := by
  unfold history
  rw [readable]
  simp only [ended]

theorem probe_cut :
    CleanCut c (setup.TiedAt c address.protocol) (run setup key address client)
      (run (cutAt c setup) key address client)
      fun start result => result =
        (latestBefore c (.untouched address)
          (history setup key address client start)).withError canceled := by
  unfold run
  cases readable : HostPort.read address.address with
  | error e => exact pure_cut _ _
  | ok target =>
    apply bind_cut
      (fun value t result => ∃ ips, value = .ok ips ∧
        let next := { ProbeReport.untouched address with resolvedAddresses := ips }
        result = (latestBefore c next
          (historySinceResolution setup key address client next t)).withError canceled)
      (Dns.Resolver.resolve_cut c setup.resolver (setup.names.facing address.protocol) setup.token
        target.host)
    · rintro (e | ips)
      · exact pure_cut _ _
      · exact (dial_cut c setup key address client _).weaken fun _ _ same => ⟨ips, rfl, same⟩
    · rintro start _ running ⟨e, rfl, given⟩
      refine ⟨_, rfl, ?_⟩
      rw [resolve_failure_of_given_up given]
      unfold history
      rw [readable]
      dsimp only
      split
      · rename_i t ips ended
        rw [latest_before_of_late (late_of_running running ended)]
      · rfl
    · rintro start t _ result ended soon ⟨ips, rfl, rfl⟩
      rw [history_of_resolved setup key address client readable ended, latest_before_of_early soon]

end Cut

/-- The fields of the stages that `report` has come through are as they are there. -/
structure Keeps (report later : ProbeReport) : Prop where
  about : later.netAddress = report.netAddress
  resolved : report.resolvedAddresses ≠ [] → later.resolvedAddresses = report.resolvedAddresses
  connected : report.connected = true → later.connected = true ∧ later.dialTime = report.dialTime
  shaken : report.handshake = true →
    later.handshake = true ∧ later.handshakeTime = report.handshakeTime

structure InProgress (address : NetAddress) (report : ProbeReport) : Prop extends
    Unfinished address report where
  no_dial_time : report.connected = false → report.dialTime = 0
  no_handshake_time : report.handshake = false → report.handshakeTime = 0
  no_scan_time : report.scanTime = 0

/-- Along a history time goes on, and nothing recorded is lost. -/
def Grows (report : ProbeReport) (start : Nat) : List (Nat × ProbeReport) → Prop
  | [] => True
  | (t, next) :: rest => start ≤ t ∧ Keeps report next ∧ Grows next t rest

section Records

variable {setup : Setup} {key : PublicKey} {address : NetAddress} {client : Client}
  {report result : ProbeReport} {start t c : Nat}

theorem keeps_itself (report : ProbeReport) : Keeps report report :=
  ⟨rfl, fun _ => rfl, fun connected => ⟨connected, rfl⟩, fun shaken => ⟨shaken, rfl⟩⟩

theorem Keeps.trans {a b c : ProbeReport} (first : Keeps a b) (second : Keeps b c) : Keeps a c := by
  constructor
  · rw [second.about, first.about]
  · intro some
    rw [second.resolved (by rw [first.resolved some]; exact some), first.resolved some]
  · intro connected
    obtain ⟨still, time⟩ := first.connected connected
    obtain ⟨still', time'⟩ := second.connected still
    exact ⟨still', time'.trans time⟩
  · intro shaken
    obtain ⟨still, time⟩ := first.shaken shaken
    obtain ⟨still', time'⟩ := second.shaken still
    exact ⟨still', time'.trans time⟩

theorem keeps_with_error (report : ProbeReport) (error : String) :
    Keeps report (report.withError error) :=
  ⟨rfl, fun _ => rfl, fun connected => ⟨connected, rfl⟩, fun shaken => ⟨shaken, rfl⟩⟩

theorem latest_before_has {P : ProbeReport → Prop} {history : List (Nat × ProbeReport)}
    (first : P report) (each : ∀ e ∈ history, P e.2) : P (latestBefore c report history) := by
  induction history generalizing report with
  | nil => exact first
  | cons e rest ih =>
    unfold latestBefore
    split
    · exact ih (each e List.mem_cons_self) fun e' member => each e' (List.mem_cons_of_mem _ member)
    · exact first

theorem grown_keeps {history : List (Nat × ProbeReport)} (h : Grows report start history) :
    ∀ e ∈ history, start ≤ e.1 ∧ Keeps report e.2 := by
  induction history generalizing report start with
  | nil =>
    intro e member
    cases member
  | cons first rest ih =>
    obtain ⟨later, keeps, grows⟩ := h
    intro e member
    rcases List.mem_cons.mp member with rfl | member
    · exact ⟨later, keeps⟩
    · obtain ⟨later', keeps'⟩ := ih grows e member
      exact ⟨Nat.le_trans later later', keeps.trans keeps'⟩

theorem latest_before_keeps {history : List (Nat × ProbeReport)} (h : Grows report start history) :
    Keeps report (latestBefore c report history) ∧
      ∀ e ∈ history, e.1 < c → Keeps e.2 (latestBefore c report history) := by
  induction history generalizing report start with
  | nil => exact ⟨keeps_itself report, fun e member => by cases member⟩
  | cons first rest ih =>
    obtain ⟨t, next⟩ := first
    obtain ⟨later, keeps, grows⟩ := h
    by_cases soon : t < c
    · rw [latest_before_of_early soon]
      obtain ⟨all, each⟩ := ih grows
      refine ⟨keeps.trans all, ?_⟩
      intro e member early
      rcases List.mem_cons.mp member with rfl | member
      · exact all
      · exact each e member early
    · rw [latest_before_of_late (Nat.not_lt.mp soon)]
      refine ⟨keeps_itself report, ?_⟩
      intro e member early
      rcases List.mem_cons.mp member with rfl | member
      · exact absurd early soon
      · have := (grown_keeps grows e member).1
        omega

theorem scan_keeps (returned : (scan setup address client report start).ending = .returned t result) :
    Keeps report result := by
  obtain ⟨u, ⟨response, elapsed⟩, _, rest⟩ := returned_bind_iff.mp returned
  rcases response with (e | settings) | _ | _
  all_goals
    obtain ⟨_, rfl⟩ := returned_pure_iff.mp rest
    exact ⟨rfl, fun _ => rfl, fun connected => ⟨connected, rfl⟩, fun shaken => ⟨shaken, rfl⟩⟩

theorem handshake_keeps (fresh : report.handshake = false)
    (returned : (handshake setup key address client report start).ending = .returned t result) :
    Keeps report result ∧
      ∀ e ∈ historySinceDial setup key address client report start, Keeps e.2 result := by
  obtain ⟨u, ⟨response, elapsed⟩, upgraded, rest⟩ := returned_bind_iff.mp returned
  have ended : (upgrading setup key address client start).ending =
    .returned u (response, elapsed) := upgraded
  unfold historySinceDial
  rw [ended]
  rcases response with (e | ⟨⟩) | _ | _
  · obtain ⟨_, rfl⟩ := returned_pure_iff.mp rest
    exact ⟨⟨rfl, fun _ => rfl, fun connected => ⟨connected, rfl⟩, by simp [fresh]⟩, by simp⟩
  · have further := scan_keeps rest
    have shaken : Keeps report { report with handshake := true, handshakeTime := elapsed } :=
      ⟨rfl, fun _ => rfl, fun connected => ⟨connected, rfl⟩, by simp [fresh]⟩
    exact ⟨shaken.trans further, by simpa using further⟩
  · obtain ⟨_, rfl⟩ := returned_pure_iff.mp rest
    exact ⟨keeps_with_error report _, by simp⟩
  · obtain ⟨_, rfl⟩ := returned_pure_iff.mp rest
    exact ⟨keeps_with_error report _, by simp⟩

theorem dial_keeps (unconnected : report.connected = false) (fresh : report.handshake = false)
    (returned : (dial setup key address client report start).ending = .returned t result) :
    Keeps report result ∧
      ∀ e ∈ historySinceResolution setup key address client report start, Keeps e.2 result := by
  obtain ⟨u, ⟨response, elapsed⟩, dialed, rest⟩ := returned_bind_iff.mp returned
  have ended : (dialing setup address client start).ending =
    .returned u (response, elapsed) := dialed
  unfold historySinceResolution
  rw [ended]
  rcases response with (e | ⟨⟩) | _ | _
  · obtain ⟨_, rfl⟩ := returned_pure_iff.mp rest
    exact ⟨⟨rfl, fun _ => rfl, by simp [unconnected], fun shaken => ⟨shaken, rfl⟩⟩, by simp⟩
  · have shaking : (handshake setup key address client
        { report with connected := true, dialTime := elapsed } u).ending = .returned t result := rest
    have unshaken : ({ report with connected := true, dialTime := elapsed } :
        ProbeReport).handshake = false := fresh
    obtain ⟨further, each⟩ := handshake_keeps unshaken shaking
    have connected : Keeps report { report with connected := true, dialTime := elapsed } :=
      ⟨rfl, fun _ => rfl, by simp [unconnected], fun shaken => ⟨shaken, rfl⟩⟩
    exact ⟨connected.trans further, List.forall_mem_cons.mpr ⟨further, each⟩⟩
  · obtain ⟨_, rfl⟩ := returned_pure_iff.mp rest
    exact ⟨⟨rfl, fun _ => rfl, by simp [unconnected], fun shaken => ⟨shaken, rfl⟩⟩, by simp⟩
  · obtain ⟨_, rfl⟩ := returned_pure_iff.mp rest
    exact ⟨keeps_with_error report _, by simp⟩

theorem probe_keeps
    (returned : (run setup key address client start).ending = .returned t result) :
    Keeps (.untouched address) result ∧
      ∀ e ∈ history setup key address client start, Keeps e.2 result := by
  unfold run at returned
  cases readable : HostPort.read address.address with
  | error e =>
    rw [readable] at returned
    obtain ⟨_, rfl⟩ := returned_pure_iff.mp returned
    unfold history
    rw [readable]
    exact ⟨keeps_with_error _ _, by simp⟩
  | ok target =>
    rw [readable] at returned
    obtain ⟨u, outcome, resolved, rest⟩ := returned_bind_iff.mp returned
    cases outcome with
    | error e =>
      obtain ⟨_, rfl⟩ := returned_pure_iff.mp rest
      unfold history
      rw [readable]
      simp only [resolved]
      exact ⟨keeps_with_error _ _, by simp⟩
    | ok ips =>
      have dialed : (dial setup key address client
          { ProbeReport.untouched address with resolvedAddresses := ips } u).ending =
            .returned t result := rest
      obtain ⟨further, each⟩ := dial_keeps rfl rfl dialed
      have begun : Keeps (.untouched address)
          { ProbeReport.untouched address with resolvedAddresses := ips } :=
        ⟨rfl, fun some => absurd rfl some, fun connected => ⟨connected, rfl⟩,
          fun shaken => ⟨shaken, rfl⟩⟩
      rw [history_of_resolved setup key address client readable resolved]
      exact ⟨begun.trans further, List.forall_mem_cons.mpr ⟨further, each⟩⟩

theorem since_dial_grows (fresh : report.handshake = false) :
    Grows report start (historySinceDial setup key address client report start) := by
  unfold historySinceDial
  split
  · rename_i u elapsed ended
    refine ⟨ends_after_start (measured_orderly (request_orderly _ _ _ _)) ended, ?_, trivial⟩
    exact ⟨rfl, fun _ => rfl, fun connected => ⟨connected, rfl⟩, by simp [fresh]⟩
  · trivial

theorem since_resolution_grows (unconnected : report.connected = false)
    (fresh : report.handshake = false) :
    Grows report start (historySinceResolution setup key address client report start) := by
  unfold historySinceResolution
  split
  · rename_i u elapsed ended
    refine ⟨ends_after_start (measured_orderly (request_orderly _ _ _ _)) ended, ?_,
      since_dial_grows fresh⟩
    exact ⟨rfl, fun _ => rfl, by simp [unconnected], fun shaken => ⟨shaken, rfl⟩⟩
  · trivial

theorem history_grows :
    Grows (.untouched address) start (history setup key address client start) := by
  unfold history
  split
  · trivial
  · rename_i target readable
    split
    · rename_i u ips ended
      refine ⟨ends_after_start
        (Dns.Resolver.resolve_cut 0 setup.resolver (setup.names.facing address.protocol)
          setup.token target.host).orderly ended, ?_, since_resolution_grows rfl rfl⟩
      exact ⟨rfl, fun some => absurd rfl some, fun connected => ⟨connected, rfl⟩,
        fun shaken => ⟨shaken, rfl⟩⟩
    · trivial

theorem since_dial_in_progress (h : InProgress address report) (connected : report.connected = true) :
    ∀ e ∈ historySinceDial setup key address client report start, InProgress address e.2 := by
  unfold historySinceDial
  split
  · rename_i u elapsed ended
    intro e member
    cases List.mem_singleton.mp member
    exact { h with
      connected_of_handshake := fun _ => connected
      no_handshake_time := by simp }
  · intro e member
    cases member

theorem since_resolution_in_progress (h : InProgress address report)
    (resolved : report.resolvedAddresses ≠ []) :
    ∀ e ∈ historySinceResolution setup key address client report start,
      InProgress address e.2 := by
  unfold historySinceResolution
  split
  · rename_i u elapsed ended
    have next : InProgress address { report with connected := true, dialTime := elapsed } :=
      { h with
        connected_of_handshake := fun _ => rfl
        resolved_of_connected := fun _ => resolved
        no_dial_time := by simp }
    exact List.forall_mem_cons.mpr ⟨next, since_dial_in_progress next rfl⟩
  · intro e member
    cases member

theorem untouched_in_progress (address : NetAddress) : InProgress address (.untouched address) :=
  { untouched_unfinished address with
    no_dial_time := fun _ => rfl
    no_handshake_time := fun _ => rfl
    no_scan_time := rfl }

theorem history_in_progress :
    ∀ e ∈ history setup key address client start, InProgress address e.2 := by
  unfold history
  split
  · intro e member
    cases member
  · split
    · rename_i u ips ended
      have found := Dns.Resolver.resolve_finds_some ⟨u, ended⟩
      have next : InProgress address
          { ProbeReport.untouched address with resolvedAddresses := ips } :=
        { untouched_in_progress address with resolved_of_connected := fun _ => found }
      exact List.forall_mem_cons.mpr ⟨next, since_resolution_in_progress next found⟩
    · intro e member
      cases member

end Records

section AtOnce

/-- A report that has nothing to say but that the test was cancelled. -/
structure IsCutOff (report : ProbeReport) : Prop where
  one_error : report.errors = [canceled]
  no_warnings : report.warnings = []
  unscanned : report.scanned = false
  no_settings : report.settings = none

/-- A report that has nothing to show but the one error that it ends with. -/
structure IsBrokenOff (report : ProbeReport) : Prop where
  one_error : ∃ error, report.errors = [error]
  no_warnings : report.warnings = []
  unscanned : report.scanned = false
  no_settings : report.settings = none

def TurnedAway (address : NetAddress) (report : ProbeReport) : Prop :=
  ∃ text, report = .rejected address text ∨ report = .skipped address text

variable {c start : Nat}

theorem latest_is_cut_off {setup : Setup} {key : PublicKey} {address : NetAddress}
    {client : Client} :
    IsCutOff ((latestBefore c (.untouched address)
      (history setup key address client start)).withError canceled) := by
  have inProgress : ∀ e ∈ history setup key address client start, InProgress address e.2 :=
    history_in_progress
  have h := latest_before_has (c := c) (untouched_in_progress address) inProgress
  exact ⟨by simp [ProbeReport.withError, h.no_errors], h.no_warnings, h.unscanned, h.no_settings⟩

theorem probe_at_once (setup : Setup) (key : PublicKey) (address : NetAddress) (client : Client)
    (cancelled : setup.token.isCancelled start = true) (late : c ≤ start) :
    AtOnce start (setup.TiedAt c address.protocol) (fun report => IsCutOff report ∨ TurnedAway address report)
      (run setup key address client) := by
  unfold run
  cases HostPort.read address.address with
  | error e => exact pure_at_once (Or.inr ⟨_, Or.inl rfl⟩)
  | ok target =>
    apply bind_at_once
      (Dns.Resolver.resolve_at_once c setup.resolver _ cancelled late target.host)
    rintro (e | ips) given
    · cases given e rfl
      exact pure_at_once (Or.inl ⟨rfl, rfl, rfl, rfl⟩)
    · apply bind_at_once (measured_at_once (request_at_once setup.token _ _ _ cancelled))
      rintro ⟨_, elapsed⟩ rfl
      exact pure_at_once (Or.inl ⟨rfl, rfl, rfl, rfl⟩)

end AtOnce

/-- The report of a probe that was cut at `c`, beside the history of the probe that was not, and
    beside how that ends. -/
structure CutReport (c : Nat) (address : NetAddress) (history : List (Nat × ProbeReport))
    (whole : Ending ProbeReport) (report : ProbeReport) : Prop where
  one_error : report.errors = [canceled]
  no_warnings : report.warnings = []
  unscanned : report.scanned = false ∧ report.scanTime = 0 ∧ report.settings = none
  latest : report = (latestBefore c (.untouched address) history).withError canceled
  completed : ∀ e ∈ history, e.1 < c → Keeps e.2 report
  agrees : ∀ t result, whole = .returned t result → Keeps report result
  later_unset : (report.resolvedAddresses = [] → report.connected = false) ∧
    (report.connected = false → report.dialTime = 0 ∧ report.handshake = false) ∧
    (report.handshake = false → report.handshakeTime = 0)

theorem cut_report_of_latest {c start : Nat} {address : NetAddress} {whole : Ending ProbeReport}
    {history : List (Nat × ProbeReport)} (grows : Grows (.untouched address) start history)
    (inProgress : ∀ e ∈ history, InProgress address e.2)
    (kept : ∀ t result, whole = .returned t result →
      Keeps (.untouched address) result ∧ ∀ e ∈ history, Keeps e.2 result) :
    CutReport c address history whole
      ((latestBefore c (.untouched address) history).withError canceled) := by
  obtain ⟨_, each⟩ := latest_before_keeps (c := c) grows
  have h := latest_before_has (c := c) (untouched_in_progress address) inProgress
  constructor
  · simp [ProbeReport.withError, h.no_errors]
  · exact h.no_warnings
  · exact ⟨h.unscanned, h.no_scan_time, h.no_settings⟩
  · rfl
  · intro e member early
    exact (each e member early).trans (keeps_with_error _ _)
  · intro t result ended
    obtain ⟨first, others⟩ := kept t result ended
    have last := latest_before_has (P := fun report => Keeps report result) (c := c) first others
    exact ⟨last.about, last.resolved, last.connected, last.shaken⟩
  · refine ⟨?_, ?_, h.no_handshake_time⟩
    · intro none
      exact Bool.eq_false_iff.mpr fun connected => h.resolved_of_connected connected none
    · intro unconnected
      refine ⟨h.no_dial_time unconnected, Bool.eq_false_iff.mpr fun shaken => ?_⟩
      have connected := h.connected_of_handshake shaken
      exact Bool.false_ne_true (unconnected.symm.trans connected)

/-- One probe twice, once left alone and once cancelled at `c`. An end before `c` is an end in
    both. Otherwise, if no lookup comes to its end just at `c`, the second one ends there, with the
    requests that had been started by then and a report of the stages that had been completed, be
    it in the middle of a resolution. -/
theorem cancelled_probe_is_cut (setup : Setup) (key : PublicKey) (address : NetAddress)
    (client : Client) (start c : Nat) (begun : start < c) :
    let free := { setup with token := .never }
    let whole := run free key address client start
    let cut := run { setup with token := .cancelledFrom c } key address client start
    (whole.OverBefore c → cut = whole) ∧
    (¬ whole.OverBefore c →
      (∀ call ∈ startedBefore c whole.calls, ¬ setup.TiedAt c address.protocol call) →
      cut.calls = startedBefore c whole.calls ∧
      ∃ report, cut.ending = .returned c report ∧
        CutReport c address (history free key address client start) whole.ending report) := by
  intro free whole cut
  have law : CleanCut c (setup.TiedAt c address.protocol) (run free key address client)
      (run { setup with token := .cancelledFrom c } key address client) _ :=
    probe_cut c free key address client
  refine ⟨law.kept start begun, ?_⟩
  intro running apart
  obtain ⟨calls, report, ended, rfl⟩ := law.lost start begun running apart
  exact ⟨calls, _, ended,
    cut_report_of_latest history_grows history_in_progress fun _ _ returned => probe_keeps returned⟩

namespace BehindAlias

def names : NameService :=
  { system := fun _ _ => .answer 2 (.error .notFound)
    records := fun _ _ type => .answer 2 (.ok (if type = .cname then [.alias "b"] else []))
    ahead := fun _ _ _ => true }

def setup : Setup := ⟨.standard, names, 5, .never, .zero, 0⟩

def address : NetAddress := ⟨"a:1", .siamux⟩

def client : Client :=
  { dial := fun _ _ => .silence, upgrade := fun _ _ => .silence, scan := fun _ _ => .silence }

theorem cut_of_waiting_probe :
    let cut := run { setup with token := .cancelledFrom 9 } (.filled 0) address client 0
    cut.calls.map Prod.fst = [0, 2, 4, 6, 8] ∧
      ∃ report, cut.ending = .returned 9 report ∧ report.errors = ["test canceled"] := by
  intro cut
  have last : (run setup (.filled 0) address client 0).ending.instant? = some 26 := by decide
  have running : ¬ (run setup (.filled 0) address client 0).OverBefore 9 := by
    rintro ⟨t, finished, soon⟩
    rw [last] at finished
    cases finished
    omega
  obtain ⟨_, report, ended, h⟩ :=
    (cancelled_probe_is_cut setup (.filled 0) address client 0 9 (by decide)).2 running (by decide)
  exact ⟨by decide, report, ended, h.one_error⟩

end BehindAlias
end Probe
end HostHealth
