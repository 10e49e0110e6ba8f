import HostHealth.Probe.Run
import HostHealth.Proofs.Lookups

/- What a probe has to show when it returns. Nothing is claimed of a probe that crashes or stays
   pending. -/
namespace HostHealth

open Net Timed

namespace Probe

open Dns

def findings (setup : Setup) (address : NetAddress) (settings : Settings) : List Finding :=
  settings.validate
    { latest := setup.latest, tipHeight := setup.tipHeight, dialed := address.address }

/-- A report while its probe goes on: no stage has failed yet, and nothing is judged. -/
structure Unfinished (address : NetAddress) (report : ProbeReport) : Prop where
  about : report.netAddress = address
  connected_of_handshake : report.handshake = true → report.connected = true
  resolved_of_connected : report.connected = true → report.resolvedAddresses ≠ []
  unscanned : report.scanned = false
  no_settings : report.settings = none
  no_errors : report.errors = []
  no_warnings : report.warnings = []

structure Staged (setup : Setup) (address : NetAddress) (report : ProbeReport) : Prop where
  handshake_of_scanned : report.scanned = true → report.handshake = true
  connected_of_handshake : report.handshake = true → report.connected = true
  resolved_of_connected : report.connected = true → report.resolvedAddresses ≠ []
  settings_iff_scanned : report.settings.isSome ↔ report.scanned = true
  stopped : report.scanned = false → (∃ error, report.errors = [error]) ∧ report.warnings = []
  judged : report.scanned = true → ∃ settings, report.settings = some settings ∧
    report.warnings =
      ((findings setup address settings).filter (!·.isError)).map Finding.message ∧
    report.errors = ((findings setup address settings).filter (·.isError)).map Finding.message

variable {setup : Setup} {key : PublicKey} {address : NetAddress} {client : Client}
  {report result : ProbeReport} {start t : Nat}

theorem untouched_unfinished (address : NetAddress) :
    Unfinished address (.untouched address) := by
  constructor <;> simp [ProbeReport.untouched]

theorem unfinished_at_other_times (h : Unfinished address report) (dialTime handshakeTime
    scanTime : Nat) :
    Unfinished address
      { report with
        dialTime := dialTime, handshakeTime := handshakeTime, scanTime := scanTime } :=
  ⟨h.about, h.connected_of_handshake, h.resolved_of_connected, h.unscanned, h.no_settings,
    h.no_errors, h.no_warnings⟩

theorem failed_is_staged (h : Unfinished address report) (error : String) :
    Staged setup address (report.withError error) := by
  have unscanned : (report.withError error).scanned = false := h.unscanned
  constructor
  · intro scanned
    rw [unscanned] at scanned
    cases scanned
  · exact h.connected_of_handshake
  · exact h.resolved_of_connected
  · simp [ProbeReport.withError, h.unscanned, h.no_settings]
  · intro _
    exact ⟨⟨error, by simp [ProbeReport.withError, h.no_errors]⟩, h.no_warnings⟩
  · intro scanned
    rw [unscanned] at scanned
    cases scanned

theorem judged_is_staged (h : Unfinished address report) (shaken : report.handshake = true)
    (settings : Settings) (elapsed : Nat) :
    Staged setup address
      (judge setup settings
        { report with scanned := true, scanTime := elapsed, settings := some settings }) := by
  constructor
  · intro _
    exact shaken
  · exact h.connected_of_handshake
  · exact h.resolved_of_connected
  · simp [judge]
  · intro unscanned
    cases unscanned
  · intro _
    refine ⟨settings, rfl, ?_, ?_⟩
    · simp [judge, findings, h.no_warnings, h.about]
    · simp [judge, findings, h.no_errors, h.about]

theorem scan_is_staged (h : Unfinished address report) (shaken : report.handshake = true)
    (returned : (scan setup address client report start).ending = .returned t result) :
    Staged setup address result := by
  obtain ⟨u, ⟨response, elapsed⟩, _, rest⟩ := returned_bind_iff.mp returned
  rcases response with (error | settings) | _ | _
  · obtain ⟨_, rfl⟩ := returned_pure_iff.mp rest
    exact failed_is_staged (unfinished_at_other_times h _ _ elapsed) _
  · obtain ⟨_, rfl⟩ := returned_pure_iff.mp rest
    exact judged_is_staged h shaken settings elapsed
  · obtain ⟨_, rfl⟩ := returned_pure_iff.mp rest
    exact failed_is_staged h _
  · obtain ⟨_, rfl⟩ := returned_pure_iff.mp rest
    exact failed_is_staged h _

theorem handshake_is_staged (h : Unfinished address report) (connected : report.connected = true)
    (returned : (handshake setup key address client report start).ending = .returned t result) :
    Staged setup address result := by
  obtain ⟨u, ⟨response, elapsed⟩, _, rest⟩ := returned_bind_iff.mp returned
  rcases response with (error | _) | _ | _
  · obtain ⟨_, rfl⟩ := returned_pure_iff.mp rest
    exact failed_is_staged (unfinished_at_other_times h _ elapsed _) _
  · have shaken : Unfinished address
        { report with handshake := true, handshakeTime := elapsed } :=
      ⟨h.about, fun _ => connected, h.resolved_of_connected, h.unscanned, h.no_settings,
        h.no_errors, h.no_warnings⟩
    exact scan_is_staged shaken rfl rest
  · obtain ⟨_, rfl⟩ := returned_pure_iff.mp rest
    exact failed_is_staged h _
  · obtain ⟨_, rfl⟩ := returned_pure_iff.mp rest
    exact failed_is_staged h _

theorem dial_is_staged (h : Unfinished address report) (resolved : report.resolvedAddresses ≠ [])
    (returned : (dial setup key address client report start).ending = .returned t result) :
    Staged setup address result := by
  obtain ⟨u, ⟨response, elapsed⟩, _, rest⟩ := returned_bind_iff.mp returned
  rcases response with (error | _) | _ | _
  · obtain ⟨_, rfl⟩ := returned_pure_iff.mp rest
    exact failed_is_staged (unfinished_at_other_times h elapsed _ _) _
  · have connected : Unfinished address { report with connected := true, dialTime := elapsed } :=
      ⟨h.about, fun _ => rfl, fun _ => resolved, h.unscanned, h.no_settings, h.no_errors,
        h.no_warnings⟩
    exact handshake_is_staged connected rfl rest
  · obtain ⟨_, rfl⟩ := returned_pure_iff.mp rest
    exact failed_is_staged (unfinished_at_other_times h elapsed _ _) _
  · obtain ⟨_, rfl⟩ := returned_pure_iff.mp rest
    exact failed_is_staged h _

/-- Whatever the address, the client, the name service and the time of a cancellation. -/
theorem returned_probe_is_staged (setup : Setup) (key : PublicKey) (address : NetAddress)
    (client : Client) (start t : Nat) (report : ProbeReport)
    (returned : (run setup key address client start).ending = .returned t report) :
    Staged setup address report := by
  have fresh := untouched_unfinished address
  unfold run at returned
  cases readable : HostPort.read address.address with
  | error e =>
    rw [readable] at returned
    obtain ⟨_, rfl⟩ := returned_pure_iff.mp returned
    exact failed_is_staged fresh _
  | ok target =>
    rw [readable] at returned
    obtain ⟨u, outcome, resolution, rest⟩ := returned_bind_iff.mp returned
    cases outcome with
    | error e =>
      obtain ⟨_, rfl⟩ := returned_pure_iff.mp rest
      exact failed_is_staged fresh _
    | ok ips =>
      have found := Resolver.resolve_finds_some ⟨u, resolution⟩
      have resolved : Unfinished address { ProbeReport.untouched address with
          resolvedAddresses := ips } :=
        ⟨fresh.about, fresh.connected_of_handshake, fun _ => found, fresh.unscanned,
          fresh.no_settings, fresh.no_errors, fresh.no_warnings⟩
      exact dial_is_staged resolved found rest

def Client.answering (settings : Settings) : Client :=
  { dial := fun _ _ => .answer 1 (.ok ())
    upgrade := fun _ _ => .answer 1 (.ok ())
    scan := fun _ _ => .answer 1 (.ok settings) }

theorem staged_off_the_tip :
    let setup : Setup :=
      { resolver := .standard
        names := .silent
        dialTimeout := 5
        token := .cancelledFrom 14
        latest := ⟨1, 2, 3, ""⟩
        tipHeight := 100 }
    let address : NetAddress := ⟨"1.2.3.4:5", .siamux⟩
    let settings : Settings := .v4
      { acceptingContracts := false
        maxCollateral := ⟨1, by decide⟩
        maxContractDuration := 4320
        release := "v1.2.3"
        netAddress := none
        prices :=
          { storagePrice := ⟨1, by decide⟩, collateral := ⟨2, by decide⟩, tipHeight := 97 } }
    let found := findings setup address settings
    let report : ProbeReport :=
      { netAddress := address
        resolvedAddresses := [.v4 ⟨1, 2, 3, 4⟩]
        connected := true
        dialTime := 1
        handshake := true
        handshakeTime := 1
        scanned := true
        scanTime := 1
        settings := some settings
        errors := (found.filter (·.isError)).map Finding.message
        warnings := (found.filter (!·.isError)).map Finding.message }
    (run setup (.filled 0) address (.answering settings) 10).ending = .returned 13 report ∧
      found = [.notAccepting, .offTip 97 100] ∧ Staged setup address report := by
  refine ⟨?ended, rfl, returned_probe_is_staged _ _ _ _ 10 13 _ ?ended⟩
  rfl

end Probe
end HostHealth
