import HostHealth.Proofs.CallDiscipline
import HostHealth.Proofs.Replies
import HostHealth.Proofs.WrittenNumbers

/- How a dial that fails is recorded. What the client says about it is taken over as it is, but on
   datagrams, where silence and refusal look alike, it is replaced by the port of the address that
   was probed. By the time of a dial that address has been read, so there is always such a port. -/
namespace HostHealth

open Net Text Timed

namespace Text

theorem escape_of_digit : ∀ d < 10, escapeChar '"' (digitChar d) = [digitChar d] := by decide

theorem quote_decimal (n : Nat) : quote (decimal n) = "\"" ++ decimal n ++ "\"" := by
  have plain : (digits n).flatMap (escapeChar '"') = digits n := by
    have each : ∀ c ∈ digits n, escapeChar '"' c = [c] := by
      intro c member
      obtain ⟨d, small, rfl⟩ := mem_written digits_positional member
      exact escape_of_digit d small
    rw [List.flatMap_congr each, List.flatMap_singleton']
  apply String.toList_inj.mp
  simp [quote, decimal, plain]

end Text

namespace Probe

def DialError.IsSilence : DialError → Prop
  | .timeout _ | .refused _ | .portUnreachable _ => True
  | .dns _ | .io _ _ => False

section Classification

variable {address : NetAddress} {error : DialError} {target : HostPort}

theorem classify_of_stream (stream : address.protocol ≠ .quic) :
    classify address error = error := by
  have transport : address.protocol.transport = .stream := by
    cases protocol : address.protocol with
    | quic => exact absurd protocol stream
    | _ => rfl
  unfold classify
  rw [transport]

theorem classify_of_silence (datagram : address.protocol = .quic) (silence : error.IsSilence)
    (readable : HostPort.read address.address = .ok target) :
    classify address error = .portUnreachable (decimal target.port.toNat) := by
  unfold classify
  rw [datagram, readable]
  cases error with
  | timeout | refused | portUnreachable => rfl
  | dns | io => cases silence

theorem classify_of_noise (noise : ¬ error.IsSilence) : classify address error = error := by
  unfold classify
  cases error with
  | timeout | refused | portUnreachable => exact absurd trivial noise
  | dns | io => cases address.protocol.transport <;> rfl

end Classification

def unreachableText (port : UInt16) : String :=
  "failed to connect to quic: check port forwarding and firewall settings for UDP port \""
    ++ decimal port.toNat ++ "\""

theorem unreachable_text_eq (port : UInt16) :
    (DialError.portUnreachable (decimal port.toNat)).message = unreachableText port := by
  change "failed to connect to quic: check port forwarding and firewall settings for UDP port "
    ++ quote (decimal port.toNat) = _
  rw [quote_decimal, ← String.append_assoc, ← String.append_assoc]
  rfl

section Dials

variable (setup : Setup) (key : PublicKey) (address : NetAddress) (client : Client)

/-- How a dial that starts at an instant fails, and when: with the error that the client gives in
    time, or, if it gives nothing in time, as one that was waited for in vain. -/
inductive DialFails (s : Nat) : DialError → Nat → Prop
  | told (delay : Nat) {error : DialError} :
    client.dial s address.address = .answer delay (.error error) → delay ≤ setup.dialTimeout →
    DialFails s error (s + delay)
  | late : (client.dial s address.address).IsLate setup.dialTimeout →
    DialFails s (.timeout address.address) (s + setup.dialTimeout)

def dialBy (named : DialError → DialError) : Stage := fun report => do
  let (response, elapsed) ← Timed.measured <|
    request setup.token (some setup.dialTimeout) (.dial address.protocol address.address)
      fun t => client.dial t address.address
  match response with
  | .answered (.ok ()) =>
    handshake setup key address client { report with connected := true, dialTime := elapsed }
  | .answered (.error e) =>
    return { report with dialTime := elapsed }.withError (named e).message
  | .timedOut =>
    return { report with dialTime := elapsed }.withError (named (.timeout address.address)).message
  | .cancelled => return report.withError canceled

def runBy (named : DialError → DialError) : Timed Call ProbeReport := do
  let report := ProbeReport.untouched address
  match HostPort.read address.address with
  | .error e => return report.withError (unreadable address.address e)
  | .ok target =>
    match ← setup.resolve address.protocol target.host with
    | .error e => return report.withError (resolveFailure target.host e)
    | .ok ips => dialBy setup key address client named { report with resolvedAddresses := ips }

def classifyOr (fallback : String) (address : NetAddress) (error : DialError) : DialError :=
  match address.protocol.transport, error with
  | .datagram, .timeout _ | .datagram, .refused _ | .datagram, .portUnreachable _ =>
    match HostPort.read address.address with
    | .ok target => .portUnreachable (decimal target.port.toNat)
    | .error _ => .portUnreachable fallback
  | _, _ => error

variable {setup key address client} {report : ProbeReport} {s t start : Nat} {e : DialError}

theorem run_by_classify :
    runBy setup key address client (classify address) = run setup key address client := rfl

theorem classify_or_empty : classifyOr "" address = classify address := rfl

theorem classify_or_of_readable {target : HostPort}
    (readable : HostPort.read address.address = .ok target) (fallback : String) :
    classifyOr fallback address = classify address := by
  funext error
  unfold classifyOr classify
  cases address.protocol.transport <;> cases error <;> simp only [readable]

theorem run_with_fallback (fallback : String) :
    runBy setup key address client (classifyOr fallback address) =
      run setup key address client := by
  rw [← run_by_classify]
  cases readable : HostPort.read address.address with
  | error e =>
    unfold runBy
    rw [readable]
  | ok target => rw [classify_or_of_readable readable]

theorem dial_of_failure (fails : DialFails setup address client s e t)
    (isOpen : setup.token.isCancelled t = false) :
    (dial setup key address client report s).ending =
      .returned t
        ({ report with dialTime := t - s }.withError (classify address e).message) := by
  unfold dial
  cases fails with
  | told delay came inTime =>
    have asked := request_of_answer setup.token (Call.dial address.protocol address.address)
      (fun t => client.dial t address.address) came inTime isOpen
    rw [bind_of_returned (by rw [ending_of_measured, asked])]
    rfl
  | late silent =>
    have asked := request_of_silence setup.token (Call.dial address.protocol address.address)
      (fun t => client.dial t address.address) silent isOpen
    rw [bind_of_returned (by rw [ending_of_measured, asked])]
    rfl

variable (key) in
theorem probe_after_lookup {target : HostPort} {ips : List Ip}
    (readable : HostPort.read address.address = .ok target)
    (found : (setup.resolve address.protocol target.host start).ending =
      .returned s (.ok ips)) :
    (run setup key address client start).ending =
      (dial setup key address client
        { ProbeReport.untouched address with resolvedAddresses := ips } s).ending := by
  unfold run
  rw [readable]
  dsimp only
  rw [bind_of_returned found]

theorem crashed_after_dial_crash {delay : Nat} {reason : String}
    (came : client.dial s address.address = .crash delay reason)
    (inTime : delay ≤ setup.dialTimeout) (isOpen : setup.token.isCancelled (s + delay) = false) :
    (dial setup key address client report s).ending = .crashed (s + delay) reason := by
  unfold dial
  have asked := request_of_crash setup.token (Call.dial address.protocol address.address)
    (fun t => client.dial t address.address) came inTime isOpen
  rw [bind_of_crashed (by rw [ending_of_measured, asked])]

theorem fails_of_unconnected
    (asked : (s, Call.dial address.protocol address.address) ∈
      (run setup key address client start).calls)
    (isOpen : setup.token.isCancelled (s + setup.dialTimeout) = false)
    (returned : (run setup key address client start).ending = .returned t report)
    (unconnected : report.connected = false) :
    ∃ e u, DialFails setup address client s e u := by
  have still_open : ∀ delay ≤ setup.dialTimeout, setup.token.isCancelled (s + delay) = false :=
    fun delay inTime => open_before isOpen (Nat.add_le_add_left inTime s)
  rcases reply_cases setup.dialTimeout (client.dial s address.address) with
    ⟨delay, inTime, e | _, came⟩ | ⟨delay, inTime, reason, came⟩ | late
  · exact ⟨e, s + delay, .told delay came inTime⟩
  · have succeeds : DialSucceeds setup address client s (s + delay) :=
      ⟨delay, came, rfl, by simpa using inTime, still_open delay inTime⟩
    have connected := (connected_iff returned).mpr ⟨s, _, asked, succeeds⟩
    cases unconnected.symm.trans connected
  · obtain ⟨⟨target, ips, readable, _, found⟩, _⟩ := dial_asked_iff.mp asked
    rw [probe_after_lookup key readable found,
      crashed_after_dial_crash came inTime (still_open delay inTime)] at returned
    cases returned
  · exact ⟨_, _, .late late⟩

end Dials

/-- How a failed dial is recorded, in a probe that is not cancelled before it has failed. Whatever
    stood for the port in an address that cannot be read, no probe would be any different. -/
theorem dial_failures_are_classified (setup : Setup) (key : PublicKey) (address : NetAddress)
    (client : Client) (start : Nat) :
    let course := run setup key address client start
    (∀ s e t, (s, Call.dial address.protocol address.address) ∈ course.calls →
      DialFails setup address client s e t → setup.token.isCancelled t = false →
      ∃ target ips text, HostPort.read address.address = .ok target ∧
        (setup.resolve address.protocol target.host start).ending =
          .returned s (.ok ips) ∧
        course.ending = .returned t { ProbeReport.untouched address with
          resolvedAddresses := ips
          dialTime := t - s
          errors := [text] } ∧
        (address.protocol ≠ .quic → text = e.message) ∧
        (address.protocol = .quic → e.IsSilence → text = unreachableText target.port) ∧
        (address.protocol = .quic → ¬ e.IsSilence → text = e.message)) ∧
    (∀ s t report, (s, Call.dial address.protocol address.address) ∈ course.calls →
      setup.token.isCancelled (s + setup.dialTimeout) = false →
      course.ending = .returned t report → report.connected = false →
      ∃ e u, DialFails setup address client s e u) ∧
    classifyOr "" address = classify address ∧
    ∀ fallback, runBy setup key address client (classifyOr fallback address) =
      run setup key address client := by
  intro course
  refine ⟨?recorded, ?complete, classify_or_empty, run_with_fallback⟩
  case recorded =>
    intro s e t asked fails isOpen
    obtain ⟨⟨target, ips, readable, _, found⟩, _⟩ := dial_asked_iff.mp asked
    have ended := (probe_after_lookup key readable found).trans (dial_of_failure fails isOpen)
    refine ⟨target, ips, _, readable, found, ended, ?stream, ?silence, ?noise⟩
    case stream =>
      intro stream
      rw [classify_of_stream stream]
    case silence =>
      intro datagram silence
      rw [classify_of_silence datagram silence readable, unreachable_text_eq]
    case noise =>
      intro _ noise
      rw [classify_of_noise noise]
  case complete =>
    intro s t report asked isOpen returned unconnected
    exact fails_of_unconnected asked isOpen returned unconnected

theorem unreachable_at_own_port :
    let setup : Setup :=
      { resolver := .standard
        names := .silent
        dialTimeout := 5
        token := .cancelledFrom 20
        latest := ⟨1, 2, 3, ""⟩
        tipHeight := 100 }
    let hung : Client :=
      { dial := fun _ _ => .silence
        upgrade := fun _ _ => .silence
        scan := fun _ _ => .silence }
    let refusing : Client :=
      { hung with dial := fun _ _ => .answer 2 (.error (.refused "192.0.2.1:1")) }
    let failed (address : NetAddress) (dialTime : Nat) (error : String) : ProbeReport :=
      { ProbeReport.untouched address with
        resolvedAddresses := [.v4 ⟨1, 2, 3, 4⟩]
        dialTime := dialTime
        errors := [error] }
    let datagram : NetAddress := ⟨"1.2.3.4:0443", .quic⟩
    let stream : NetAddress := ⟨"1.2.3.4:0443", .siamux⟩
    DialFails setup datagram refusing 10 (.refused "192.0.2.1:1") 12 ∧
    (run setup (.filled 0) datagram refusing 10).ending =
      .returned 12 (failed datagram 2 (unreachableText 443)) ∧
    DialFails setup stream hung 10 (.timeout "1.2.3.4:0443") 15 ∧
    (run setup (.filled 0) stream hung 10).ending =
      .returned 15 (failed stream 5 (DialError.timeout "1.2.3.4:0443").message) := by
  intro setup hung refusing failed datagram stream
  have refused : DialFails setup datagram refusing 10 (.refused "192.0.2.1:1") 12 :=
    .told 2 rfl (by decide)
  have silent : DialFails setup stream hung 10 (.timeout "1.2.3.4:0443") 15 := .late nofun
  have read : HostPort.read "1.2.3.4:0443" = .ok ⟨"1.2.3.4", 443⟩ := by rfl
  have found : (setup.resolver.resolve setup.names setup.token "1.2.3.4" 10).ending =
      .returned 10 (.ok [.v4 ⟨1, 2, 3, 4⟩]) := rfl
  have asked : (10, Call.dial .quic "1.2.3.4:0443") ∈
      (run setup (.filled 0) datagram refusing 10).calls :=
    dial_asked_iff.mpr ⟨⟨_, _, read, List.cons_ne_nil _ _, found⟩, rfl⟩
  have asked' : (10, Call.dial .siamux "1.2.3.4:0443") ∈
      (run setup (.filled 0) stream hung 10).calls :=
    dial_asked_iff.mpr ⟨⟨_, _, read, List.cons_ne_nil _ _, found⟩, rfl⟩
  refine ⟨refused, ?_, silent, ?_⟩
  · obtain ⟨_, _, text, same, found', ended, _, unreachable, _⟩ :=
      (dial_failures_are_classified setup (.filled 0) datagram refusing 10).1 10 _ 12
        asked refused rfl
    cases read.symm.trans same
    cases found.symm.trans found'
    cases unreachable rfl trivial
    exact ended
  · obtain ⟨_, _, text, same, found', ended, unchanged, _⟩ :=
      (dial_failures_are_classified setup (.filled 0) stream hung 10).1 10 _ 15
        asked' silent rfl
    cases read.symm.trans same
    cases found.symm.trans found'
    cases unchanged nofun
    exact ended

end Probe
end HostHealth
