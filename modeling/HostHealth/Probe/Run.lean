import HostHealth.Dns.Resolver
import HostHealth.Probe.Client
import HostHealth.Probe.Report
import HostHealth.Settings.Validation

/- A probe of one address. It resolves the host, dials, shakes hands, asks for the settings
   and judges them, once and in this order. The first stage that fails records its error and
   ends the probe, and what later stages would have recorded stays untouched. -/
namespace HostHealth.Probe

open Net Dns Text

structure Setup where
  resolver : Resolver
  names : NameService
  dialTimeout : Nat
  token : Token
  latest : Version
  tipHeight : UInt64

def Setup.resolve (setup : Setup) (protocol : Protocol) (host : String) : Lookup :=
  setup.resolver.resolve (setup.names.facing protocol) setup.token host

def canceled : String := "test canceled"

def resolveFailure (host : String) (error : DnsError) : String :=
  match error.root with
  | .canceled => canceled
  | .notFound =>
    "DNS lookup " ++ quote host ++ " failed: check DNS records or wait for propagation"
  | _ => "failed to resolve host " ++ quote host ++ ": " ++ error.message

/-- Datagrams do not tell a closed port from a lost packet, so every silence there counts as
    an unreachable port. -/
def classify (address : NetAddress) (error : DialError) : DialError :=
  match address.protocol.transport, error with
  | .datagram, .timeout _ | .datagram, .refused _ | .datagram, .portUnreachable _ =>
    match HostPort.read address.address with
    | .ok target => .portUnreachable (decimal target.port.toNat)
    | .error _ => .portUnreachable ""
  | _, _ => error

def unreadable (address : String) (error : AddressError) : String :=
  "failed to parse net address " ++ quote address ++ ": " ++ error.message

def judge (setup : Setup) (settings : Settings) (report : ProbeReport) : ProbeReport :=
  let findings := settings.validate
    { latest := setup.latest, tipHeight := setup.tipHeight, dialed := report.netAddress.address }
  { report with
    warnings := report.warnings ++ (findings.filter (!·.isError)).map Finding.message
    errors := report.errors ++ (findings.filter (·.isError)).map Finding.message }

abbrev Stage := ProbeReport → Timed Call ProbeReport

variable (setup : Setup) (key : PublicKey) (address : NetAddress) (client : Client)

def scan : Stage := fun report => do
  let (response, elapsed) ← Timed.measured <|
    request setup.token none (.scan address.protocol address.address)
      fun t => client.scan t address.address
  match response with
  | .answered (.ok settings) =>
    return judge setup settings
      { report with scanned := true, scanTime := elapsed, settings := some settings }
  | .answered (.error e) =>
    return { report with scanTime := elapsed }.withError
      ("failed to get settings: " ++ e.message)
  | _ => return report.withError canceled

def handshake : Stage := fun report => do
  let (response, elapsed) ← Timed.measured <|
    request setup.token none (.upgrade address.protocol key) fun t => client.upgrade t key
  match response with
  | .answered (.ok ()) =>
    scan setup address client { report with handshake := true, handshakeTime := elapsed }
  | .answered (.error e) =>
    return { report with handshakeTime := elapsed }.withError
      ("failed to complete handshake: " ++ e.message)
  | _ => return report.withError canceled

def dial : Stage := fun report => do
  let (response, elapsed) ← Timed.measured <|
    request setup.token (some setup.dialTimeout) (.dial address.protocol address.address)
      fun t => client.dial t address.address
  match response with
  | .answered (.ok ()) =>
    handshake setup key address client { report with connected := true, dialTime := elapsed }
  | .answered (.error e) =>
    return { report with dialTime := elapsed }.withError (classify address e).message
  | .timedOut =>
    return { report with dialTime := elapsed }.withError
      (classify address (.timeout address.address)).message
  | .cancelled => return report.withError canceled

def run : Timed Call ProbeReport := do
  let report := ProbeReport.untouched address
  match HostPort.read address.address with
  | .error e => return report.withError (unreadable address.address e)
  | .ok target =>
    match ← setup.resolve address.protocol target.host with
    | .error e => return report.withError (resolveFailure target.host e)
    | .ok ips => dial setup key address client { report with resolvedAddresses := ips }

end HostHealth.Probe
