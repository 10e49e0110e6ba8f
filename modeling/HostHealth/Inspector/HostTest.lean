import HostHealth.Inspector.Source
import HostHealth.Probe.Run

/- The test of one host. Its addresses are probed side by side under one token and with one
   snapshot, and a successful rhp2 scan leads to one more probe when they have ended. -/
namespace HostHealth.Inspector

open Net Probe Text

structure HostTest where
  host : Host
  snapshot : Snapshot
  token : Token

namespace HostTest

variable (policy : Policy) (resolver : Dns.Resolver) (world : World) (test : HostTest)

def setup : Setup :=
  { resolver := resolver
    names := world.names
    dialTimeout := policy.dialTimeout
    token := test.token
    latest := test.snapshot.latest
    tipHeight := test.snapshot.consensus.index.height }

def legacyAllowed : Bool := test.snapshot.consensus.legacyAllowed

def noClient (protocol : Protocol) : String :=
  "no client registered for protocol " ++ protocol.name

def crashText (reason : String) : String :=
  "probe failed: task N panicked with message " ++ quote reason

def probe (address : NetAddress) (client : Client) : Timed Call ProbeReport :=
  Probe.run (test.setup policy resolver world) test.host.publicKey address client

/-- The activity for an announced address, after the protocols in `seen`. -/
def lane (seen : List Protocol) (address : NetAddress) : Timed Call ProbeReport :=
  let protocol := address.protocol
  if protocol ∈ seen then
    return .rejected address ("duplicate protocol " ++ quote protocol.name)
  else if protocol.generation.isLegacy && !test.legacyAllowed then
    return .skipped address
      ("protocol " ++ protocol.name ++ " is not supported after the v2 hardfork")
  else match world.clients.find? protocol with
    | none => return .rejected address (noClient protocol)
    | some client =>
      (test.probe policy resolver world address client).rescued
        fun reason => .rejected address (crashText reason)

def lanes (seen : List Protocol) : List NetAddress → List (Timed Call ProbeReport)
  | [] => []
  | address :: rest =>
    test.lane policy resolver world seen address :: lanes (address.protocol :: seen) rest

def newestRelease? (report : ProbeReport) : Option String :=
  if report.netAddress.protocol.generation = .newest then report.release else none

/-- The release that was reported first, the earlier address going first at one instant. -/
def firstRelease (ended : List (Nat × ProbeReport)) : Option (Nat × String) :=
  ended.foldl
    (fun best e =>
      match newestRelease? e.2, best with
      | none, _ => best
      | some release, none => some (e.1, release)
      | some release, some b => if e.1 < b.1 then some (e.1, release) else some b)
    none

def reconcile (ended : List (Nat × ProbeReport)) : List ProbeReport :=
  let first := firstRelease ended
  ended.map fun e =>
    match first, newestRelease? e.2 with
    | some f, some release =>
      if f.2 = release then e.2
      else e.2.withError
        ("host is reporting multiple versions " ++ quote f.2 ++ " and " ++ quote release)
    | _, _ => e.2

def announced? (results : List ProbeReport) : Option SettingsV2 :=
  results.findSome? fun report =>
    match report.netAddress.protocol, report.settings with
    | .rhp2, some (.v2 settings) => some settings
    | _, _ => none

/-- The probe of the rhp3 address that rhp2 settings imply: the announced host, and the port
    that they name. -/
def derived (settings : SettingsV2) : Timed Call ProbeReport :=
  match HostPort.read settings.netAddress with
  | .error e =>
    return .rejected ⟨settings.netAddress, .rhp3⟩ (unreadable settings.netAddress e)
  | .ok target =>
    let address : NetAddress := ⟨HostPort.join target.host settings.siamuxPort, .rhp3⟩
    match world.clients.find? .rhp3 with
    | none => return .rejected address (noClient .rhp3)
    | some client => test.probe policy resolver world address client

def derivedIfDue (results : List ProbeReport) : Timed Call (Option ProbeReport) :=
  if test.legacyAllowed && !(test.host.netAddresses.any fun a => a.protocol = .rhp3) then
    match announced? results with
    | some settings => do return some (← test.derived policy resolver world settings)
    | none => return none
  else return none

/-- The release of the newest generation that reported one, the first address going first. -/
def inferVersion (results : List ProbeReport) (rhp3 : Option ProbeReport) : String :=
  let all := results ++ rhp3.toList
  (Generation.newestFirst.findSome? fun generation =>
    (all.filter fun r => r.netAddress.protocol.generation = generation).findSome?
      ProbeReport.release).getD ""

def run : Timed Call HostReport := do
  let ended ← Timed.together (test.lanes policy resolver world [] test.host.netAddresses)
  let results := reconcile ended
  let rhp3 ← test.derivedIfDue policy resolver world results
  return {
    publicKey := test.host.publicKey
    version := inferVersion results rhp3
    results := results
    rhp3 := rhp3 }

end HostTest
end HostHealth.Inspector
