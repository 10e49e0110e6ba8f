import HostHealth.CommandLine.Arguments
import HostHealth.CommandLine.Report
import HostHealth.Config
import HostHealth.Inspector.Basic
import HostHealth.Json.Writer

/- Running a command. It works under one configuration, that of the file with the options put
   over it, or it fails before it has asked anybody for anything. What it prints comes out only
   when it ends; a test of a host fails when the report has errors in it. -/
namespace HostHealth.CommandLine

open Net Text

structure Surroundings where
  colored : Bool
  file : String → Except String String
  world : Config → Inspector.World
  /-- The token that the next interrupt cancels, for who listens from an instant on. -/
  interrupt : Nat → Token := fun _ => .never

inductive Failure
  | file (reason : String)
  | config (reason : ConfigError)
  | version (reason : VersionError)
  | dns (reason : Dns.DnsError)
  | start (reason : Inspector.StartError)
  | refused (reason : Inspector.Refusal)
  deriving DecidableEq

def Failure.message : Failure → String
  | .file reason => "IO error: " ++ reason
  | .config reason => "Config error: " ++ reason.message
  | .version reason => reason.message
  | .dns reason => reason.message
  | .start reason => reason.message
  | .refused reason => reason.message

structure Outcome where
  code : UInt8
  output : String
  errors : String
  deriving DecidableEq, Repr

namespace Outcome

def printed (output : String) : Outcome := ⟨0, output, ""⟩

def failed (colored : Bool) (failure : Failure) : Outcome :=
  ⟨1, "", Color.red.bold.paint colored "error:" ++ " " ++ failure.message ++ "\n"⟩

def misused (error : UsageError) : Outcome := ⟨2, "", "error: " ++ error.message ++ "\n"⟩

end Outcome

/-! The configuration -/

def Options.file (options : Options) (around : Surroundings) : Except Failure Config :=
  match options.configFile with
  | none => .ok .standard
  | some path =>
    match around.file path with
    | .error reason => .error (.file reason)
    | .ok text =>
      match Config.read text with
      | .error reason => .error (.config reason)
      | .ok config => .ok config

/-- The options put over a configuration. They are taken as they are. -/
def Options.override (options : Options) (config : Config) : Config :=
  { inspection := { config.inspection with
      testTimeout := options.timeout.getD config.inspection.testTimeout }
    lookup := { config.lookup with
      fallbackServer := options.server.getD config.lookup.fallbackServer }
    explorer :=
      { address := options.explorer.getD config.explorer.address
        password := options.explorerPassword <|> config.explorer.password } }

def Options.effective (options : Options) (around : Surroundings) : Except Failure Config := do
  return options.override (← options.file around)

/-! The commands -/

abbrev Running := Timed Call (Except Failure Outcome)

/-- An activity that an interrupt cancels. Who listens from its start on is not told of one
    before. -/
def interruptible (around : Surroundings) (activity : Token → Running) : Running := fun now =>
  activity (around.interrupt now) now

def versionVerdict (current latest : Version) : String :=
  match current.compare latest with
  | .lt => "older than"
  | .eq => "equivalent to"
  | .gt => "newer than"

def versionText (colored : Bool) (current latest : Version) : String :=
  let status := if current.isOlder latest then Color.yellow.bold.paint colored "OUTDATED"
    else Color.green.bold.paint colored "OK"
  status ++ " " ++ current.text ++ " is " ++ versionVerdict current latest ++ " " ++ latest.text
    ++ "\n"

def versionJson (current latest : Version) : Json :=
  .object [("current", .text current.text), ("latest", .text latest.text),
    ("outdated", .bool (current.isOlder latest))]

def compareVersions (colored json : Bool) (current latest : String) : Except Failure Outcome :=
  match Version.readRelease current with
  | .error e => .error (.version e)
  | .ok current =>
    match Version.readRelease latest with
    | .error e => .error (.version e)
    | .ok latest =>
      .ok (.printed (if json then (versionJson current latest).writeSpread ++ "\n"
        else versionText colored current latest))

def resolutionText (colored : Bool) (hostname : String) (elapsed : Nat) (ips : List Ip) :
    String :=
  Color.green.bold.paint colored "RESOLVED" ++ " " ++ hostname ++ " ("
    ++ Color.cyan.plain.paint colored (Span.brief elapsed) ++ ")\n"
    ++ String.join (ips.map fun ip => "  " ++ ip.text ++ "\n")

def resolutionJson (hostname : String) (elapsed : Nat) (ips : List Ip) : Json :=
  .object [("hostname", .text hostname), ("addresses", .array (ips.map Ip.toJson)),
    ("elapsedMs", .natural (Span.dataMillis elapsed))]

def resolveHost (around : Surroundings) (options : Options) (config : Config)
    (hostname : String) : Running := interruptible around fun token => do
  let names := (around.world config).names
  let (found, elapsed) ← Timed.measured <|
    if options.direct then config.resolver.lookup names token hostname
    else config.resolver.resolve names token hostname
  match found with
  | .error e => return .error (.dns e)
  | .ok ips =>
    return .ok (.printed (if options.json then
        (resolutionJson hostname elapsed ips).writeSpread ++ "\n"
      else resolutionText around.colored hostname elapsed ips))

def reportOutcome (colored json : Bool) (report : HostReport) : Outcome :=
  { code := if report.hasErrors then 1 else 0
    output := if json then report.toJson.writeLines ++ "\n" else reportText colored report
    errors := "" }

def testHost (around : Surroundings) (options : Options) (config : Config) (host : Host) :
    Running := do
  let world := around.world config
  match ← Inspector.start config.policy world with
  | .error e => return .error (.start e)
  | .ok found =>
    interruptible around fun token now =>
      let inspector := Inspector.opened config.policy config.resolver now found
      match inspector.ask world now host token with
      | (.error e, _) => ⟨[], .returned now (.error (.refused e))⟩
      | (.ok test, inspector) =>
        Timed.bind (inspector.course world test)
          (fun report => return .ok (reportOutcome around.colored options.json report)) now

def runCommand (around : Surroundings) (invocation : Invocation) (config : Config) : Running :=
  match invocation.command with
  | .test host => testHost around invocation.options config host
  | .resolve hostname => resolveHost around invocation.options config hostname
  | .version current latest =>
    return compareVersions around.colored invocation.options.json current latest

def Invocation.run (around : Surroundings) (invocation : Invocation) : Timed Call Outcome := do
  match invocation.options.effective around with
  | .error failure => return .failed around.colored failure
  | .ok config =>
    match ← runCommand around invocation config with
    | .error failure => return .failed around.colored failure
    | .ok outcome => return outcome

def programVersion : String := "hostcheck 0.1.0\n"

def usage : String :=
  String.join <| List.map (· ++ "\n")
    ["Usage: hostcheck [OPTIONS] <COMMAND>",
     "",
     "Commands:",
     "  test <PUBLIC_KEY> <ADDRESSES>...  Test every endpoint of a host",
     "  resolve <HOSTNAME>                Resolve a hostname the way host tests do",
     "  version <CURRENT> <LATEST>        Compare two release versions",
     "",
     "Options:",
     "  -v, --verbose",
     "      --log-level <LEVEL>",
     "  -t, --timeout <SECONDS>",
     "      --json",
     "  -c, --config <FILE>",
     "  -h, --help",
     "  -V, --version"]

def run (around : Surroundings) (args : List String) : Timed Call Outcome :=
  match Invocation.read args with
  | .error (.usage error) => return .misused error
  | .error .version => return .printed programVersion
  | .error .help => return .printed usage
  | .ok invocation => invocation.run around

end HostHealth.CommandLine
