import HostHealth.Chain
import HostHealth.Probe.Client
import HostHealth.Version

/- The two sources that an inspector follows: the state of the chain, and the name of the
   latest release. -/
namespace HostHealth.Inspector

open Text

inductive SourceError
  | request (reason : String)
  | noRelease (org repo : String)
  | badName (reason : VersionError)
  | other (reason : String)
  deriving DecidableEq, Repr

def SourceError.message : SourceError → String
  | .request reason => "request failed: " ++ reason
  | .noRelease org repo => "no release found for " ++ org ++ "/" ++ repo
  | .badName reason => "invalid release name: " ++ reason.message
  | .other reason => reason

structure World where
  names : NameService
  clients : Probe.Clients
  consensus : Nat → Reply (Except SourceError ConsensusState)
  releaseName : Nat → Reply (Except SourceError String)

structure Snapshot where
  consensus : ConsensusState
  latest : Version

structure Policy where
  /-- The least time between two tests of one host. -/
  cooldown : Nat
  testTimeout : Nat
  tipRefresh : Nat
  releaseRefresh : Nat
  dialTimeout : Nat
  releaseOrg : String
  releaseRepo : String
  deriving DecidableEq

def Policy.standard : Policy :=
  { cooldown := Span.ofSeconds 10
    testTimeout := Span.ofSeconds 30
    tipRefresh := Span.ofSeconds 60
    releaseRefresh := Span.ofSeconds 900
    dialTimeout := Span.ofSeconds 15
    releaseOrg := "SiaFoundation"
    releaseRepo := "hostd" }

def readReleaseName (result : Except SourceError String) : Except SourceError Version :=
  match result with
  | .error e => .error e
  | .ok name =>
    match Version.readRelease name with
    | .error e => .error (.badName e)
    | .ok version => .ok version

inductive StartError
  | latestRelease (reason : SourceError)
  | consensusState (reason : SourceError)
  deriving DecidableEq, Repr

namespace StartError

def subject : StartError → String
  | .latestRelease _ => "latest release"
  | .consensusState _ => "consensus state"

def reason : StartError → SourceError
  | .latestRelease e => e
  | .consensusState e => e

def message (error : StartError) : String :=
  "failed to get initial " ++ error.subject ++ ": " ++ error.reason.message

end StartError

/-- The initial fetches, one after the other; the first failure is final. -/
def start (policy : Policy) (world : World) : Timed Call (Except StartError Snapshot) := do
  match ← request Token.never none (.release policy.releaseOrg policy.releaseRepo)
      world.releaseName with
  | .answered name =>
    match readReleaseName name with
    | .error e => return .error (.latestRelease e)
    | .ok latest =>
      match ← request Token.never none .consensus world.consensus with
      | .answered (.ok consensus) => return .ok ⟨consensus, latest⟩
      | .answered (.error e) => return .error (.consensusState e)
      | _ => return .error (.consensusState (.other ""))
  | _ => return .error (.latestRelease (.other ""))

end HostHealth.Inspector
