import HostHealth.Dns.Name
import HostHealth.Inspector.Source
import HostHealth.Net.Url
import HostHealth.Probe.Reach

/- The world as it shows itself when no packet leaves the machine: reserved names resolve, the
   name server stays silent, no page can be fetched, and no dial gets through. -/
namespace HostHealth.Offline

open Net Dns Inspector Text

/-- Why a page cannot be fetched. The address is quoted in its standard form, if it has one. -/
def fetchFailure (address : String) : String :=
  match Url.read address with
  | none => "builder error"
  | some url =>
    let what := if url.isHttp then "error sending request" else "builder error"
    what ++ " for url (" ++ url.text ++ ")"

def statePage (explorer : String) : String :=
  String.ofList (trimEnd '/' explorer.toList) ++ "/consensus/state"

def releasePage (org repo : String) : String :=
  "https://api.github.com/repos/" ++ org ++ "/" ++ repo ++ "/releases/latest"

def fetch {α : Type} (address : String) : Except SourceError α :=
  .error (.request (fetchFailure address))

/-- `wait` is how long a query waits for a reply that does not come. -/
def names (wait : Nat) : NameService :=
  { system := fun _ _ => .answer 0 (.error (.system "no name service"))
    records := fun _ name type => silentQuery wait name type }

def world (wait : Nat) (explorer : String) (policy : Policy) : World :=
  { names := names wait
    clients := Probe.Clients.reaching
    consensus := fun _ => .answer 0 (fetch (statePage explorer))
    releaseName := fun _ =>
      .answer 0 (fetch (releasePage policy.releaseOrg policy.releaseRepo)) }

end HostHealth.Offline
