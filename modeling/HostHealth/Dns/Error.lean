import HostHealth.Text.Decimal
import HostHealth.Text.Quoted

/- Why a name could not be resolved. An error behind an alias is wrapped once for every
   alias that was followed, the first one outermost. -/
namespace HostHealth.Dns

open Text

inductive RecordType
  | a | aaaa | cname
  deriving DecidableEq, Repr

def RecordType.name : RecordType → String
  | .a => "A"
  | .aaaa => "AAAA"
  | .cname => "CNAME"

inductive DnsError
  | notFound
  | depthExceeded (maxDepth : Nat)
  | timeout
  | canceled
  | invalidName (name reason : String)
  | query (type : RecordType) (reason : String)
  | system (reason : String)
  | behindAlias (target : String) (source : DnsError)
  deriving DecidableEq, Repr

namespace DnsError

/-- The error itself, without the aliases that led to it. -/
def root : DnsError → DnsError
  | .behindAlias _ source => source.root
  | error => error

def message : DnsError → String
  | .notFound => "no such host"
  | .depthExceeded maxDepth =>
    "maximum CNAME resolution depth reached: " ++ decimal maxDepth
  | .timeout => "DNS query timeout"
  | .canceled => "DNS resolution canceled"
  | .invalidName name reason => "invalid domain " ++ quote name ++ ": " ++ reason
  | .query type reason => "failed to query " ++ type.name ++ " records: " ++ reason
  | .system reason => "system resolver failed: " ++ reason
  | .behindAlias target source =>
    "failed to resolve CNAME " ++ quote target ++ ": " ++ source.message

end DnsError
end HostHealth.Dns
