import HostHealth.Network

/- Resolving a host name. The machine's own lookup is asked first. When it has no address to
   give, a name server is asked for each name's A, AAAA and CNAME records, in this order, and
   the aliases are followed depth first, so many deep at most. -/
namespace HostHealth.Dns

open Net

structure Resolver where
  server : SocketAddr
  timeout : Nat
  maxDepth : Nat

abbrev Lookup := Timed Call (Except DnsError (List Ip))

namespace Resolver

def standard : Resolver :=
  { server := .v4 ⟨1, 1, 1, 1⟩ 53, timeout := Span.ofSeconds 5, maxDepth := 3 }

def describe (r : Resolver) : String :=
  "Resolver \x7b server: " ++ r.server.text ++ ", timeout: " ++ Span.exact r.timeout
    ++ ", max_depth: " ++ Text.decimal r.maxDepth ++ ", .. \x7d"

def outcome {α : Type} : Response (Except DnsError α) → Except DnsError α
  | .answered result => result
  | .timedOut => .error .timeout
  | .cancelled => .error .canceled

variable (r : Resolver) (names : NameService) (token : Token)

/-- A lookup and the token are waited for alike. -/
def ask {α : Type} (call : Call) (reply : Nat → Reply α) : Timed Call (Response α) :=
  raced token (fun t => names.ahead none t call) (some r.timeout) call reply

def query (name : String) (type : RecordType) : Timed Call (Except DnsError (List Answer)) := do
  let response ← ask r names token (.recordQuery type name r.server)
    fun t => names.records t name type
  return outcome response

def systemLookup (host : String) : Timed Call (Response (Except DnsError (List Ip))) :=
  ask r names token (.systemLookup host) fun t => names.system t host

def follow (walk : String → Lookup) : List String → Lookup
  | [] => return .ok []
  | target :: rest => do
    match ← walk target with
    | .error e => return .error (.behindAlias target e)
    | .ok found =>
      match ← follow walk rest with
      | .error e => return .error e
      | .ok more => return .ok (found ++ more)

/-- The addresses of a name and of the names behind its aliases. `levels` is how many levels
    of names are left, this one included. -/
def walk : (levels : Nat) → String → Lookup
  | 0, _ => return .error (.depthExceeded r.maxDepth)
  | levels + 1, name => do
    match ← query r names token name .a with
    | .error e => return .error e
    | .ok a =>
      match ← query r names token name .aaaa with
      | .error e => return .error e
      | .ok aaaa =>
        match ← query r names token name .cname with
        | .error e => return .error e
        | .ok cname =>
          match ← follow (walk levels) (cname.filterMap Answer.alias?) with
          | .error e => return .error e
          | .ok behind => return .ok ((a ++ aaaa).filterMap Answer.ip? ++ behind)

def lookup (host : String) : Lookup :=
  match Ip.read host with
  | some ip => return .ok [ip]
  | none => do
    match ← walk r names token (r.maxDepth + 1) host with
    | .ok [] => return .error .notFound
    | result => return result

def resolve (host : String) : Lookup :=
  match Ip.read host with
  | some ip => return .ok [ip]
  | none => do
    match ← systemLookup r names token host with
    | .cancelled => return .error .canceled
    | .answered (.ok (ip :: ips)) => return .ok (ip :: ips)
    | _ => lookup r names token host

end Resolver
end HostHealth.Dns
