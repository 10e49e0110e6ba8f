import HostHealth.Inspector.Cooldown
import HostHealth.Inspector.HostTest
import HostHealth.Inspector.Refresh

/- An inspector: it tests hosts on demand, not too often, while two loops keep its view of the
   chain and of the latest release up to date. Closing it is final; it stops the loops and
   cuts off the tests under way. -/
namespace HostHealth

open Net

structure Inspector where
  policy : Inspector.Policy
  resolver : Dns.Resolver
  /-- When the loops began, and what was known then. -/
  begun : Nat
  initial : Inspector.Snapshot
  cooldown : Inspector.Cooldown
  closedAt : Option Nat

namespace Inspector

inductive Refusal
  | onCooldown (remaining : Nat)
  | closed
  deriving DecidableEq, Repr

def Refusal.message : Refusal → String
  | .onCooldown remaining =>
    "host is on cooldown, please try again in " ++ Span.exact remaining
  | .closed => "manager is shutting down"

def opened (policy : Policy) (resolver : Dns.Resolver) (begun : Nat) (initial : Snapshot) :
    Inspector :=
  { policy := policy
    resolver := resolver
    begun := begun
    initial := initial
    cooldown := .empty
    closedAt := none }

variable (self : Inspector) (world : World)

def consensusFetches (horizon : Nat) : List (Fetch ConsensusState) :=
  Fetch.stopped self.closedAt <|
    Fetch.loop self.policy.tipRefresh (fun t => (world.consensus t).map Except.toOption)
      self.begun horizon

def releaseFetches (horizon : Nat) : List (Fetch Version) :=
  Fetch.stopped self.closedAt <|
    Fetch.loop self.policy.releaseRefresh
      (fun t => (world.releaseName t).map fun name => (readReleaseName name).toOption)
      self.begun horizon

def snapshot (t : Nat) : Snapshot :=
  { consensus := Fetch.held self.initial.consensus (self.consensusFetches world t) t
    latest := Fetch.held self.initial.latest (self.releaseFetches world t) t }

def loopCalls (horizon : Nat) : List (Nat × Call) :=
  (self.consensusFetches world horizon).map (fun f => (f.started, .consensus))
    ++ (self.releaseFetches world horizon).map fun f =>
      (f.started, .release self.policy.releaseOrg self.policy.releaseRepo)

/-- Asks for the test of a host at `now`. A test that is let in blocks its host from then on,
    keeps the snapshot of this instant, and ends with its caller's token or its deadline. -/
def ask (now : Nat) (host : Host) (caller : Token) : Except Refusal HostTest × Inspector :=
  if self.closedAt.isSome then (.error .closed, self)
  else match self.cooldown.claim self.policy.cooldown now host.publicKey with
    | .error remaining => (.error (.onCooldown remaining), self)
    | .ok cooldown =>
      (.ok
        { host := host
          snapshot := self.snapshot world now
          token := caller.meet (.cancelledFrom (now + self.policy.testTimeout)) },
       { self with cooldown := cooldown })

/-- Only the first closing counts. -/
def close (now : Nat) : Inspector := { self with closedAt := self.closedAt <|> some now }

def course (test : HostTest) (start : Nat) : Course Call HostReport :=
  { test with token := test.token.meet ⟨self.closedAt⟩ }.run
    self.policy self.resolver world start

end Inspector
end HostHealth
