import HostHealth.Inspector.Basic

/- An inspector in service: callers who ask for tests or close it, and its two loops, each of which
   goes on in steps of its own, in any order. Steps take no time, and what is due at an instant has
   happened when the clock shows it; a closing falls one nanosecond later. -/
namespace HostHealth.Inspector

open Net

/-- How far a caller has come who asks for the test of a host. -/
inductive Stage
  | counted
  | cleared
  | refused (refusal : Refusal)
  | underTest (test : HostTest) (start : Nat)
  | reported (test : HostTest) (start : Nat) (report : HostReport)
  | crashed (test : HostTest) (start : Nat)

def Stage.isTracked : Stage → Bool
  | .counted | .cleared | .underTest _ _ => true
  | _ => false

structure Visit where
  host : Host
  caller : Token
  world : World
  stage : Stage

inductive Closing
  | begun | waiting | done
  deriving DecidableEq, Repr

inductive Loop
  | tip | release
  deriving DecidableEq, Repr

structure Service where
  inspector : Inspector
  world : World
  now : Nat
  visits : List Visit
  loops : List Loop
  closings : List Closing
  trackerClosed : Bool
  /-- How many callers and loops the tracker counts. A caller counts before it has looked whether
      the inspector is closed, so a closing misses nobody who has found it open. -/
  tracked : Nat

inductive Act
  | wait (t : Nat)
  | enter (host : Host) (caller : Token) (world : World)
  | visit (i : Nat)
  | endLoop (loop : Loop)
  | close
  | closing (j : Nat)

/-- Lets a test in, whether or not the inspector is closed. -/
def letIn (self : Inspector) (world : World) (now : Nat) (host : Host) (caller : Token) :
    Except Nat HostTest × Inspector :=
  match self.cooldown.claim self.policy.cooldown now host.publicKey with
  | .error remaining => (.error remaining, self)
  | .ok cooldown =>
    (.ok
      { host := host
        snapshot := self.snapshot world now
        token := caller.meet (.cancelledFrom (now + self.policy.testTimeout)) },
     { self with cooldown := cooldown })

def Visit.calls (self : Inspector) (visit : Visit) : List (Nat × Call) :=
  match visit.stage with
  | .underTest test start | .reported test start _ | .crashed test start =>
    (self.course visit.world test start).calls
  | _ => []

namespace Service

def opened (policy : Policy) (resolver : Dns.Resolver) (world : World) (begun : Nat)
    (initial : Snapshot) : Service :=
  { inspector := .opened policy resolver begun initial
    world := world
    now := begun
    visits := []
    loops := [.tip, .release]
    closings := []
    trackerClosed := false
    tracked := 2 }

variable (s : Service)

def snapshot : Snapshot := s.inspector.snapshot s.world s.now

def log : List (Nat × Call) :=
  s.inspector.loopCalls s.world s.now
    ++ (s.visits.flatMap (Visit.calls s.inspector)).filter fun call => call.1 ≤ s.now

/-- A loop ends early if the answer to one of its fetches is a crash. -/
def crashedFetch {α β : Type} (now : Nat) (reply : Nat → Reply α) (fetches : List (Fetch β)) :
    Bool :=
  fetches.any fun f =>
    match reply f.started with
    | .crash delay _ => f.started + delay ≤ now
    | _ => false

def isOver : Loop → Bool
  | .tip => s.inspector.closedAt.isSome
      || crashedFetch s.now s.world.consensus (s.inspector.consensusFetches s.world s.now)
  | .release => s.inspector.closedAt.isSome
      || crashedFetch s.now s.world.releaseName (s.inspector.releaseFetches s.world s.now)

def next (visit : Visit) : Option (Stage × Inspector) :=
  match visit.stage with
  | .counted =>
    some (if s.inspector.closedAt.isSome then .refused .closed else .cleared, s.inspector)
  | .cleared =>
    match s.inspector.letIn s.world s.now visit.host visit.caller with
    | (.error remaining, inspector) => some (.refused (.onCooldown remaining), inspector)
    | (.ok test, inspector) => some (.underTest test s.now, inspector)
  | .underTest test start =>
    match (s.inspector.course visit.world test start).ending with
    | .returned t report =>
      if t ≤ s.now then some (.reported test start report, s.inspector) else none
    | .crashed t _ => if t ≤ s.now then some (.crashed test start, s.inspector) else none
    | .pending => none
  | _ => none

def act : Act → Option Service
  | .wait t => if s.now ≤ t then some { s with now := t } else none
  | .enter host caller world =>
    some { s with
      visits := s.visits ++ [⟨host, caller, world, .counted⟩]
      tracked := s.tracked + 1 }
  | .visit i => do
    let visit ← s.visits[i]?
    let (stage, inspector) ← s.next visit
    return { s with
      inspector := inspector
      visits := s.visits.set i { visit with stage := stage }
      tracked := if stage.isTracked then s.tracked else s.tracked - 1 }
  | .endLoop loop =>
    if loop ∈ s.loops ∧ s.isOver loop then
      some { s with loops := s.loops.erase loop, tracked := s.tracked - 1 }
    else none
  | .close =>
    some { s with
      inspector := s.inspector.close (s.now + 1)
      now := s.now + 1
      closings := s.closings ++ [.begun] }
  | .closing j =>
    match s.closings[j]? with
    | some .begun =>
      some { s with closings := s.closings.set j .waiting, trackerClosed := true }
    | some .waiting =>
      if s.trackerClosed ∧ s.tracked = 0 then
        some { s with closings := s.closings.set j .done }
      else none
    | _ => none

def run : Service → List Act → Option Service
  | s, [] => some s
  | s, a :: rest => (s.act a).bind fun s' => run s' rest

end Service
end HostHealth.Inspector
