import HostHealth.Inspector.Basic

/- A session with an inspector, on a clock that shows whole milliseconds. All that is due at a
   millisecond happens before the caller acts in it, and a request meets the world as it was before
   its own millisecond, or at the start of the test that makes it. -/
namespace HostHealth.Inspector

open Net

namespace World

/-- A world that changes in time. Which protocols have a client is settled at `start`. -/
def varying (start : Nat) (during : Nat → World) : World :=
  { names :=
      { system := fun t host => (during t).names.system t host
        records := fun t name type => (during t).names.records t name type
        ahead := fun asker t call => (during t).names.ahead asker t call }
    clients := ⟨fun protocol =>
      ((during start).clients.find? protocol).map fun first =>
        let client := fun t => ((during t).clients.find? protocol).getD first
        { dial := fun t address => (client t).dial t address
          upgrade := fun t key => (client t).upgrade t key
          scan := fun t address => (client t).scan t address }⟩
    consensus := fun t => (during t).consensus t
    releaseName := fun t => (during t).releaseName t }

end World

structure Running where
  name : String
  test : HostTest
  start : Nat
  opening : World

structure Session where
  inspector : Inspector
  /-- The millisecond that the clock shows. -/
  now : Nat
  world : World
  /-- Earlier worlds with the instants up to which they lasted, the latest one first. -/
  past : List (Nat × World)
  tests : List Running
  /-- Until when the requests have been told, and for how many of the tests. -/
  toldUntil : Nat
  toldTests : Nat

namespace Session

def instant (session : Session) : Nat := Span.ofMillis session.now

def acting (session : Session) : Nat := session.instant + 1

def worldAt (world : World) : List (Nat × World) → Nat → World
  | [], _ => world
  | (last, earlier) :: rest, t => if last < t then world else worldAt earlier rest t

def loopWorld (session : Session) : World :=
  World.varying session.inspector.begun (worldAt session.world session.past)

def testWorld (session : Session) (running : Running) : World :=
  World.varying running.start fun t =>
    if t ≤ running.start then running.opening else worldAt session.world session.past t

def opened (policy : Policy) (resolver : Dns.Resolver) (world : World) :
    Course Call (Except StartError Session) :=
  let course := start policy world 0
  { calls := course.calls
    ending := match course.ending with
      | .returned t (.ok initial) =>
        .returned t (.ok
          { inspector := .opened policy resolver t initial
            now := Span.millis t
            world := world
            past := []
            tests := []
            toldUntil := t
            toldTests := 0 })
      | .returned t (.error e) => .returned t (.error e)
      | .crashed t reason => .crashed t reason
      | .pending => .pending }

def course (session : Session) (running : Running) : Course Call HostReport :=
  session.inspector.course (session.testWorld running) running.test running.start

def snapshot (session : Session) : Snapshot :=
  session.inspector.snapshot session.loopWorld session.instant

def change (session : Session) (world : World) : Session :=
  { session with world := world, past := (session.instant, session.world) :: session.past }

/-- Asks for a test, which goes on by itself under the name. `patience` is how long the caller
    waits before cancelling it. -/
def ask (session : Session) (name : String) (host : Host) (patience : Option Nat) :
    Except Refusal Session :=
  let caller : Token := ⟨patience.map fun ms => session.instant + Span.ofMillis ms⟩
  match session.inspector.ask session.loopWorld session.instant host caller with
  | (.error refusal, _) => .error refusal
  | (.ok test, inspector) =>
    .ok { session with
      inspector := inspector
      tests := session.tests ++ [⟨name, test, session.instant, session.world⟩] }

def find? (session : Session) (name : String) : Option Running :=
  session.tests.reverse.find? fun running => running.name == name

def cancel (session : Session) (name : String) : Session :=
  let token := Token.cancelledFrom session.acting
  { session with
    tests := session.tests.map fun running =>
      if running.name == name then
        { running with test := { running.test with token := running.test.token.meet token } }
      else running }

def waitUntil (session : Session) (t : Nat) : Session :=
  { session with now := max session.now (Span.millis t) }

def sleep (session : Session) (ms : Nat) : Session := { session with now := session.now + ms }

def join (session : Session) (name : String) : Option (Ending HostReport × Session) := do
  let running ← session.find? name
  let ending := (session.course running).ending
  return (ending, session.waitUntil (ending.instant?.getD 0))

def close (session : Session) : Session :=
  let closed := { session with inspector := session.inspector.close session.acting }
  closed.tests.foldl
    (fun s running => s.waitUntil (((closed.course running).ending.instant?).getD 0)) closed

def news (session : Session) : List (Nat × Call) × Session :=
  let loops := (session.inspector.loopCalls session.loopWorld session.instant).filter
    fun c => session.toldUntil < c.1
  let told := (session.tests.take session.toldTests).flatMap fun running =>
    (session.course running).calls.filter fun c => session.toldUntil < c.1
  let fresh := (session.tests.drop session.toldTests).flatMap fun running =>
    (session.course running).calls
  let calls := (loops ++ told ++ fresh).filter fun c => c.1 ≤ session.instant
  (calls, { session with toldUntil := session.instant, toldTests := session.tests.length })

end Session
end HostHealth.Inspector
