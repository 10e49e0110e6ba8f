import HostHealth.Span

/- Time as data. An activity is a function from the instant at which it starts to its whole course.
   Steps between requests take no time. Instants count nanoseconds from the clock's zero. -/
namespace HostHealth

inductive Reply (α : Type)
  | answer (delay : Nat) (value : α)
  | crash (delay : Nat) (reason : String)
  | silence
  deriving Repr

/-- A token that is cancelled at some instant, or never. What becomes of a request at that
    instant depends on who makes it: see `request` and `raced`. -/
structure Token where
  cancelledAt : Option Nat
  deriving DecidableEq, Repr

namespace Token

def never : Token := ⟨none⟩

def cancelledFrom (c : Nat) : Token := ⟨some c⟩

def isCancelled (token : Token) (t : Nat) : Bool :=
  match token.cancelledAt with
  | some c => c ≤ t
  | none => false

def meet (a b : Token) : Token :=
  match a.cancelledAt, b.cancelledAt with
  | some x, some y => ⟨some (min x y)⟩
  | some x, none => ⟨some x⟩
  | none, y => ⟨y⟩

end Token

inductive Ending (α : Type)
  | returned (instant : Nat) (value : α)
  | crashed (instant : Nat) (reason : String)
  | pending
  deriving Repr

namespace Ending

def instant? {α : Type} : Ending α → Option Nat
  | .returned t _ => some t
  | .crashed t _ => some t
  | .pending => none

end Ending

/-- The course of an activity whose requests are named in `κ`. -/
structure Course (κ α : Type) where
  calls : List (Nat × κ)
  ending : Ending α
  deriving Repr

/-- An activity, by the instant of its start. -/
def Timed (κ α : Type) := Nat → Course κ α

namespace Timed

variable {κ α β : Type}

protected def pure (value : α) : Timed κ α := fun start => ⟨[], .returned start value⟩

protected def bind (first : Timed κ α) (next : α → Timed κ β) : Timed κ β := fun start =>
  let course := first start
  match course.ending with
  | .returned t value =>
    let rest := next value t
    ⟨course.calls ++ rest.calls, rest.ending⟩
  | .crashed t reason => ⟨course.calls, .crashed t reason⟩
  | .pending => ⟨course.calls, .pending⟩

instance : Monad (Timed κ) where
  pure := Timed.pure
  bind := Timed.bind

def measured (activity : Timed κ α) : Timed κ (α × Nat) := fun start =>
  activity.bind (fun value t => ⟨[], .returned t (value, t - start)⟩) start

def rescued (activity : Timed κ α) (rescue : String → α) : Timed κ α := fun start =>
  let course := activity start
  match course.ending with
  | .crashed t reason => ⟨course.calls, .returned t (rescue reason)⟩
  | _ => course

/-- Activities side by side. All start at once; together they end with the last of them, and
    every value comes with the instant of its own end. -/
def together : List (Timed κ α) → Timed κ (List (Nat × α))
  | [] => Timed.pure []
  | activity :: rest => fun start =>
    let first := activity start
    let others := together rest start
    ⟨first.calls ++ others.calls,
      match first.ending, others.ending with
      | .returned t value, .returned u values => .returned (max t u) ((t, value) :: values)
      | .crashed t reason, _ => .crashed t reason
      | _, .crashed t reason => .crashed t reason
      | _, _ => .pending⟩

end Timed

inductive Response (α : Type)
  | answered (value : α)
  | timedOut
  | cancelled
  deriving Repr

namespace Reply

variable {α : Type}

def map {β : Type} (f : α → β) : Reply α → Reply β
  | .answer delay value => .answer delay (f value)
  | .crash delay reason => .crash delay reason
  | .silence => .silence

def ending (reply : Reply α) (start : Nat) : Ending (Response α) :=
  match reply with
  | .answer delay value => .returned (start + delay) (.answered value)
  | .crash delay reason => .crashed (start + delay) reason
  | .silence => .pending

end Reply

namespace Ending

variable {α : Type}

/-- Given up with `late` when nothing has come by the deadline. -/
def within (deadline : Option Nat) (late : α) (ending : Ending α) : Ending α :=
  match deadline, ending.instant? with
  | some d, some t => if t ≤ d then ending else .returned d late
  | some d, none => .returned d late
  | none, _ => ending

/-- Cut off with `value` when nothing has come before the instant. -/
def before (cut : Option Nat) (value : α) (ending : Ending α) : Ending α :=
  match cut, ending.instant? with
  | some c, some t => if t < c then ending else .returned c value
  | some c, none => .returned c value
  | none, _ => ending

end Ending

/-- One request, given up after `limit`, and when the token is cancelled. An answer that
    comes just at the limit counts; one at the instant of the cancellation does not, and under a
    cancelled token nothing is started. -/
def request {κ α : Type} (token : Token) (limit : Option Nat) (call : κ)
    (reply : Nat → Reply α) : Timed κ (Response α) := fun start =>
  if token.isCancelled start then ⟨[], .returned start .cancelled⟩
  else
    let bounded := ((reply start).ending start).within (limit.map (start + ·)) .timedOut
    ⟨[(start, call)], bounded.before token.cancelledAt .cancelled⟩

/-- One request beside a token, neither of which has precedence. If both are ready at one instant,
    the one that is looked at first wins. A request that is `ahead` is started under a cancelled
    token too, and what comes at the instant of the cancellation counts. -/
def raced {κ α : Type} (token : Token) (ahead : Nat → Bool) (limit : Option Nat) (call : κ)
    (reply : Nat → Reply α) : Timed κ (Response α) := fun start =>
  if ahead start then
    let bounded := ((reply start).ending start).within (limit.map (start + ·)) .timedOut
    ⟨[(start, call)], bounded.within (token.cancelledAt.map (max start)) .cancelled⟩
  else request token limit call reply start

end HostHealth
