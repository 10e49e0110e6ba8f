import HostHealth.Clock

/- Periodic fetches. A loop fetches whenever its timer is due and never twice at a time. A
   timer that fires at most five milliseconds late keeps its beat; after a longer delay it
   takes its beat from the late firing, so that delays are not made up for. -/
namespace HostHealth.Inspector

/-- One fetch of a loop, and what came of it; nothing, if it never ended or had no value. -/
structure Fetch (α : Type) where
  started : Nat
  ended : Option Nat
  value : Option α
  deriving Repr

namespace Fetch

variable {α : Type}

def tolerance : Nat := Span.ofMillis 5

def nextDue (period : Nat) (due fired : Nat) : Nat :=
  if due + tolerance < fired then fired + period else due + period

theorem due_lt_nextDue {period : Nat} (positive : 0 < period) (due free : Nat) :
    due < nextDue period due (max due free) := by
  unfold nextDue
  split <;> omega

/-- The fetches that start by the horizon, by a loop that is free from `free` on and whose
    timer is due at `due`. A crash and a silence end the loop. -/
def series (period : Nat) (fetch : Nat → Reply (Option α)) (horizon due free : Nat) :
    List (Fetch α) :=
  if due ≤ horizon ∧ free ≤ horizon ∧ 0 < period then
    let fired := max due free
    match fetch fired with
    | .answer delay value =>
      ⟨fired, some (fired + delay), value⟩
        :: series period fetch horizon (nextDue period due fired) (fired + delay)
    | _ => [⟨fired, none, none⟩]
  else []
termination_by horizon + 1 - due
decreasing_by
  have := due_lt_nextDue (by omega : 0 < period) due free
  omega

def loop (period : Nat) (fetch : Nat → Reply (Option α)) (begun horizon : Nat) :
    List (Fetch α) :=
  series period fetch horizon (begun + period) begun

def held (initial : α) (fetches : List (Fetch α)) (t : Nat) : α :=
  fetches.foldl
    (fun value f =>
      match f.ended, f.value with
      | some e, some new => if e ≤ t then new else value
      | _, _ => value)
    initial

/-- A loop that is stopped at `stop` starts nothing from then on, and what is under way does
    not arrive. -/
def stopped (stop : Option Nat) (fetches : List (Fetch α)) : List (Fetch α) :=
  match stop with
  | none => fetches
  | some c =>
    (fetches.filter (·.started < c)).map fun f =>
      match f.ended with
      | some e => if e < c then f else { f with ended := none, value := none }
      | none => f

end Fetch
end HostHealth.Inspector
