import ScatterSearch.Query.State

/-!
# Waiting for a cancellation

A waiter resolves once its query is cancelled, and never if the query completes. It takes care not
to miss the moment: it first asks to be notified, then looks at the state, and only then goes to
sleep. A transition changes the state first and notifies then. A notification wakes every waiter
that asked for one before it was given, asleep or not.

`Bell` counts the notifications given; a waiter remembers the count at which it asked.
-/

namespace ScatterSearch

/-- How often a query's waiters were notified. -/
structure Bell where
  rings : Nat
  deriving DecidableEq, Repr

/-- Notifies. -/
def Bell.ring (b : Bell) : Bell := ⟨b.rings + 1⟩

/-- Where a waiter stands. -/
inductive Waiter where
  /-- about to ask for a notification -/
  | starting
  /-- asked when the bell had rung so often, and about to look at the state -/
  | asked (rings : Nat)
  /-- looked, and sleeps until the bell has rung more often than that -/
  | asleep (rings : Nat)
  | resolved (reason : CancelReason)
  deriving DecidableEq, Repr

namespace Waiter

/-- One step of a waiter, given the bell and the state of its query. -/
def step (b : Bell) (state : QueryState) : Waiter → Waiter
  | .starting => .asked b.rings
  | .asked rings =>
    match state.cancelReason with
    | some reason => .resolved reason
    | none => .asleep rings
  | .asleep rings => if rings < b.rings then .starting else .asleep rings
  | .resolved reason => .resolved reason

/-- Runs a waiter until it sleeps or is resolved: from where it wakes that takes three steps more.
-/
def run (b : Bell) (state : QueryState) (w : Waiter) : Waiter :=
  (((w.step b state).step b state).step b state).step b state

/-- The reason a waiter found. -/
def reason? : Waiter → Option CancelReason
  | .resolved reason => some reason
  | _ => none

end Waiter

end ScatterSearch
