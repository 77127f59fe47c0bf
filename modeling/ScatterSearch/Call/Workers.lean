import ScatterSearch.Call.Call

/-!
# Workers

Calls are submitted at any time, but only so many run at once. A call that is submitted waits until
one of the workers is free; those who wait are taken up in order.
-/

namespace ScatterSearch

/-- Calls, and how many of them may run at once. A call is held by its place. -/
structure Workers where
  capacity : Nat
  calls : List Call

namespace Workers

/-- So many workers without calls, at least one. -/
def new (count : Nat) : Workers := ⟨max count 1, []⟩

/-- How many calls have a worker. -/
def inFlight (w : Workers) : Nat := (w.calls.filter (·.holdsWorker)).length

/-- Submits a call; its place is the number of earlier ones. -/
def submit (w : Workers) (c : Call) : Workers := { w with calls := w.calls ++ [c] }

/-- Tells a call to stop. -/
def requestStop (w : Workers) (place : Nat) : Workers :=
  { w with calls := w.calls.modify place Call.requestStop }

/-- The call that is taken up next, if a worker is free for it. -/
def next? (w : Workers) : Option Nat :=
  if w.inFlight < w.capacity then w.calls.findIdx? fun c => c.isQueued && !c.stopping else none

/-- Lets something happen to a call. -/
def step (now place : Nat) (e : CallEvent) (w : Workers) : Workers × List CallAction :=
  match w.calls[place]? with
  | some c =>
    let (c, actions) := c.step now e
    ({ w with calls := w.calls.set place c }, actions)
  | none => (w, [])

/-- What those who wait for the call at a place are told, once it has ended. -/
def result? (w : Workers) (place : Nat) : Option (Except ClusterError Response) := do
  let c ← w.calls[place]?
  let how ← c.end?
  return how.toResult c.terms.server place

/-- Whether the call at a place has ended. -/
def isFinished (w : Workers) (place : Nat) : Bool := (w.result? place).isSome

end Workers

end ScatterSearch
