import ScatterSearch.Time.Clock

/-!
# Periodic tasks

A ticker says when to act next: a full period after it was started, and then every period. An action
that comes late delays the following ones: the next one is a full period after it.

A periodic task runs one tick at a time. A tick takes its time, and may panic, which ends the task.
Asked to stop, the task ends once its current tick is over. Where its next tick is due by then too,
chance decides which of the two comes first, and anew at the end of each tick that does. Dropped,
the task ends at once.
-/

namespace ScatterSearch

/-- Tells when something periodic is due. -/
structure Ticker where
  period : Nat
  due : Nat
  deriving DecidableEq, Repr

namespace Ticker

/-- The shortest period, in milliseconds. -/
def leastPeriod : Nat := 1

/-- A tick this much later than it was due is still on time. -/
def tolerance : Nat := 5

/-- First due after one period. -/
def start (now period : Nat) : Ticker := ⟨max period leastPeriod, now + max period leastPeriod⟩

/-- The ticker after its tick was taken. -/
def take (now : Nat) (t : Ticker) : Ticker :=
  { t with due := if t.due + tolerance < now then now + t.period else t.due + t.period }

end Ticker

/-- How one tick goes. -/
structure Tick where
  /-- how long it takes -/
  duration : Nat
  /-- whether it panics at its end -/
  panics : Bool
  deriving DecidableEq, Repr

/-- What a periodic task is doing. -/
inductive Activity where
  | waiting
  | ticking (ends : Nat) (panics : Bool)
  /-- it ended when asked to -/
  | stopped
  /-- a tick panicked -/
  | panicked
  deriving DecidableEq, Repr

/-- A task that ticks. -/
structure PeriodicTask where
  ticker : Ticker
  activity : Activity
  /-- it was asked to stop -/
  stopping : Bool
  /-- when its ticks started, the latest first -/
  starts : List Nat
  /-- how many ticks were done -/
  completed : Nat
  deriving DecidableEq, Repr

namespace PeriodicTask

/-- A task that starts now; its first tick comes after one period. -/
def spawn (now period : Nat) : PeriodicTask := ⟨.start now period, .waiting, false, [], 0⟩

/-- Whether the task has ended. -/
def isFinished (t : PeriodicTask) : Bool :=
  match t.activity with
  | .stopped | .panicked => true
  | _ => false

/-- When the task acts next. -/
def due (t : PeriodicTask) : Option Nat :=
  match t.activity with
  | .waiting => some (if t.stopping then 0 else t.ticker.due)
  | .ticking ends _ => some ends
  | .stopped | .panicked => none

/-- The task at the end of a tick. -/
def endTick (t : PeriodicTask) (panics : Bool) : PeriodicTask :=
  if panics then { t with activity := .panicked }
  else { t with activity := .waiting, completed := t.completed + 1 }

/-- Starts a tick. -/
def beginTick (work : Nat → Tick) (now : Nat) (t : PeriodicTask) : PeriodicTask :=
  let tick := work t.starts.length
  { t with
    ticker := t.ticker.take now
    activity := .ticking (now + tick.duration) tick.panics
    starts := now :: t.starts }

/-- Acts at an instant at which the task is due. `work` says how the ticks go, counted from zero.
Where a tick is due and a stop was asked for, one of them is drawn; `tickFirst` says whether it is
the tick. -/
def fire (work : Nat → Tick) (tickFirst : Bool) (now : Nat) (t : PeriodicTask) : PeriodicTask :=
  match t.activity with
  | .waiting =>
    if t.stopping && !(tickFirst && decide (t.ticker.due ≤ now)) then
      { t with activity := .stopped }
    else if t.ticker.due ≤ now then t.beginTick work now
    else t
  | .ticking ends panics => if ends ≤ now then t.endTick panics else t
  | .stopped | .panicked => t

/-- Asks the task to stop. -/
def requestStop (t : PeriodicTask) : PeriodicTask := { t with stopping := true }

/-- The task as a machine. `tickFirst` are the draws between a tick and a stop, by the number of
ticks that were started before. Every sequence of draws is possible. -/
def machine (work : Nat → Tick) (tickFirst : Nat → Bool) : Machine PeriodicTask :=
  ⟨due, fun now t => t.fire work (tickFirst t.starts.length) now⟩

end PeriodicTask

end ScatterSearch
