import ScatterSearch.Query.Pressure
import ScatterSearch.Query.Waiter
import ScatterSearch.Time.Periodic

/-!
# The life of a registry

A registry with what acts on it by itself: the periodic sweep, the periodic look at the memory, and
those who wait for a query to be cancelled.
-/

namespace ScatterSearch

/-- Someone who waits for the query at a place to be cancelled. -/
structure Watch where
  place : Nat
  waiter : Waiter
  deriving DecidableEq, Repr

/-- A registry and its periodic tasks. -/
structure StatusMonitor where
  registry : StatusRegistry
  cleanupInterval : Nat
  sweep : Option Ticker
  /-- the memory in use, as far as it is known -/
  memory : Option UInt64
  pressure : Option (Pressure × Ticker)
  watches : List Watch
  deriving Repr

namespace StatusMonitor

/-- A registry at rest. -/
def new (cleanupDelay cleanupInterval : Nat) : StatusMonitor :=
  ⟨.empty cleanupDelay, cleanupInterval, none, none, none, []⟩

/-- Starts the sweep, in place of one that runs. -/
def start (m : StatusMonitor) (now : Nat) : StatusMonitor :=
  { m with sweep := some (.start now m.cleanupInterval) }

/-- Stops the sweep. -/
def shutdown (m : StatusMonitor) : StatusMonitor := { m with sweep := none }

/-- Starts to watch the memory. -/
def watchMemory (m : StatusMonitor) (now : Nat) (p : Pressure) (period : Nat) : StatusMonitor :=
  { m with pressure := some (p, .start now period) }

/-- Starts to wait for the query at a place to be cancelled. -/
def wait (m : StatusMonitor) (place : Nat) : StatusMonitor :=
  { m with watches := m.watches ++ [⟨place, .starting⟩] }

/-- How often the waiters of a query were notified: once, when it left the running state. -/
def bell (r : StatusRegistry) (place : Nat) : Bell :=
  match (r.status? place).bind (·.finished) with
  | some _ => ⟨1⟩
  | none => ⟨0⟩

/-- Lets all who wait look at their queries. -/
def settle (m : StatusMonitor) : StatusMonitor :=
  { m with watches := m.watches.map fun w =>
      match m.registry.status? w.place with
      | some s => { w with waiter := w.waiter.run (bell m.registry w.place) s.state }
      | none => w }

/-- The instant of the next sweep or look at the memory. -/
def due (m : StatusMonitor) : Option Nat :=
  let sweep := m.sweep.map (·.due)
  let look := m.pressure.map (·.2.due)
  match sweep, look with
  | some a, some b => some (min a b)
  | a, b => a.or b

/-- Sweeps, if it is time to. -/
def fireSweep (now : Nat) (m : StatusMonitor) : StatusMonitor :=
  match m.sweep with
  | some t =>
    if t.due ≤ now then
      { m with sweep := some (t.take now), registry := (m.registry.cleanup now).2 }
    else m
  | none => m

/-- Looks at the memory, if it is time to. -/
def firePressure (now : Nat) (m : StatusMonitor) : StatusMonitor :=
  match m.pressure with
  | some (p, t) =>
    if t.due ≤ now then
      { m with pressure := some (p, t.take now), registry := (p.check m.memory now m.registry).2 }
    else m
  | none => m

/-- Acts at an instant. -/
def fire (now : Nat) (m : StatusMonitor) : StatusMonitor :=
  ((m.fireSweep now).firePressure now).settle

/-- The registry as a machine. -/
def machine : Machine StatusMonitor := ⟨due, fire⟩

/-- Lets time pass. -/
def pass (m : StatusMonitor) (now millis : Nat) : StatusMonitor := Clock.pass machine now millis m

end StatusMonitor

end ScatterSearch
