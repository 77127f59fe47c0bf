import ScatterSearch.Query.State

/-!
# The registry of queries

A node records the queries it coordinates. A status leaves the running state once, by whichever of
finish, cancel and mass cancel comes first; the others then do nothing. Ended queries stay listed
for a while, so that whoever asks for them still finds them, and are then swept.

The registry keeps the records of all queries in order of registration; a swept one is no longer
listed, but whoever holds on to it still sees it.
-/

namespace ScatterSearch

/-- The record of one query. -/
structure QueryStatus where
  id : UInt64
  table : String
  query : QueryDescriptor
  state : QueryState
  /-- the flag that the search itself watches; it is set while the query runs, and others can clear
  it -/
  running : Bool
  started : Nat
  finished : Option Nat
  /-- whether the registry still lists it -/
  listed : Bool
  deriving Repr

namespace QueryStatus

/-- Whether this is the query of a table and uuid. -/
def isFor (s : QueryStatus) (table uuid : String) : Bool := s.table == table && s.query.uuid == uuid

/-- Moves a running query to another state. -/
def moveTo (target : QueryState) (now : Nat) (s : QueryStatus) : QueryStatus :=
  if s.state = .running then { s with state := target, running := false, finished := some now }
  else s

/-- Why the query was cancelled, if it was. -/
def cancelReason (s : QueryStatus) : Option CancelReason := s.state.cancelReason

/-- Whether the query ended at least `delay` milliseconds ago. -/
def isCleanable (delay now : Nat) (s : QueryStatus) : Bool :=
  match s.finished with
  | some t => decide (delay ≤ now - t)
  | none => false

/-- How long the query ran, or has run. -/
def elapsed (now : Nat) (s : QueryStatus) : Nat := s.finished.getD now - s.started

/-- The record as the node shows it; `startedAt` is the wall clock's time. -/
def view (now : Nat) (startedAt : UInt64) (s : QueryStatus) : StatusView where
  id := ⟨s.id⟩
  table := s.table
  uuid := s.query.uuid
  query := s.query.query
  user := s.query.user
  state := s.state
  running := s.running
  startedAt := startedAt
  elapsed := UInt64.ofNat (s.elapsed now)

end QueryStatus

/-- The queries of a node. A query is held by its place among the records. -/
structure StatusRegistry where
  /-- how long an ended query stays listed -/
  cleanupDelay : Nat
  records : List QueryStatus
  deriving Repr

namespace StatusRegistry

/-- No queries. -/
def empty (cleanupDelay : Nat) : StatusRegistry := ⟨cleanupDelay, []⟩

/-- The number of the next query; numbers start at one. -/
def nextId (r : StatusRegistry) : UInt64 := UInt64.ofNat (r.records.length + 1)

/-- Records a query that runs from now on. It is held by its place, the number of earlier records.
-/
def register (r : StatusRegistry) (now : Nat) (table : String) (query : QueryDescriptor) :
    StatusRegistry :=
  { r with records := r.records ++ [⟨r.nextId, table, query, .running, true, now, none, true⟩] }

/-- The record at a place. -/
def status? (r : StatusRegistry) (place : Nat) : Option QueryStatus := r.records[place]?

/-- Changes the record at a place. -/
def modify (r : StatusRegistry) (place : Nat) (f : QueryStatus → QueryStatus) : StatusRegistry :=
  { r with records := r.records.modify place f }

/-- The queries that are listed. -/
def listed (r : StatusRegistry) : List QueryStatus := r.records.filter (·.listed)

/-- How many queries are listed. -/
def size (r : StatusRegistry) : Nat := r.listed.length

/-- How many of them have their flag set. -/
def runningCount (r : StatusRegistry) : Nat := (r.listed.filter (·.running)).length

/-- Marks a query as complete, unless it has ended. -/
def finish (r : StatusRegistry) (now place : Nat) : StatusRegistry :=
  r.modify place (QueryStatus.moveTo .complete now)

/-- Whether an interruption of the listed queries that satisfy `p` reaches this one. -/
def reaches (p : QueryStatus → Bool) (s : QueryStatus) : Bool :=
  s.listed && p s && decide (s.state = .running)

/-- Moves the listed running queries that satisfy `p` to another state. -/
def interrupt (r : StatusRegistry) (p : QueryStatus → Bool) (target : QueryState) (now : Nat) :
    Nat × StatusRegistry :=
  ((r.records.filter (reaches p)).length,
    { r with records := r.records.map fun s => if reaches p s then s.moveTo target now else s })

/-- Cancels the running queries of a table and uuid, and says how many there were. -/
def cancel (r : StatusRegistry) (now : Nat) (table uuid : String) : Nat × StatusRegistry :=
  r.interrupt (·.isFor table uuid) .interrupted now

/-- Cancels all running queries, and says how many there were. -/
def cancelAll (r : StatusRegistry) (now : Nat) : Nat × StatusRegistry :=
  r.interrupt (fun _ => true) .backPressureInterrupted now

/-- The listed queries of a table, in order of registration. -/
def list (r : StatusRegistry) (table : String) : List QueryStatus :=
  r.listed.filter fun s => s.table == table

/-- The first listed query of a table and uuid. -/
def get? (r : StatusRegistry) (table uuid : String) : Option QueryStatus :=
  r.listed.find? (·.isFor table uuid)

/-- The uuids of the listed queries of a table, each once, in increasing order. -/
def listIds (r : StatusRegistry) (table : String) : List String :=
  ((r.list table).map (·.query.uuid)).eraseDups.mergeSort fun a b => decide (a ≤ b)

/-- Stops listing the queries that ended long enough ago, and says how many there were. -/
def cleanup (r : StatusRegistry) (now : Nat) : Nat × StatusRegistry :=
  let swept (s : QueryStatus) : Bool := s.listed && s.isCleanable r.cleanupDelay now
  ((r.records.filter swept).length,
    { r with records := r.records.map fun s => if swept s then { s with listed := false } else s })

/-- Answers a request to cancel: what was cancelled, and whether there is such a query. -/
def cancelRequest (r : StatusRegistry) (now : Nat) (table uuid : String) :
    (Bool × CancelReport) × StatusRegistry :=
  let (n, r) := r.cancel now table uuid
  ((decide (0 < n) || (r.get? table uuid).isSome, ⟨table, uuid, UInt64.ofNat n⟩), r)

end StatusRegistry

end ScatterSearch
