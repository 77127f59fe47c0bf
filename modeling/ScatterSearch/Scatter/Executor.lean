import ScatterSearch.Call.Outbound
import ScatterSearch.Metrics
import ScatterSearch.Scatter.Gathered
import ScatterSearch.Scatter.Plan

/-!
# Scatter and gather

An executor turns a command into one call per server and hands out a handle for each shard or server
that a value is expected of. Handles of one server share its call: they get their values out of the
same response, and to cancel one is to stop the call for all.

A read waits for all its handles before it says what came back, so that one failing server does not
hide what the others answered.
-/

namespace ScatterSearch

/-- A value that is expected: of which target, and of which call. -/
structure CallHandle where
  target : Target
  /-- the place of the call -/
  call : Nat
  deriving DecidableEq, Repr

/-- A read of values of one type that waits for all its handles. -/
structure ReadOperation where
  command : String
  /-- the name under which it is counted, if it is -/
  counter : Option String
  value : Decoder Json
  handles : Except ClusterError (List CallHandle)
  gathered : Option (Except ClusterError (Gathered Json))

/-- The calling side of a node. -/
structure Executor where
  layout : Layout
  limits : CommandLimits
  /-- how long calls come back to their executions -/
  budget : Option Nat
  metrics : Metrics
  outbound : Outbound
  /-- the reads, held by their places -/
  reads : List ReadOperation

namespace Executor

/-- An executor with the limits and workers of a configuration. -/
def new (layout : Layout) (config : ExecutorConfig) (network : Network) : Executor where
  layout
  limits := .within config.maxArgumentBytes.toNat CommandLimits.defaultNameBytes
  budget := config.reconnectBudget.map (·.toNat)
  metrics := .empty
  outbound := .new config.workerCount.toNat network
  reads := []

/-- How many calls have a worker. -/
def inFlight (x : Executor) : Nat := x.outbound.workers.inFlight

/-- Counts one use of an operation. -/
def count (x : Executor) (name : String) (failed : Bool) : Executor :=
  { x with metrics := x.metrics.record name 0 failed }

/-! ## Scatter -/

/-- The targets that get their values from a planned call. -/
def targets (p : PlannedCall) : List Target :=
  match p.request.kind with
  | .indexRead => p.request.shards.map .shard
  | .serverRead => [.server p.server]

/-- Adds the handles of a call; of several calls for one target the last has it. -/
def addHandles (handles : Assoc Target Nat) (p : PlannedCall) (call : Nat) : Assoc Target Nat :=
  (targets p).foldl (fun hs t => hs.put t call) handles

/-- Submits planned calls, and gives the handles of their targets. -/
def submit (budget : Option Nat) (planned : List PlannedCall) (x : Executor) :
    List CallHandle × Executor :=
  let (handles, outbound) := planned.foldl (fun (handles, o) p =>
    let (call, o) := o.submit (.new ⟨p.server, budget⟩ p.request)
    (addHandles handles p call, o)) (([] : Assoc Target Nat), x.outbound)
  (handles.map fun (t, call) => ⟨t, call⟩, { x with outbound })

/-- The name under which the start of a read is counted. -/
def startCounter : CommandKind → String
  | .indexRead => "read_indexes_async"
  | .serverRead => "read_servers_async"

/-- The name under which a read that waits is counted. -/
def readCounter : CommandKind → String
  | .indexRead => "read_indexes"
  | .serverRead => "read_servers"

/-- Starts a read whose calls come back for no longer than the given budget. -/
def startWithin (budget : Option Nat) (kind : CommandKind) (c : Command) (x : Executor) :
    Except ClusterError (List CallHandle) × Executor :=
  match c.plan kind x.limits x.layout with
  | .ok planned =>
    let (handles, x) := (x.count (startCounter kind) false).submit budget planned
    (.ok handles, x)
  | .error e => (.error e, x.count (startCounter kind) true)

/-- Starts a read. -/
def start (kind : CommandKind) (c : Command) (x : Executor) :
    Except ClusterError (List CallHandle) × Executor := x.startWithin x.budget kind c

/-! ## Handles -/

/-- Tells the call of a handle to stop. -/
def cancel (x : Executor) (h : CallHandle) : Executor :=
  { x with outbound := x.outbound.requestStop h.call }

/-- Whether the call of a handle has ended. -/
def isFinished (x : Executor) (h : CallHandle) : Bool := x.outbound.workers.isFinished h.call

/-- The outcome for the target of a handle, once its call has ended. -/
def outcome? {ν : Type} (x : Executor) (value : Decoder ν) (h : CallHandle) :
    Option (Except ClusterError ν) := do
  let c ← x.outbound.workers.calls[h.call]?
  let called ← x.outbound.workers.result? h.call
  return h.target.outcome c.terms.server value called

/-! ## Gather -/

/-- Starts a read that waits for all its handles, and gives its place. One that is all or nothing is
counted when it ends, and fails if one of its targets does. -/
def read (x : Executor) (kind : CommandKind) (allOrNothing : Bool) (c : Command)
    (value : Decoder Json) : Nat × Executor :=
  let (handles, started) := x.start kind c
  let counter := if allOrNothing then some (readCounter kind) else none
  (x.reads.length, { started with reads := x.reads ++ [⟨c.name, counter, value, handles, none⟩] })

/-- What came back for a read, once all its calls have ended. -/
def gather? (x : Executor) (r : ReadOperation) : Option (Except ClusterError (Gathered Json)) :=
  match r.handles with
  | .error e => some (.error e)
  | .ok handles =>
    (handles.mapM fun h => (x.outcome? r.value h).map (h.target, ·)).map fun outcomes =>
      .ok (.ofOutcomes r.command outcomes)

/-- Whether what came back is a failure for those who want all or nothing. -/
def isFailure : Except ClusterError (Gathered Json) → Bool
  | .ok g => !g.isComplete
  | .error _ => true

/-- Ends the read at a place, if all its calls have ended. -/
def finishRead (x : Executor) (place : Nat) : Executor :=
  match x.reads[place]? with
  | some r =>
    match r.gathered, x.gather? r with
    | none, some g =>
      let x := { x with reads := x.reads.set place { r with gathered := some g } }
      match r.counter with
      | some name => x.count name (isFailure g)
      | none => x
    | _, _ => x
  | none => x

/-- Ends all reads whose calls have ended. -/
def finishReads (x : Executor) : Executor := (List.range x.reads.length).foldl finishRead x

/-- What came back for the read at a place, once it has ended. -/
def gathered? (x : Executor) (place : Nat) : Option (Except ClusterError (Gathered Json)) :=
  (x.reads[place]?).bind (·.gathered)

/-! ## Time -/

/-- The next instant at which something happens. -/
def due (x : Executor) : Option Nat :=
  if x.reads.any fun r => r.gathered.isNone && (x.gather? r).isSome then some 0 else x.outbound.due

/-- Acts at an instant. -/
def fire (now : Nat) (x : Executor) : Executor :=
  { x with outbound := x.outbound.fire now }.finishReads

/-- The executor as a machine. -/
def machine : Machine Executor := ⟨due, fire⟩

end Executor

end ScatterSearch
