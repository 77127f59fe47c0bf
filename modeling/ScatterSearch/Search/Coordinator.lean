import ScatterSearch.Merge.Merge
import ScatterSearch.Query.Monitor
import ScatterSearch.Scatter.Executor

/-!
# Coordinating a search

A coordinator runs searches: it registers the query, scatters the `search` command to all shards of
the table, and merges what the shards find until there is enough. However a search ends, its query
is then no longer running; if somebody cancelled the query, the search ends with that.

At every instant a search first looks whether its time is over, before it sees what happens at that
instant; then the calls act, and at last the searches look at what has come.
-/

namespace ScatterSearch

/-- Where a search stands. -/
inductive SearchStage where
  | merging (m : Merge SearchResults)
  | ended (result : Except ClusterError SearchResponse)
  /-- it has no result: its caller went away, or it panicked -/
  | dropped

/-- One search. -/
structure Search where
  table : String
  query : QueryDescriptor
  /-- how many hits the caller wants -/
  limit : Nat
  /-- the place of its query in the registry -/
  status : Nat
  /-- the handles whose values were not merged yet -/
  handles : List CallHandle
  stage : SearchStage

namespace Search

/-- What the caller is told about a merge. -/
def response (s : Search) (o : MergeOutcome SearchResults) : SearchResponse where
  uuid := s.query.uuid
  table := s.table
  totalResults := o.aggregate.totalResults
  hits := o.aggregate.hits.take s.limit
  shardsAnswered := o.aggregate.shardsAnswered
  state := o.state

/-- The result, once the search has ended. -/
def result? (s : Search) : Option (Except ClusterError SearchResponse) :=
  match s.stage with
  | .ended r => some r
  | _ => none

/-- When the time for the next part is over. -/
def deadline? (s : Search) : Option Nat :=
  match s.stage with
  | .merging m => some m.deadline
  | _ => none

end Search

/-- The status code for a search that failed. -/
def ClusterError.searchStatus : ClusterError → Nat
  | .rejected _ _ => 400
  | .tableNotFound _ => 404
  | .queryTimeout _ _ => 504
  | .reconnectTimeout _ _ _ => 504
  | .cancelled .backPressure => 503
  | .cancelled _ => 409
  | _ => 502

/-- The searches of a node, its calls, and its registry. -/
structure Coordinator where
  executor : Executor
  statuses : StatusMonitor
  /-- held by their places -/
  searches : List Search

namespace Coordinator

/-- A coordinator without searches. -/
def new (executor : Executor) (statuses : StatusMonitor) : Coordinator := ⟨executor, statuses, []⟩

/-! ## Parts -/

/-- The network. -/
def network (c : Coordinator) : Network := c.executor.outbound.network

/-- The registry of queries. -/
def registry (c : Coordinator) : StatusRegistry := c.statuses.registry

/-- Sets the calling side. -/
def setExecutor (c : Coordinator) (executor : Executor) : Coordinator := { c with executor }

/-- Sets the network. -/
def setNetwork (c : Coordinator) (network : Network) : Coordinator :=
  c.setExecutor { c.executor with outbound := { c.executor.outbound with network } }

/-- Sets the host at a place. -/
def setHost (c : Coordinator) (place : Nat) (h : Host) : Coordinator :=
  c.setNetwork { c.network with hosts := c.network.hosts.set place h }

/-- Sets the registry of queries. -/
def setRegistry (c : Coordinator) (registry : StatusRegistry) : Coordinator :=
  { c with statuses := { c.statuses with registry } }

/-- Sets the layout, for the coordinator and for all hosts. -/
def setLayouts (c : Coordinator) (layout : Layout) : Coordinator :=
  let c := c.setExecutor { c.executor with layout }
  c.setNetwork { c.network with hosts := c.network.hosts.map fun h => { h with layout } }

/-! ## Searches -/

/-- Sets where the search at a place stands. -/
def setStage (c : Coordinator) (place : Nat) (stage : SearchStage) : Coordinator :=
  { c with searches := c.searches.modify place fun s => { s with stage } }

/-- Marks the query of a search as ended. -/
def finishQuery (c : Coordinator) (now : Nat) (s : Search) : Coordinator :=
  c.setRegistry (c.registry.finish now s.status)

/-- Stops the calls of the given handles. -/
def stopCalls (c : Coordinator) (handles : List CallHandle) : Coordinator :=
  c.setExecutor (handles.foldl Executor.cancel c.executor)

/-- The values of the handles whose calls have ended. -/
def ready (c : Coordinator) (handles : List CallHandle) : List (Except ClusterError ShardHits) :=
  handles.filterMap (c.executor.outcome? Wire.decode)

/-- The search at a place is gone without a result. Its query ends; its calls go on. -/
def drop (c : Coordinator) (now place : Nat) : Coordinator :=
  match c.searches[place]? with
  | some s =>
    match s.stage with
    | .merging _ => (c.setStage place .dropped).finishQuery now s
    | _ => c
  | none => c

/-- Lets the search at a place look at what there is. A panic is like a caller who goes away. -/
def pollSearch (now : Nat) (c : Coordinator) (place : Nat) : Coordinator :=
  match c.searches[place]? with
  | some s =>
    match s.stage with
    | .merging m =>
      let reason := (c.registry.status? s.status).bind (·.cancelReason)
      let waiting := s.handles.filter fun h => !c.executor.isFinished h
      match m.poll .search now reason (c.ready s.handles) with
      | .waiting m =>
        { c with searches :=
            c.searches.set place { s with handles := waiting, stage := .merging m } }
      | .ended result =>
        ((c.stopCalls waiting).setStage place (.ended (result.map s.response))).finishQuery now s
      | .panicked => c.drop now place
    | _ => c
  | none => c

/-- Lets all searches look. -/
def pollAll (now : Nat) (c : Coordinator) : Coordinator :=
  (List.range c.searches.length).foldl (pollSearch now) c

/-- Adds a search. -/
def push (c : Coordinator) (s : Search) : Coordinator := { c with searches := c.searches ++ [s] }

/-- Starts a search, and gives its place. A query that is no search is refused before anything else
happens. -/
def search (c : Coordinator) (now : Nat) (table : String) (query : QueryDescriptor) :
    Nat × Coordinator :=
  let place := c.searches.length
  let status := c.registry.records.length
  let s : Search := ⟨table, query, 0, status, [], .dropped⟩
  match (Wire.decode : Decoder SearchArguments).run query.query with
  | .error e =>
    (place, c.push { s with stage := .ended (.error (.rejected Builtin.searchCommand e.message)) })
  | .ok args =>
    let c := c.setRegistry (c.registry.register now table query)
    let parts := ((CommandParts.named Builtin.searchCommand).table table).withArgs query.query
    let time := query.maxQueryTime.toNat
    let (handles, executor) := c.executor.startWithin (some time) .indexRead parts.command
    let c := c.setExecutor executor
    match handles with
    | .error e => (place, (c.push { s with stage := .ended (.error e) }).finishQuery now s)
    | .ok handles =>
      let limits : MergeLimits := ⟨query.minimumResults, time⟩
      let m := Merge.start .search limits query.query.render handles.length now
      let s := { s with limit := args.limit.toNat, handles, stage := .merging m }
      (place, pollSearch now (c.push s) place)

/-- The result of the search at a place, once it has ended. -/
def result? (c : Coordinator) (place : Nat) : Option (Except ClusterError SearchResponse) :=
  (c.searches[place]?).bind (·.result?)

/-! ## Time -/

/-- Whether a search runs whose query was cancelled. -/
def isCalledOff (c : Coordinator) (s : Search) : Bool :=
  s.deadline?.isSome && ((c.registry.status? s.status).bind (·.cancelReason)).isSome

/-- The next instant at which the time of a search is over. -/
def searchDue (c : Coordinator) : Option Nat := (c.searches.filterMap (·.deadline?)).min?

/-- The next instant at which something happens. -/
def due (c : Coordinator) : Option Nat :=
  if c.searches.any c.isCalledOff then some 0
  else (c.searchDue.toList ++ c.executor.due.toList ++ c.statuses.due.toList).min?

/-- Acts at an instant: either searches whose time is over look, or everything else happens. -/
def fire (now : Nat) (c : Coordinator) : Coordinator :=
  if c.searchDue.any (· ≤ now) then c.pollAll now
  else
    let statuses := if c.statuses.due.any (· ≤ now) then c.statuses.fire now else c.statuses
    { c with executor := Clock.settle Executor.machine now c.executor, statuses }.pollAll now

/-- The coordinator as a machine. -/
def machine : Machine Coordinator := ⟨due, fire⟩

end Coordinator

end ScatterSearch
