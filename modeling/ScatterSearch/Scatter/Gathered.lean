import ScatterSearch.Cluster.Server
import ScatterSearch.Command.Response

/-!
# What came back

The outcome of a read by its targets: a shard for an index read, a server for a server read. Each
target has a value or a failure of its own. `Gathered.toResult` is for those who want all or
nothing.
-/

namespace ScatterSearch

/-- What a value is asked of. -/
inductive Target where
  | shard (shard : Shard)
  | server (server : Server)
  deriving DecidableEq, Repr

namespace Target

/-- A target as keys show it. -/
def text : Target → String
  | .shard s => s.text
  | .server s => s.name

/-- The value that a server's response holds for a target. -/
def pick (t : Target) (server : Server) (r : Response) : Except ClusterError Json :=
  match t with
  | .server _ => r.toServerValue server.name
  | .shard s => do
    let values ← r.toShardValues server.name
    match values.find? (·.1 = s) with
    | some (_, v) => .ok v
    | none => .error (.remoteCall server.name ("no value returned for shard [" ++ s.text ++ "]"))

/-- What the end of a call means for one of its targets. -/
def outcome {ν : Type} (t : Target) (server : Server) (value : Decoder ν)
    (called : Except ClusterError Response) : Except ClusterError ν := do
  let v ← t.pick server (← called)
  value.ofPayload v

end Target

/-- Values and failures by target. -/
structure Gathered (ν : Type) where
  command : String
  values : List (Target × ν)
  failures : List (Target × ClusterError)

namespace Gathered

variable {ν : Type}

/-- Sorts outcomes into values and failures. -/
def ofOutcomes (command : String) (outcomes : List (Target × Except ClusterError ν)) :
    Gathered ν where
  command
  values := outcomes.filterMap fun (t, o) => match o with
    | .ok v => some (t, v)
    | .error _ => none
  failures := outcomes.filterMap fun (t, o) => match o with
    | .ok _ => none
    | .error e => some (t, e)

/-- Whether nothing failed. -/
def isComplete (g : Gathered ν) : Bool := g.failures.isEmpty

/-- The first failure. -/
def firstFailure? (g : Gathered ν) : Option ClusterError := g.failures.head?.map (·.2)

/-- The values, or one error that tells how many targets failed. -/
def toResult (g : Gathered ν) : Except ClusterError (List (Target × ν)) :=
  match g.firstFailure? with
  | none => .ok g.values
  | some first =>
    .error (.aggregate g.command g.failures.length (g.failures.length + g.values.length) first)

end Gathered

end ScatterSearch
