import ScatterSearch.Cluster.Layout
import ScatterSearch.Command.Limits
import ScatterSearch.Command.Message
import ScatterSearch.Command.Parts

/-!
# Where a command goes

A command is checked, then its tables and shards are looked up in the layout. What comes of that is
a plan: one request for each server that serves a selected shard, for exactly those of its shards.
There may be nothing to do, and the first fault that is found decides how a command is refused:
arguments that cannot be given, limits that are exceeded, a table that nobody serves.
-/

namespace ScatterSearch

/-- What one server is asked. -/
structure PlannedCall where
  server : Server
  request : ExecuteRequest

namespace Command

/-- The first table of the command that is on no server. -/
def missingTable? (c : Command) (l : Layout) : Option String :=
  c.tables.find? fun t => !l.tables.contains t

/-- The shards that the command selects in a layout, by server. -/
def selection (c : Command) (l : Layout) : Snapshot :=
  .capture l c.tables (c.shardsWithin c.tables)

/-- The calls that the command makes; none if it names no table or selects nothing. -/
def plan (c : Command) (kind : CommandKind) (limits : CommandLimits) (l : Layout) :
    Except ClusterError (List PlannedCall) := do
  let arguments ← c.arguments
  limits.check c.name arguments
  match c.missingTable? l with
  | some table => .error (.tableNotFound table)
  | none =>
    return (c.selection l).assignments.map fun (server, shards) =>
      ⟨server, ⟨c.name, kind, arguments, shards⟩⟩

end Command

end ScatterSearch
