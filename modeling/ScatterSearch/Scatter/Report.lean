import ScatterSearch.Scatter.Executor
import ScatterSearch.Search.Message

/-!
# Reports on the cluster

Any node can be asked which server serves each shard of a table, and what its servers say of
themselves. Both are reads of a built-in command; a report has what came back, values and failures
side by side, and a status code.
-/

namespace ScatterSearch

namespace ClusterReport

/-- What came back of a command, by the texts of its targets. -/
def ofGathered (g : Gathered Json) : ClusterReport :=
  ⟨g.command, g.values.map fun (t, v) => (t.text, v),
    g.failures.map fun (t, e) => (t.text, e.message)⟩

/-- The status code of a report that could not be made. -/
def statusOf : ClusterError → Nat
  | .tableNotFound _ => 404
  | .rejected _ _ => 400
  | _ => 500

/-- The report on a read, with its status code; one that could not be made is empty. -/
def answer : Except ClusterError (Gathered Json) → Nat × ClusterReport
  | .ok g => (200, ofGathered g)
  | .error e => (statusOf e, .empty)

end ClusterReport

namespace Executor

/-- Starts to ask which server serves each shard of a table. -/
def readShardReport (x : Executor) (table : String) : Nat × Executor :=
  x.read .indexRead false ((CommandParts.named Builtin.shardLayoutCommand).table table).command
    Decoder.any

/-- Starts to ask the servers of a table about themselves. -/
def readServerReport (x : Executor) (table : String) : Nat × Executor :=
  x.read .serverRead false ((CommandParts.named Builtin.serverInfoCommand).table table).command
    Decoder.any

end Executor

end ScatterSearch
