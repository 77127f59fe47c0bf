import ScatterSearch.Decode.Union

/-!
# Failures

Everything that can go wrong with an operation on the cluster, as causes; `ClusterError.message` has
the wording. Failures are data: one failed call is reported to each of the shards that waited for
it.
-/

namespace ScatterSearch

/-- Why a query or a call stopped before it had a result. -/
inductive CancelReason where
  /-- somebody asked for it -/
  | user
  /-- the node ran short of memory -/
  | backPressure
  /-- nobody waits for the call any more -/
  | abandoned
  deriving DecidableEq, Repr

namespace CancelReason

/-- The wording of a reason. -/
def message : CancelReason → String
  | .user => "cancelled by user"
  | .backPressure => "cancelled due to system load"
  | .abandoned => "call abandoned"

/-- The name of a reason in documents. -/
def name : CancelReason → String
  | .user => "User"
  | .backPressure => "BackPressure"
  | .abandoned => "Abandoned"

instance : Wire CancelReason where
  encode r := .str r.name
  decode := Decoder.enum ([user, backPressure, abandoned].map fun r => (r.name, r))

end CancelReason

/-- A failure. -/
inductive ClusterError where
  /-- the command was refused before anything was sent -/
  | rejected (command reason : String)
  | tableNotFound (table : String)
  /-- no connection to the server could be had -/
  | connection (server message : String)
  /-- one call failed -/
  | remoteCall (target message : String)
  /-- some calls of an operation failed, of which this was the first -/
  | aggregate (command : String) (failed total : Nat) (first : ClusterError)
  /-- no call ended within the time for it -/
  | queryTimeout (maxQueryTime : Nat) (query : String)
  /-- the execution kept running longer than the call was ready to wait -/
  | reconnectTimeout (target executionId : String) (budget : Nat)
  | cancelled (reason : CancelReason)
  /-- a value did not have the expected shape -/
  | codec (message : String)
  | internal (message : String)
  deriving DecidableEq, Repr, Inhabited

namespace ClusterError

/-- The wording of a failure. -/
def message : ClusterError → String
  | .rejected command reason => "Command [" ++ command ++ "] rejected: " ++ reason
  | .tableNotFound table => "Table not found: " ++ table
  | .connection server message => "Connection to [" ++ server ++ "] unavailable: " ++ message
  | .remoteCall target message => "Remote call on [" ++ target ++ "] failed: " ++ message
  | .aggregate command failed total first =>
    "Command [" ++ command ++ "] failed on " ++ Nat.repr failed ++ " of " ++ Nat.repr total ++
      " targets: " ++ first.message
  | .queryTimeout time query =>
    "Query timeout with max query time of [" ++ Nat.repr time ++ "] ms for query [" ++ query ++ "]"
  | .reconnectTimeout target id budget =>
    "Execution [" ++ id ++ "] on [" ++ target ++ "] still running after [" ++
      Nat.repr budget ++ "] ms"
  | .cancelled reason => "Query " ++ reason.message
  | .codec message => "Codec error: " ++ message
  | .internal message => "Internal error: " ++ message

/-- Whether time ran out. -/
def isTimeout : ClusterError → Bool
  | .queryTimeout _ _ => true
  | .reconnectTimeout _ _ _ => true
  | _ => false

/-- Whether the work was called off. -/
def isCancelled : ClusterError → Bool
  | .cancelled _ => true
  | _ => false

/-- A value of the wrong shape, as a failure. -/
def ofDecode (e : DecodeError) : ClusterError := .codec e.message

end ClusterError

/-- Reads a value out of a payload. -/
def Decoder.ofPayload {α : Type} (d : Decoder α) (j : Json) : Except ClusterError α :=
  (d.run j).mapError ClusterError.ofDecode

end ScatterSearch
