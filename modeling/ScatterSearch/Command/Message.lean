import ScatterSearch.Command.Response

/-!
# Messages between nodes

What a client sends to the node that runs a command, and what it gets back. A reply either settles
the command or names the execution that is still running, to which the client can come back.
-/

namespace ScatterSearch

/-- The name of an execution that is still running. -/
structure ExecutionId where
  text : String
  deriving DecidableEq, Repr, Hashable

instance : Wire ExecutionId := ⟨fun i => .str i.text, Decoder.string.map ExecutionId.mk⟩

/-- Asks a node to run a command for some shards. -/
structure ExecuteRequest where
  command : String
  kind : CommandKind
  arguments : Json
  shards : List Shard
  deriving Repr, BEq

instance : Wire ExecuteRequest where
  encode r := .obj [("arguments", r.arguments), ("command", .str r.command),
    ("kind", encode r.kind), ("shards", .arr (r.shards.map encode))]
  decode := Record.decoder "struct ExecuteRequest" <|
    ExecuteRequest.mk <$> Record.required "command" Decoder.string
      <*> Record.required "kind" Wire.decode
      <*> Record.required "arguments" Decoder.any
      <*> Record.required "shards" (Decoder.list Wire.decode)

/-- Comes back to an execution. -/
structure ReconnectRequest where
  executionId : ExecutionId
  deriving DecidableEq, Repr

instance : Wire ReconnectRequest where
  encode r := .obj [("execution_id", encode r.executionId)]
  decode := Record.decoder "struct ReconnectRequest" <|
    ReconnectRequest.mk <$> Record.required "execution_id" Wire.decode

/-- What a node says about an execution. -/
inductive CommandReply where
  | complete (response : Response)
  | running (executionId : ExecutionId)
  | failed (message : String)
  deriving Repr, BEq

instance : Wire CommandReply where
  encode
    | .complete response => .obj [("response", encode response), ("status", .str "complete")]
    | .running id => .obj [("execution_id", encode id), ("status", .str "running")]
    | .failed message => .obj [("message", .str message), ("status", .str "failed")]
  decode := Decoder.tagged "CommandReply" "status"
    [⟨"complete", "Complete", CommandReply.complete <$> Record.required "response" Wire.decode⟩,
     ⟨"running", "Running", CommandReply.running <$> Record.required "execution_id" Wire.decode⟩,
     ⟨"failed", "Failed", CommandReply.failed <$> Record.required "message" Decoder.string⟩]

/-- A sign of life. -/
structure PingReply where
  server : String
  executionsInFlight : UInt64
  deriving DecidableEq, Repr

instance : Wire PingReply where
  encode r := .obj [("executions_in_flight", .uint64 r.executionsInFlight),
    ("server", .str r.server)]
  decode := Record.decoder "struct PingResponse" <|
    PingReply.mk <$> Record.required "server" Decoder.string
      <*> Record.required "executions_in_flight" Decoder.count

/-- The path that starts a command on a node. -/
def executePath : String := "/internal/command/execute"

/-- The path that comes back to an execution. -/
def reconnectPath : String := "/internal/command/reconnect"

/-- The path that asks a node for a sign of life. -/
def pingPath : String := "/internal/ping"

/-- Why a request to a node brought no response. -/
inductive CallError where
  /-- the work goes on; come back with the id -/
  | stillRunning (id : ExecutionId)
  | failed (message : String)
  deriving DecidableEq, Repr

/-- The wording of a call's error. -/
def CallError.message : CallError → String
  | .stillRunning id => "Execution still running as [" ++ id.text ++ "]"
  | .failed message => message

/-- What a client makes of a reply. -/
def CommandReply.toResult : CommandReply → Except CallError Response
  | .complete response => .ok response
  | .running id => .error (.stillRunning id)
  | .failed message => .error (.failed message)

end ScatterSearch
