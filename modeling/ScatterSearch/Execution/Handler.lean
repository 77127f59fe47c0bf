import ScatterSearch.Assoc
import ScatterSearch.Cluster.Server
import ScatterSearch.Command.Message
import ScatterSearch.Search.Index

/-!
# Handlers

A handler runs a command on the node that was asked. It looks at its node once, when it starts, and
from that follow how long it runs and how it ends. A response of the other kind than was asked for
is a failure.
-/

namespace ScatterSearch

/-- How a handler ends. -/
inductive Outcome where
  | answers (r : Response)
  | fails (message : String)
  | panics (message : String)
  deriving Repr

/-- How long a handler runs, and how it ends. -/
structure HandlerRun where
  duration : Nat
  outcome : Outcome
  deriving Repr

/-- What a handler sees when it starts. -/
structure HandlerView where
  request : ExecuteRequest
  /-- the node it runs on -/
  server : Server
  /-- the shards of the node, by the node's own layout -/
  served : List Shard
  index : ShardIndex
  /-- the executions of the node, unless it takes no more of them -/
  inFlight : Option Nat
  /-- how long the node has been up -/
  uptime : Nat

/-- Runs a command. -/
abbrev Handler := HandlerView → HandlerRun

namespace Handler

/-- A handler that takes no time. -/
def instant (f : HandlerView → Except String Response) : Handler := fun v =>
  match f v with
  | .ok r => ⟨0, .answers r⟩
  | .error m => ⟨0, .fails m⟩

end Handler

/-- The handlers of a node by the names of their commands. -/
abbrev Handlers := Assoc String Handler

namespace Handlers

/-- Sets the handler of a command, in place of an earlier one. -/
def register (hs : Handlers) (name : String) (h : Handler) : Handlers := Assoc.put hs name h

/-- The names of the commands, in increasing order. -/
def names (hs : Handlers) : List String := (Assoc.keys hs).mergeSort fun a b => decide (a ≤ b)

/-- What is said of a command without a handler. -/
def unknownMessage (command : String) : String := "Unknown command handler: " ++ command

/-- What is said of a response of the wrong kind. -/
def kindMessage (command : String) (answered asked : CommandKind) : String :=
  "Command '" ++ command ++ "' answered " ++ answered.label ++ " to a " ++ asked.label ++ " request"

/-- Refuses a response of another kind than was asked for. -/
def checkKind (request : ExecuteRequest) : Outcome → Outcome
  | .answers r =>
    if r.kind = request.kind then .answers r
    else .fails (kindMessage request.command r.kind request.kind)
  | o => o

/-- Runs the handler of the request's command. -/
def run (hs : Handlers) (v : HandlerView) : HandlerRun :=
  match Assoc.get? hs v.request.command with
  | none => ⟨0, .fails (unknownMessage v.request.command)⟩
  | some h =>
    let r := h v
    { r with outcome := checkKind v.request r.outcome }

end Handlers

end ScatterSearch
