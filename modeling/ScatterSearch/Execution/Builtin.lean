import ScatterSearch.Execution.Handler

/-!
# The commands of every node

* `shard_layout` answers for each requested shard that the node serves with the node's name;
* `server_info` says what the node serves and how busy it is;
* `search` searches the requested shards in the node's index.
-/

namespace ScatterSearch.Builtin

/-- Which server serves a shard. -/
def shardLayoutCommand : String := "shard_layout"

/-- What a server serves. -/
def serverInfoCommand : String := "server_info"

/-- Searches shards. -/
def searchCommand : String := "search"

/-- Answers with the node's name for each requested shard that it serves. -/
def shardLayout : Handler := .instant fun v =>
  .ok (.shardValues ((v.request.shards.filter v.served.contains).map fun s =>
    (s, .str v.server.name)))

/-- Tells about the node. -/
def serverInfo : Handler := .instant fun v =>
  match v.inFlight with
  | none => .error "execution manager shut down"
  | some n =>
    let tables := (v.served.map (·.table)).eraseDups.mergeSort fun a b => decide (a ≤ b)
    .ok (.serverValue (.obj [("executions_in_flight", .nat n),
      ("requested_shards", .nat v.request.shards.length), ("server", .str v.server.name),
      ("shards", .nat v.served.length), ("tables", .strings tables), ("uptime_ms", .nat v.uptime)]))

/-- Searches each requested shard. -/
def search : Handler := .instant fun v =>
  match (Wire.decode : Decoder SearchArguments).ofPayload v.request.arguments with
  | .error e => .error e.message
  | .ok args => .ok (.shardValues (v.request.shards.map fun s =>
      (s, encode (v.index.search s args.text args.limit))))

/-- The commands that tell about a node. -/
def handlers : Handlers := [(shardLayoutCommand, shardLayout), (serverInfoCommand, serverInfo)]

end ScatterSearch.Builtin
