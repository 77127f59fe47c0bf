import ScatterSearch.Call.Remote
import ScatterSearch.Cluster.Failure
import ScatterSearch.Execution.Handler

/-!
# Scripts

What a node does can be rehearsed against stand-ins whose behaviour is written down: remotes that
play a list of replies, and handlers that end in a given way after a given time. What a script
leaves open a stand-in makes up: a remote says where each shard is, or how many there are; a handler
repeats what it was asked.
-/

namespace ScatterSearch

/-- The response written down under a name. -/
def responseIn (j : Json) (name : String) : Response := j.wired (.serverValue .null) name

namespace Remote

/-- What a remote makes up: for each shard where it is, or the number of shards. -/
def madeUp (server : Server) (request : ExecuteRequest) : Reply :=
  .answers (.ok (match request.kind with
    | .indexRead =>
      .shardValues (request.shards.map fun s => (s, .str (s.text ++ "@" ++ server.name)))
    | .serverRead => .serverValue (.nat request.shards.length)))

/-- One reply of a script. -/
def scriptedReply (server : Server) (j : Json) : RemoteReply :=
  ⟨j.natural "after_ms", fun request =>
    if j.has "running" then .answers (.error (.stillRunning ⟨j.string "running"⟩))
    else if j.has "failed" then .answers (.error (.failed (j.string "failed")))
    else if j.has "panic" then .panics (j.string "panic")
    else if j.has "complete" then .answers (.ok (responseIn j "complete"))
    else madeUp server request⟩

/-- The remote of a script. -/
def ofScript (j : Json) (server : Server) : Remote :=
  let replies (name : String) := playing ((j.list name).map (scriptedReply server)) (madeUp server)
  ⟨j.natural "connect_ms", ClusterError.describedIn? j "connect_error", replies "execute",
    replies "reconnect"⟩

end Remote

/-- The handler of a script. -/
def Handler.ofScript (j : Json) : Handler := fun v =>
  ⟨j.natural "after_ms",
    if j.has "respond" then .answers (responseIn j "respond")
    else if j.has "fail" then .fails (j.string "fail")
    else if j.has "panic" then .panics (j.string "panic")
    else .answers (.serverValue (.object [("command", .str v.request.command),
      ("kind", encode v.request.kind), ("arguments", v.request.arguments),
      ("shards", .strings (v.request.shards.map Shard.text))]))⟩

end ScatterSearch
