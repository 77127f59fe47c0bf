import ScatterSearch.Client.Pool
import ScatterSearch.Node.Endpoint
import ScatterSearch.Scatter.Report
import ScatterSearch.Search.Coordinator

/-!
# Nodes

A node serves its shards to others, coordinates searches over the cluster, and answers requests over
HTTP. Some requests are answered at once; others wait for an execution, a search or a read. So a
request gives a `Ticket`, and `Node.response?` gives the answer to it as soon as there is one.
-/

namespace ScatterSearch

/-- A node of a cluster. Of the hosts in its network the first is the node itself. -/
structure Node where
  server : Server
  coordinator : Coordinator
  /-- names queries that come without a name -/
  queryIds : IdSupply

/-- What the answer to a request waits for. -/
inductive Ticket where
  | answered (r : HttpResponse)
  /-- a request for the outcome of an execution -/
  | execution (place : Nat)
  | search (place : Nat)
  | report (place : Nat)

/-- Answers a request to put a document into a shard. -/
def Host.putDocument (h : Host) (shard : Shard) (r : IndexRequest) : HttpResponse × Host :=
  match h.index? shard r.id r.text with
  | some h =>
    (.value 201 (⟨shard, r.id, UInt64.ofNat (Text.documentTerms r.text).length⟩ : IndexReply), h)
  | none =>
    (.value 404 (⟨"Shard " ++ shard.text ++ " is not served by " ++ h.server.name⟩ : ErrorReply), h)

namespace Node

/-! ## Parts -/

/-- The calling side. -/
def executor (n : Node) : Executor := n.coordinator.executor

/-- The registry of queries. -/
def registry (n : Node) : StatusRegistry := n.coordinator.registry

/-- The serving side. -/
def host? (n : Node) : Option Host := n.coordinator.network.hosts.head?

/-- Sets the calling side. -/
def setExecutor (n : Node) (executor : Executor) : Node :=
  { n with coordinator := n.coordinator.setExecutor executor }

/-- Sets the registry of queries. -/
def setRegistry (n : Node) (registry : StatusRegistry) : Node :=
  { n with coordinator := n.coordinator.setRegistry registry }

/-- Sets the serving side. -/
def setHost (n : Node) (h : Host) : Node := { n with coordinator := n.coordinator.setHost 0 h }

/-- A server that cannot be reached, as the clients of a node see it: all pings are in vain. -/
def unreachable (config : ClientConfig) (server : Server) : Remote :=
  let (ping, _) := Client.ping Web.isolated server config.pingAttempts.toNat ()
  match ping.result with
  | .error e => .unreachable ping.pauses e
  | .ok () => .unreachable ping.pauses (.connection server.name "")

/-- Starts a node under a name. `memory` is what its process uses, as far as it is known, and
`elsewhere` says how other servers behave. -/
def start (server : Server) (config : NodeConfig) (memory : Option UInt64) (origin : Nat)
    (elsewhere : Server → Remote) : Node :=
  let layout := Layout.ofAssignments (config.layout.map fun l => (l.server, l.shards))
  let host := Host.new server config.execution layout (.new origin)
  let host := { host with manager := host.manager.start 0 }
  let monitor := { StatusMonitor.new config.status.cleanupDelay.toNat
    config.status.cleanupInterval.toNat with memory }.start 0
  let pressure := config.backpressure
  let monitor := match pressure.enabled, pressure.memoryLimit with
    | true, some limit =>
      monitor.watchMemory 0 ⟨limit, pressure.threshold⟩ pressure.checkInterval.toNat
    | _, _ => monitor
  let network := Network.new [host] [] elsewhere
  ⟨server, .new (.new layout config.executor network) monitor, .new (origin + 1)⟩

/-! ## Requests -/

/-- Answers at once. -/
def reply (n : Node) (r : HttpResponse) : Ticket × Node := (.answered r, n)

/-- The node's records as it shows them; `clock` is the wall clock's time when the node started. -/
def statusView (now : Nat) (clock : UInt64) (s : QueryStatus) : StatusView :=
  s.view now (clock + UInt64.ofNat s.started)

/-- Hands a request to the serving side. -/
def serve (n : Node) (f : ExecutionManager → Nat × ExecutionManager) : Ticket × Node :=
  match n.host? with
  | some h =>
    let (place, manager) := f h.manager
    (.execution place, n.setHost { h with manager })
  | none => n.reply (.empty 500)

/-- Brings a document to the serving side. -/
def putDocument (n : Node) (shard : Shard) (request : IndexRequest) : Ticket × Node :=
  match n.host? with
  | some h =>
    let (response, h) := h.putDocument shard request
    (n.setHost h).reply response
  | none => n.reply (.empty 500)

/-- Starts a read for a report. -/
def startReport (n : Node) (read : Nat × Executor) : Ticket × Node :=
  (.report read.1, n.setExecutor read.2)

/-- Does what an endpoint is for, with what the variables of its path stand for. -/
def act (n : Node) (now : Nat) (clock : UInt64) (r : HttpRequest) (e : Endpoint)
    (path : List String) : Ticket × Node :=
  let table := path.headD ""
  let second := path[1]?.getD ""
  let withBody {α : Type} (d : Decoder α) (f : α → Ticket × Node) : Ticket × Node :=
    match r.readBody d with
    | .ok a => f a
    | .error code => n.reply (.empty code)
  match e with
  | .execute => withBody Wire.decode fun request => n.serve fun m => m.execute now request
  | .reconnect =>
    withBody Wire.decode fun (request : ReconnectRequest) =>
      n.serve fun m => m.reconnect now request.executionId
  | .ping => n.reply (match n.host? with
    | some h => .value 200 h.manager.ping
    | none => .empty 500)
  | .metrics => n.reply ⟨200, some (.arr (n.executor.metrics.view.map encode))⟩
  | .listQueries =>
    n.reply ⟨200, some (.arr ((n.registry.list table).map (encode ∘ statusView now clock)))⟩
  | .listQueryIds => n.reply ⟨200, some (.strings (n.registry.listIds table))⟩
  | .getQuery => n.reply (match n.registry.get? table second with
    | some s => .value 200 (statusView now clock s)
    | none => ⟨404, some .null⟩)
  | .cancelQuery =>
    let ((found, report), registry) := n.registry.cancelRequest now table second
    (n.setRegistry registry).reply (.value (if found then 200 else 404) report)
  | .search =>
    let (fresh, queryIds) := n.queryIds.draw
    withBody (QueryDescriptor.decode fresh) fun query =>
      let (place, coordinator) := n.coordinator.search now table query
      (.search place, { n with queryIds, coordinator })
  | .indexDocument =>
    withBody Wire.decode fun request => n.putDocument ⟨table, second⟩ request
  | .shardReport => n.startReport (n.executor.readShardReport table)
  | .serverReport => n.startReport (n.executor.readServerReport table)

/-- Takes a request. -/
def handle (n : Node) (now : Nat) (clock : UInt64) (r : HttpRequest) : Ticket × Node :=
  match Endpoint.find? r.target with
  | none => n.reply (.empty 404)
  | some (e, segments) =>
    if !e.accepts r.method then n.reply (.empty 405)
    else match segments.mapM Http.unescapeText? with
      | none => n.reply (.empty 400)
      | some path => n.act now clock r e path

/-- The answer to a search. -/
def searchResponse : Except ClusterError SearchResponse → HttpResponse
  | .ok response => .value 200 response
  | .error e => .value e.searchStatus (⟨e.message⟩ : ErrorReply)

/-- The answer to a request, once there is one. -/
def response? (n : Node) : Ticket → Option HttpResponse
  | .answered r => some r
  | .execution place => (n.host?.bind (·.manager.reply? place)).map (.value 200 ·)
  | .search place => (n.coordinator.result? place).map searchResponse
  | .report place => (n.executor.gathered? place).map fun g =>
      let (code, report) := ClusterReport.answer g
      .value code report

/-! ## Time -/

/-- The next instant at which something happens. -/
def due (n : Node) : Option Nat := n.coordinator.due

/-- Acts at an instant. -/
def fire (now : Nat) (n : Node) : Node := { n with coordinator := n.coordinator.fire now }

/-- The node as a machine. -/
def machine : Machine Node := ⟨due, fire⟩

end Node

end ScatterSearch
