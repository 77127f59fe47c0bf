import ScatterSearch.Cluster.Layout
import ScatterSearch.Execution.Manager

/-!
# Hosts

The serving side of a node: its executions, its own view of the layout, and its index.
-/

namespace ScatterSearch

/-- A node as others see it. -/
structure Host where
  manager : ExecutionManager
  layout : Layout
  index : ShardIndex

namespace Host

/-- The name of the node. -/
def server (h : Host) : Server := h.manager.server

/-- A node with the given handlers and the built-in ones. -/
def new (server : Server) (config : ExecutionConfig) (layout : Layout) (ids : IdSupply) : Host :=
  ⟨.new server config (Builtin.handlers.register Builtin.searchCommand Builtin.search) ids, layout,
    .empty⟩

/-- What the node's handlers see of it. -/
def view (h : Host) (now : Nat) : NodeView := ⟨h.layout.served h.server, h.index, now⟩

/-- The next instant at which something happens. -/
def due (h : Host) : Option Nat := h.manager.due

/-- Acts at an instant. -/
def fire (now : Nat) (h : Host) : Host := { h with manager := h.manager.fire (h.view now) now }

/-- The node as a machine. -/
def machine : Machine Host := ⟨due, fire⟩

/-- Whether the node serves a shard, by its own layout. -/
def serves (h : Host) (shard : Shard) : Bool := (h.layout.served h.server).contains shard

/-- Puts a document into a shard, unless the node does not serve it. -/
def index? (h : Host) (shard : Shard) (id text : String) : Option Host :=
  if h.serves shard then some { h with index := h.index.index shard id text } else none

end Host

end ScatterSearch
