import ScatterSearch.Assoc
import ScatterSearch.Cluster.Server
import ScatterSearch.Cluster.Shard

/-!
# Layouts

Which server serves which shards. A `Layout` can change at any time; an operation takes a `Snapshot`
of it once and works with that. A snapshot holds the selected shards only, and only servers that
serve one of them.
-/

namespace ScatterSearch

/-- The shards of every server. -/
structure Layout where
  assignments : Assoc Server (List Shard)
  deriving Repr

/-- A shard is selected if its table is among the tables and it is among the shards; no shards stand
for all of them. -/
def selects (tables : List String) (shards : List Shard) (s : Shard) : Bool :=
  tables.contains s.table && (shards.isEmpty || shards.contains s)

namespace Layout

/-- No servers. -/
def empty : Layout := ⟨[]⟩

/-- Sets the shards of a server, in place of those it had. -/
def assign (l : Layout) (server : Server) (shards : List Shard) : Layout :=
  ⟨l.assignments.put server shards.eraseDups⟩

/-- The layout with the given assignments, made in order. -/
def ofAssignments (entries : List (Server × List Shard)) : Layout :=
  entries.foldl (fun l (server, shards) => l.assign server shards) empty

/-- Takes a server out. -/
def remove (l : Layout) (server : Server) : Layout := ⟨l.assignments.erase server⟩

/-- The servers. -/
def servers (l : Layout) : List Server := l.assignments.keys

/-- The shards of a server; one that is not in the layout has none. -/
def served (l : Layout) (server : Server) : List Shard := (l.assignments.get? server).getD []

/-- The tables with a shard on some server. -/
def tables (l : Layout) : List String :=
  (l.servers.flatMap fun s => (l.served s).map (·.table)).eraseDups

/-- The shards of a table on all servers. -/
def tableShards (l : Layout) (table : String) : List Shard :=
  ((l.servers.flatMap l.served).filter (·.table = table)).eraseDups

/-- Whether a server serves a selected shard. -/
def isValidServer (l : Layout) (server : Server) (tables : List String) (shards : List Shard) :
    Bool :=
  (l.served server).any (selects tables shards)

end Layout

/-- The selected shards of every server that serves some. -/
structure Snapshot where
  assignments : Assoc Server (List Shard)
  deriving Repr

namespace Snapshot

/-- The selected part of a layout. -/
def capture (l : Layout) (tables : List String) (shards : List Shard) : Snapshot :=
  if tables.isEmpty then ⟨[]⟩
  else ⟨(l.servers.filter fun s => l.isValidServer s tables shards).map fun s =>
    (s, (l.served s).filter (selects tables shards))⟩

/-- The servers. -/
def servers (s : Snapshot) : List Server := s.assignments.keys

/-- The shards of a server that has some. -/
def shardsOn? (s : Snapshot) (server : Server) : Option (List Shard) := s.assignments.get? server

/-- How many servers there are. -/
def serverCount (s : Snapshot) : Nat := s.assignments.length

/-- How many shards there are, counted for each server that serves them. -/
def shardCount (s : Snapshot) : Nat := (s.assignments.flatMap (·.2)).length

/-- Whether nothing is selected. -/
def isEmpty (s : Snapshot) : Bool := s.assignments.isEmpty

end Snapshot

end ScatterSearch
