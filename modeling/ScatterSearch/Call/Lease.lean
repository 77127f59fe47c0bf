import ScatterSearch.Cluster.Server

/-!
# Leases

A call that runs holds a worker, and then a connection on a lease. What it holds it lets go of when
it leaves the scope, the latest first. A lease can be released before: that takes the connection out
of it, so that the scope of the lease is left with nothing in it.
-/

namespace ScatterSearch

/-- What a call does with its worker and its connection. -/
inductive Dealing where
  | take
  /-- the call has got a connection to a server -/
  | get (s : Server)
  /-- the connection may be used again -/
  | giveBack (s : Server)
  /-- the connection is thrown away -/
  | discard (s : Server)
  | leave
  deriving DecidableEq, Repr

/-- A connection to a server that is had out of the pool. -/
structure Lease where
  server : Server
  /-- the connection was not taken out of the lease -/
  isFull : Bool
  deriving DecidableEq, Repr

namespace Lease

/-- A lease with its connection. -/
def acquire (server : Server) : Lease := ⟨server, true⟩

/-- The lease without its connection. -/
def emptied (l : Lease) : Lease := { l with isFull := false }

/-- What a lease does whose scope is left: a connection that is still in it is thrown away. -/
def drop (l : Lease) : List Dealing := if l.isFull then [.discard l.server] else []

/-- Takes the connection out, for others to use if it is healthy. The lease goes out of scope at
once. -/
def release (healthy : Bool) (l : Lease) : List Dealing :=
  if l.isFull then (if healthy then .giveBack l.server else .discard l.server) :: l.emptied.drop
  else l.drop

end Lease

/-- What a call holds. -/
inductive Holding where
  | worker
  | connection (lease : Lease)
  deriving DecidableEq, Repr

namespace Holding

/-- How the call came by it. -/
def gain : Holding → Dealing
  | .worker => .take
  | .connection l => .get l.server

/-- What happens to it when its scope is left. -/
def drop : Holding → List Dealing
  | .worker => [.leave]
  | .connection l => l.drop

/-- What happens to it when its scope is left after a result has come, healthy or not. A lease is
released then. -/
def settle (healthy : Bool) : Holding → List Dealing
  | .worker => [.leave]
  | .connection l => l.release healthy

/-- Whether it is a connection. -/
def isConnection : Holding → Bool
  | .worker => false
  | .connection _ => true

end Holding

end ScatterSearch
