import ScatterSearch.Cluster.Server
import ScatterSearch.Http.Status
import ScatterSearch.Json.Value

/-!
# The web

What a client sees of the network: it sends a request to a server, and there is an answer with a
status code and a body, or there is none.
-/

namespace ScatterSearch

/-- What a client sends. -/
structure WebRequest where
  method : String
  server : Server
  path : String
  body : Option Json

/-- What comes of a request. -/
inductive WebOutcome where
  | unreachable
  | answered (status : Nat) (body : String)

/-- A network with a state of its own. -/
abbrev Web (τ : Type) := τ → WebRequest → WebOutcome × τ

namespace WebRequest

/-- Where a request goes. -/
def url (r : WebRequest) : String := "http://" ++ r.server.name ++ r.path

/-- What is said of a request that could not be sent. -/
def unsentMessage (r : WebRequest) : String := "error sending request for url (" ++ r.url ++ ")"

end WebRequest

namespace Web

/-- A network in which nobody is reached. -/
def isolated : Web Unit := fun s _ => (.unreachable, s)

end Web

end ScatterSearch
