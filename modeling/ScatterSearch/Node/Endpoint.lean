import ScatterSearch.Command.Message
import ScatterSearch.Http.MediaType
import ScatterSearch.Http.Path

/-!
# Endpoints

What a node can be asked over HTTP. The path decides which endpoint is meant, and only then the
method whether it is asked rightly; a `HEAD` request is a `GET` request whose answer has no body.

* `Endpoint.find?` finds the endpoint of a path;
* `HttpRequest.readBody` reads the value in a request's body, or gives the status code of its
  refusal.
-/

namespace ScatterSearch

/-- What a node can be asked. -/
inductive Endpoint where
  | execute
  | reconnect
  | ping
  | metrics
  | listQueries
  | listQueryIds
  | getQuery
  | cancelQuery
  | search
  | indexDocument
  | shardReport
  | serverReport
  deriving DecidableEq, Repr

namespace Endpoint

open Http (PathSegment)

/-- All endpoints; of two that match a path the earlier one is meant. -/
def all : List Endpoint :=
  [execute, reconnect, ping, metrics, listQueries, listQueryIds, getQuery, cancelQuery, search,
   indexDocument, shardReport, serverReport]

/-- The pattern of an endpoint's path. -/
def pattern : Endpoint → List PathSegment
  | execute => [.fixed "internal", .fixed "command", .fixed "execute"]
  | reconnect => [.fixed "internal", .fixed "command", .fixed "reconnect"]
  | ping => [.fixed "internal", .fixed "ping"]
  | metrics => [.fixed "internal", .fixed "metrics"]
  | listQueries => [.fixed "queries", .variable]
  | listQueryIds => [.fixed "queries", .variable, .fixed "ids"]
  | getQuery => [.fixed "queries", .variable, .variable]
  | cancelQuery => [.fixed "queries", .variable, .variable, .fixed "cancel"]
  | search => [.fixed "search", .variable]
  | indexDocument => [.fixed "shards", .variable, .variable, .fixed "documents"]
  | shardReport => [.fixed "cluster", .fixed "shards", .variable]
  | serverReport => [.fixed "cluster", .fixed "servers", .variable]

/-- The method of an endpoint. -/
def method : Endpoint → String
  | execute | reconnect | cancelQuery | search | indexDocument => "POST"
  | _ => "GET"

/-- Whether an endpoint takes requests of this method. -/
def accepts (e : Endpoint) (method : String) : Bool :=
  method = e.method || (method = "HEAD" && e.method = "GET")

/-- The endpoint of a path, and what its variables stand for. -/
def find? (target : String) : Option (Endpoint × List String) := do
  let segments ← Http.pathSegments target
  all.findSome? fun e => (Http.matchSegments e.pattern segments).map (e, ·)

end Endpoint

/-- A request to a node. -/
structure HttpRequest where
  method : String
  target : String
  contentType : Option String
  body : String

/-- A node's answer; a body is JSON. -/
structure HttpResponse where
  code : Nat
  body : Option Json

namespace HttpResponse

/-- An answer without a body. -/
def empty (code : Nat) : HttpResponse := ⟨code, none⟩

/-- An answer with a value. -/
def value {α : Type} [Wire α] (code : Nat) (a : α) : HttpResponse := ⟨code, some (encode a)⟩

end HttpResponse

namespace HttpRequest

/-- How many bytes a body may have. -/
def bodyLimit : Nat := 2097152

/-- The value in the body. A request that does not say that its body is JSON is refused, and so is a
body that is too long, is no JSON, or has the wrong shape; what follows the value is not looked at.
-/
def readBody {α : Type} (r : HttpRequest) (d : Decoder α) : Except Nat α :=
  if !Http.declaresJson r.contentType then .error 415
  else if bodyLimit < r.body.utf8ByteSize then .error 413
  else (d.parseStart r.body).mapError fun e => if e.isMalformed then 400 else 422

end HttpRequest

end ScatterSearch
