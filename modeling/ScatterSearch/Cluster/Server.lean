import ScatterSearch.Cluster.SocketAddress

/-!
# Servers

A server is known by its name, which is usually `host:port`. Names that come over the wire are taken
as they are; `Server.parse?` accepts only those that end in a port.
-/

namespace ScatterSearch

/-- A node of the cluster. -/
structure Server where
  name : String
  deriving DecidableEq, Repr, Hashable, Inhabited

namespace Server

/-- Splits at the last colon. -/
def splitLastColon (cs : List Char) : Option (List Char × List Char) :=
  let port := (cs.reverse.takeWhile (· ≠ ':')).reverse
  if port.length = cs.length then none
  else some (cs.take (cs.length - port.length - 1), port)

/-- A port: decimal digits, after one plus sign at most, that stand for a number below 65536. -/
def parsePort? (cs : List Char) : Option Nat :=
  let ds := match cs with
    | '+' :: rest => rest
    | rest => rest
  if !ds.isEmpty && ds.all Json.isDigit then
    let n := ds.foldl (fun n c => n * 10 + Json.digitValue c) 0
    if n < 65536 then some n else none
  else none

/-- The server on a host and port. -/
def new (host : String) (port : Nat) : Server := ⟨host ++ ":" ++ Nat.repr port⟩

/-- The server listening on an address. -/
def ofAddress (a : SocketAddress) : Server := ⟨a.text⟩

/-- The name up to its last colon, or all of it. -/
def host (s : Server) : String :=
  match splitLastColon s.name.toList with
  | some (host, _) => String.ofList host
  | none => s.name

/-- The port in the name, if there is one. -/
def port (s : Server) : Option Nat :=
  (splitLastColon s.name.toList).bind fun (_, port) => parsePort? port

/-- The server of a text that ends in a port and has a host before it. -/
def parse? (text : String) : Option Server :=
  match splitLastColon text.toList with
  | some (host, port) => if host.isEmpty ∨ (parsePort? port).isNone then none else some ⟨text⟩
  | none => none

/-- What is said of a text that is no server. -/
def parseMessage (text : String) : String :=
  "Invalid server address [" ++ text ++ "], expected host:port"

instance : Wire Server := ⟨fun s => .str s.name, Decoder.string.map Server.mk⟩

end Server

end ScatterSearch
