import ScatterSearch.Client.Web
import ScatterSearch.Cluster.Error
import ScatterSearch.Command.Message

/-!
# Clients

A client sends commands to one server. It is checked with a ping before it is used for the first
time; a ping is the only request that is sent again when nobody is reached, after a pause that
doubles each time up to a limit. Any answer that is no success ends the pings.
-/

namespace ScatterSearch

/-- A handle to a server; each has a number of its own. -/
structure Client where
  number : Nat
  server : Server
  deriving DecidableEq, Repr

namespace Client

variable {τ : Type}

/-! ## Pings -/

/-- The pause after the first ping that reached nobody. -/
def firstPause : Nat := 150

/-- The longest pause between pings. -/
def longestPause : Nat := 1200

/-- How a ping ended, and how long the pauses were. -/
structure PingOutcome where
  result : Except ClusterError Unit
  pauses : Nat
  /-- how many requests were sent -/
  sent : Nat

/-- The request of a ping. -/
def pingRequest (server : Server) : WebRequest := ⟨"GET", server, pingPath, none⟩

/-- Sends pings until one is answered, as often as is allowed; `pause` follows the next one. -/
def pingFor (web : Web τ) (server : Server) : Nat → Nat → τ → PingOutcome × τ
  | 0, _, net => (⟨.error (.connection server.name "ping attempts exhausted"), 0, 0⟩, net)
  | attempts + 1, pause, net =>
    match web net (pingRequest server) with
    | (.answered status _, net) =>
      if Http.isSuccess status then (⟨.ok (), 0, 1⟩, net)
      else
        (⟨.error (.connection server.name ("ping returned " ++ Http.statusText status)), 0, 1⟩, net)
    | (.unreachable, net) =>
      if attempts = 0 then
        (⟨.error (.connection server.name (pingRequest server).unsentMessage), 0, 1⟩, net)
      else
        let (o, net) := pingFor web server attempts (min (2 * pause) longestPause) net
        ({ o with pauses := pause + o.pauses, sent := o.sent + 1 }, net)

/-- Asks a server for a sign of life. -/
def ping (web : Web τ) (server : Server) (attempts : Nat) (net : τ) : PingOutcome × τ :=
  pingFor web server attempts firstPause net

/-! ## Commands -/

/-- What an answer to a command says. -/
def readReply (request : WebRequest) : WebOutcome → Except CallError Response
  | .unreachable => .error (.failed ("transport error: " ++ request.unsentMessage))
  | .answered status body =>
    match (Wire.decode : Decoder CommandReply).parse body with
    | .ok reply => reply.toResult
    | .error _ => .error (.failed ("bad reply (HTTP " ++ Http.statusText status ++
        "): error decoding response body"))

/-- Sends a request, and says what its answer says. -/
def post (web : Web τ) (c : Client) (path : String) (body : Json) (net : τ) :
    Except CallError Response × τ :=
  let request : WebRequest := ⟨"POST", c.server, path, some body⟩
  let (outcome, net) := web net request
  (readReply request outcome, net)

/-- Asks the server to execute a command. -/
def execute (web : Web τ) (c : Client) (request : ExecuteRequest) (net : τ) :
    Except CallError Response × τ := c.post web executePath (encode request) net

/-- Comes back to an execution. -/
def reconnect (web : Web τ) (c : Client) (id : ExecutionId) (net : τ) :
    Except CallError Response × τ := c.post web reconnectPath (encode (⟨id⟩ : ReconnectRequest)) net

end Client

end ScatterSearch
