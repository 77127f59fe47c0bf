import ScatterSearch.Call.Remote
import ScatterSearch.Execution.Host

/-!
# Networks

How servers are reached: some are hosts of this network, behind a latency, and some are remotes.
Whoever wants something of a server gets the place of an exchange, and finds there, once its time
has come, the connection or the reply. A request that nobody waits for any more is closed; on its
way it is lost, but what a host has accepted goes on.
-/

namespace ScatterSearch

/-- How a server is reached. -/
inductive Route where
  /-- the host at a place, behind a latency -/
  | host (place latency : Nat)
  | remote (r : Remote)

/-- One attempt to connect, or one request. -/
inductive Exchange where
  | opening (due : Nat) (outcome : Except ClusterError Unit)
  | opened (outcome : Except ClusterError Unit)
  /-- a remote thinks about its reply -/
  | thinking (due : Nat) (server : Server) (reply : ExecuteRequest → Reply)
  | replied (reply : Reply)
  /-- on its way to a host -/
  | travelling (due place : Nat) (request : ExecuteRequest) (id : Option ExecutionId)
  /-- a host has it, as its request `ticket` -/
  | served (place ticket : Nat)
  | closed

namespace Exchange

/-- When something happens to the exchange by itself. -/
def due? : Exchange → Option Nat
  | .opening due _ => some due
  | .thinking due _ _ => some due
  | .travelling due _ _ _ => some due
  | _ => none

end Exchange

/-- The servers and how they are reached. -/
structure Network where
  hosts : List Host
  routes : Assoc Server Route
  /-- how a server without a route behaves -/
  elsewhere : Server → Remote
  contacts : Assoc Server Contact
  exchanges : List Exchange

namespace Network

/-- A network at rest. -/
def new (hosts : List Host) (routes : Assoc Server Route) (elsewhere : Server → Remote) : Network :=
  ⟨hosts, routes, elsewhere, [], []⟩

/-- The route to a server. -/
def route (n : Network) (server : Server) : Route :=
  (n.routes.get? server).getD (.remote (n.elsewhere server))

/-- What a remote was asked so far. -/
def contact (n : Network) (server : Server) : Contact := (n.contacts.get? server).getD .new

/-- Adds an exchange, and gives its place. -/
def push (n : Network) (x : Exchange) : Nat × Network :=
  (n.exchanges.length, { n with exchanges := n.exchanges ++ [x] })

/-- Starts to connect to a server. -/
def connect (n : Network) (now : Nat) (server : Server) : Nat × Network :=
  match n.route server with
  | .host _ _ => n.push (.opening now (.ok ()))
  | .remote r => n.push (.opening (now + r.connectDelay) r.connection)

/-- Sends a request: to execute, or with an id to come back. -/
def send (n : Network) (now : Nat) (server : Server) (request : ExecuteRequest)
    (id : Option ExecutionId) : Nat × Network :=
  match n.route server with
  | .host place latency => n.push (.travelling (now + latency) place request id)
  | .remote r =>
    let (answer, contact) := (n.contact server).ask r request id
    { n with contacts := n.contacts.put server contact }.push
      (.thinking (now + answer.delay) server answer.reply)

/-- Nobody waits for an exchange any more. -/
def close (n : Network) (ticket : Nat) : Network :=
  { n with exchanges := n.exchanges.set ticket .closed }

/-- How an attempt to connect ended, once it has. -/
def connected? (n : Network) (ticket : Nat) : Option (Except ClusterError Unit) :=
  match n.exchanges[ticket]? with
  | some (.opened outcome) => some outcome
  | _ => none

/-- The reply to a request, once there is one. -/
def reply? (n : Network) (ticket : Nat) : Option Reply :=
  match n.exchanges[ticket]? with
  | some (.replied reply) => some reply
  | some (.served place t) =>
    ((n.hosts[place]?).bind (·.manager.reply? t)).map fun r => .answers r.toResult
  | _ => none

/-- Hands a request to the host at a place. -/
def deliver (now ticket place : Nat) (request : ExecuteRequest) (id : Option ExecutionId)
    (n : Network) : Network :=
  match n.hosts[place]? with
  | some h =>
    let (t, manager) := match id with
      | none => h.manager.execute now request
      | some id => h.manager.reconnect now id
    { n with
      hosts := n.hosts.set place { h with manager }
      exchanges := n.exchanges.set ticket (.served place t) }
  | none => n.close ticket

/-- Lets happen to an exchange what is due. -/
def fireExchange (now : Nat) (n : Network) (ticket : Nat) : Network :=
  match n.exchanges[ticket]? with
  | some (.opening due outcome) =>
    if due ≤ now then { n with exchanges := n.exchanges.set ticket (.opened outcome) } else n
  | some (.thinking due server reply) =>
    if due ≤ now then
      { n with exchanges := n.exchanges.set ticket (.replied (reply (n.contact server).last)) }
    else n
  | some (.travelling due place request id) =>
    if due ≤ now then n.deliver now ticket place request id else n
  | _ => n

/-- The next instant at which something happens. -/
def due (n : Network) : Option Nat :=
  (n.exchanges.filterMap (·.due?) ++ n.hosts.filterMap (·.due)).min?

/-- Acts at an instant. -/
def fire (now : Nat) (n : Network) : Network :=
  let n := (List.range n.exchanges.length).foldl (fireExchange now) n
  { n with hosts := n.hosts.map (Host.fire now) }

/-- The network as a machine. -/
def machine : Machine Network := ⟨due, fire⟩

end Network

end ScatterSearch
