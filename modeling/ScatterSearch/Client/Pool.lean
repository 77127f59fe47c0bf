import ScatterSearch.Assoc
import ScatterSearch.Client.Client
import ScatterSearch.Node.Config

/-!
# Pools of clients

A pool keeps clients that are not in use, up to a limit for each server, and hands out the one that
came back last. Where it has none it makes one, and checks it with a ping. It counts the clients
that are out.
-/

namespace ScatterSearch

/-- Clients that are not in use, and how many are. -/
structure ClientPool where
  config : ClientConfig
  /-- of each server, the one that came back last first -/
  idle : Assoc Server (List Client)
  checkedOut : Nat
  /-- how many clients were made -/
  made : Nat

namespace ClientPool

variable {τ : Type}

/-- A pool without clients. -/
def new (config : ClientConfig) : ClientPool := ⟨config, [], 0, 0⟩

/-- The clients of a server that are not in use. -/
def idleOf (p : ClientPool) (server : Server) : List Client := (p.idle.get? server).getD []

/-- How many clients of a server are not in use. -/
def idleCount (p : ClientPool) (server : Server) : Nat := (p.idleOf server).length

/-- Makes a client. -/
def make (p : ClientPool) (server : Server) : Client × ClientPool :=
  (⟨p.made, server⟩, { p with made := p.made + 1 })

/-- Hands out a client of a server. -/
def get (web : Web τ) (p : ClientPool) (server : Server) (net : τ) :
    Except ClusterError Client × ClientPool × τ :=
  match p.idleOf server with
  | c :: rest =>
    (.ok c, { p with idle := p.idle.put server rest, checkedOut := p.checkedOut + 1 }, net)
  | [] =>
    let (ping, net) := Client.ping web server p.config.pingAttempts.toNat net
    match ping.result with
    | .error e => (.error e, p, net)
    | .ok () =>
      let (c, p) := p.make server
      (.ok c, { p with checkedOut := p.checkedOut + 1 }, net)

/-- Takes back a client, and keeps it for a server if there is room. -/
def giveBackTo (p : ClientPool) (server : Server) (c : Client) : ClientPool :=
  let kept := p.idleOf server
  let idle := if kept.length < p.config.maxIdlePerServer.toNat then c :: kept else kept
  { p with checkedOut := p.checkedOut - 1, idle := p.idle.put server idle }

/-- Takes back a client, and keeps it for its own server if there is room. -/
def giveBack (p : ClientPool) (c : Client) : ClientPool := p.giveBackTo c.server c

/-- Takes back a client that is not to be used again. -/
def discard (p : ClientPool) (_c : Client) : ClientPool := { p with checkedOut := p.checkedOut - 1 }

end ClientPool

end ScatterSearch
