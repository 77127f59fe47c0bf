import ScatterSearch.Call.Lease
import ScatterSearch.Call.Reconnect
import ScatterSearch.Text.Quoted

/-!
# Calls

One call runs one command on one server. It waits for a worker, has a connection opened, and then
converses with the server. However it ends, it lets go of what it holds then: a call that returns
releases its lease, so that the connection is used again if there is a response; one that panics or
is aborted leaves the scopes of its lease and its worker, and that is all (`Call.hangUp`).

A call does nothing by itself: `Call.step` says what it does when something happens to it.
-/

namespace ScatterSearch

/-- How a call ended. -/
inductive CallEnd where
  | returned (result : Except ClusterError Response)
  | panicked (message : String)
  | aborted

/-- Where a call stands. -/
inductive Stage where
  /-- it waits for a worker -/
  | queued
  /-- it waits for a connection -/
  | connecting
  /-- it waits for the answer to its first request -/
  | executing (started : Nat)
  /-- it came back with an id and waits for the answer -/
  | reconnecting (started : Nat) (id : ExecutionId)
  | ended (how : CallEnd)

/-- What can happen to a call. -/
inductive CallEvent where
  /-- a worker takes it up -/
  | admitted
  /-- there is a connection, or there cannot be one -/
  | connected (outcome : Except ClusterError Unit)
  /-- whoever was asked for a connection broke down -/
  | brokeDown (message : String)
  | replied (reply : Reply)
  /-- its budget is used up -/
  | outOfTime
  /-- it was told to stop -/
  | stopped

/-- What a call does. -/
inductive CallAction where
  /-- asks for a connection -/
  | connect
  | execute
  | reconnect (id : ExecutionId)
  /-- gives the connection back for others to use -/
  | giveBack
  /-- throws the connection away -/
  | discard
  deriving DecidableEq, Repr

/-- How a call lets go of what it holds, when it ends. -/
def CallEnd.letGo : CallEnd → Holding → List Dealing
  | .returned result => Holding.settle result.isOk
  | .panicked _ | .aborted => Holding.drop

/-- What a dealing asks of the pool of connections. -/
def CallAction.ofDealing? : Dealing → Option CallAction
  | .giveBack _ => some .giveBack
  | .discard _ => some .discard
  | .take | .get _ | .leave => none

/-- A call of a command on a server. -/
structure Call where
  terms : CallTerms
  request : ExecuteRequest
  stage : Stage
  /-- it was told to stop, and will at its next turn -/
  stopping : Bool

namespace Call

/-- A call that was just submitted. -/
def new (terms : CallTerms) (request : ExecuteRequest) : Call := ⟨terms, request, .queued, false⟩

/-- How the call ended, if it did. -/
def end? (c : Call) : Option CallEnd :=
  match c.stage with
  | .ended how => some how
  | _ => none

/-- Whether the call has ended. -/
def isFinished (c : Call) : Bool := c.end?.isSome

/-- Whether the call is queued. -/
def isQueued (c : Call) : Bool :=
  match c.stage with
  | .queued => true
  | _ => false

/-- What the call holds, the latest first. -/
def held (c : Call) : List Holding :=
  match c.stage with
  | .queued | .ended _ => []
  | .connecting => [.worker]
  | .executing _ | .reconnecting _ _ => [.connection (.acquire c.terms.server), .worker]

/-- Whether the call has a worker. -/
def holdsWorker (c : Call) : Bool := c.held.contains .worker

/-- Whether the call has a connection. -/
def holdsConnection (c : Call) : Bool := c.held.any Holding.isConnection

/-- Tells the call to stop; one that has ended does not notice. -/
def requestStop (c : Call) : Call := if c.isFinished then c else { c with stopping := true }

/-- The call after it ended. -/
def finish (c : Call) (how : CallEnd) : Call := { c with stage := .ended how }

/-- How the call lets go of all that it holds, when it ends. -/
def windUp (c : Call) (how : CallEnd) : List Dealing := c.held.flatMap how.letGo

/-- Ends the call. -/
def hangUp (c : Call) (how : CallEnd) : Call × List CallAction :=
  (c.finish how, (c.windUp how).filterMap CallAction.ofDealing?)

/-- What the call does about a reply; `started` is when it sent its first request. -/
def hear (c : Call) (now started : Nat) : Reply → Call × List CallAction
  | .panics message => c.hangUp (.panicked message)
  | .answers answer =>
    match c.terms.judge (now - started) answer with
    | .settled result => c.hangUp (.returned result)
    | .comeBack id => ({ c with stage := .reconnecting started id }, [.reconnect id])

/-- When the call gives up. -/
def deadline (c : Call) : Option Nat :=
  match c.stage with
  | .reconnecting started _ => c.terms.budget.map (started + ·)
  | _ => none

/-- What the call does when something happens to it. What cannot happen at its stage it does not
notice. -/
def step (now : Nat) (c : Call) : CallEvent → Call × List CallAction
  | .admitted =>
    match c.stage with
    | .queued => ({ c with stage := .connecting }, [.connect])
    | _ => (c, [])
  | .connected outcome =>
    match c.stage, outcome with
    | .connecting, .ok () => ({ c with stage := .executing now }, [.execute])
    | .connecting, .error e => c.hangUp (.returned (.error e))
    | _, _ => (c, [])
  | .brokeDown message =>
    match c.stage with
    | .connecting => c.hangUp (.panicked message)
    | _ => (c, [])
  | .replied reply =>
    match c.stage with
    | .executing started => c.hear now started reply
    | .reconnecting started _ => c.hear now started reply
    | _ => (c, [])
  | .outOfTime =>
    match c.stage, c.terms.budget with
    | .reconnecting _ id, some b => c.hangUp (.returned (.error (c.terms.gaveUp b id)))
    | _, _ => (c, [])
  | .stopped =>
    match c.stage with
    | .ended _ => (c, [])
    | _ => c.hangUp .aborted

end Call

/-- What an end means for those who wait for the call; `task` is the call's place. -/
def CallEnd.toResult (server : Server) (task : Nat) : CallEnd → Except ClusterError Response
  | .returned result => result
  | .panicked message => .error (.remoteCall server.name ("call panicked: task " ++ Nat.repr task ++
      " panicked with message " ++ Text.quoted message))
  | .aborted => .error (.cancelled .abandoned)

end ScatterSearch
