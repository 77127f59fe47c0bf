import ScatterSearch.Call.Network
import ScatterSearch.Call.Workers

/-!
# Calls over a network

The calls of a node, each of which waits for one exchange of the network at a time. At every instant
calls that were told to stop do so first; then the network acts, the calls hear what has come for
them, those whose time is up give up, and free workers take up the next calls.
-/

namespace ScatterSearch

/-- Calls and the network they go over. -/
structure Outbound where
  workers : Workers
  network : Network
  /-- the exchange that each call waits for -/
  waits : Assoc Nat Nat
  /-- what the calls did, the latest first -/
  log : List (Nat × CallAction)

namespace Outbound

/-- No calls. -/
def new (workers : Nat) (network : Network) : Outbound := ⟨.new workers, network, [], []⟩

/-- The exchange that a call waits for. -/
def ticket? (o : Outbound) (place : Nat) : Option Nat := o.waits.get? place

/-- The call no longer waits for anything. -/
def stopWaiting (o : Outbound) (place : Nat) : Outbound :=
  match o.ticket? place with
  | some t => { o with waits := o.waits.erase place, network := o.network.close t }
  | none => o

/-- The call waits for a new exchange. -/
def waitFor (o : Outbound) (place : Nat) (exchange : Nat × Network) : Outbound :=
  { o with waits := o.waits.put place exchange.1, network := exchange.2 }

/-- Does what a call wants done. -/
def perform (now place : Nat) (c : Call) (o : Outbound) (action : CallAction) : Outbound :=
  let o := { o with log := (place, action) :: o.log }
  match action with
  | .connect => o.waitFor place (o.network.connect now c.terms.server)
  | .execute => o.waitFor place (o.network.send now c.terms.server c.request none)
  | .reconnect id => o.waitFor place (o.network.send now c.terms.server c.request (some id))
  | .giveBack | .discard => o

/-- Lets something happen to the call at a place. -/
def apply (now place : Nat) (e : CallEvent) (o : Outbound) : Outbound :=
  match o.workers.calls[place]? with
  | some c =>
    let (workers, actions) := o.workers.step now place e
    actions.foldl (perform now place c) { o.stopWaiting place with workers }
  | none => o

/-- What has come for a call. -/
def arrival? (o : Outbound) (place : Nat) : Option CallEvent := do
  let t ← o.ticket? place
  ((o.network.connected? t).map .connected).or ((o.network.reply? t).map .replied)

/-- Whether a call was told to stop and has not. -/
def mustStop (c : Call) : Bool := c.stopping && !c.isFinished

/-- Stops the calls that were told to. -/
def stopCalls (now : Nat) (o : Outbound) : Outbound :=
  (List.range o.workers.calls.length).foldl (fun o place =>
    if (o.workers.calls[place]?).any mustStop then o.apply now place .stopped else o) o

/-- Lets a call hear what has come for it, or give up. -/
def hearOne (now : Nat) (o : Outbound) (place : Nat) : Outbound :=
  match o.arrival? place with
  | some e => o.apply now place e
  | none =>
    if ((o.workers.calls[place]?).bind (·.deadline)).any (· ≤ now) then o.apply now place .outOfTime
    else o

/-- Lets all calls hear what has come for them. -/
def hear (now : Nat) (o : Outbound) : Outbound :=
  (List.range o.workers.calls.length).foldl (hearOne now) o

/-- Lets free workers take up calls, no more than `fuel` of them. -/
def takeUp (now : Nat) : Nat → Outbound → Outbound
  | 0, o => o
  | fuel + 1, o =>
    match o.workers.next? with
    | some place => takeUp now fuel (o.apply now place .admitted)
    | none => o

/-- Whether something can happen right now. -/
def isReady (o : Outbound) : Bool :=
  o.workers.next?.isSome || o.workers.calls.any mustStop ||
    (List.range o.workers.calls.length).any fun place => (o.arrival? place).isSome

/-- The next instant at which something happens. -/
def due (o : Outbound) : Option Nat :=
  if o.isReady then some 0
  else (o.workers.calls.filterMap (·.deadline) ++ o.network.due.toList).min?

/-- Acts at an instant. -/
def fire (now : Nat) (o : Outbound) : Outbound :=
  let o := o.stopCalls now
  let o := { o with network := o.network.fire now }
  let o := o.hear now
  o.takeUp now o.workers.calls.length

/-- The calls as a machine. -/
def machine : Machine Outbound := ⟨due, fire⟩

/-- Submits a call, and gives its place. -/
def submit (o : Outbound) (c : Call) : Nat × Outbound :=
  (o.workers.calls.length, { o with workers := o.workers.submit c })

/-- Tells a call to stop. -/
def requestStop (o : Outbound) (place : Nat) : Outbound :=
  { o with workers := o.workers.requestStop place }

end Outbound

end ScatterSearch
