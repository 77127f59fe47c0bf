import ScatterSearch.Execution.Builtin
import ScatterSearch.Ids
import ScatterSearch.Node.Config
import ScatterSearch.Text.Quoted
import ScatterSearch.Time.Periodic

/-!
# Executions

A node runs each command it accepts as an execution of its own. The request that started it waits
for its end, but only for so long; then it is told the execution's id, and a later request with that
id waits for the same execution. So the work is started once, however long it takes.

An execution is in the table until somebody was told its outcome, or until nobody came for it for
too long and it was evicted. `ExecutionManager.fire` starts what was accepted, ends what has run its
time, and answers those who wait: with the outcome where there is one, else, at their deadline, with
the id.

Executions and requests are known by their places; a place is never used again.
-/

namespace ScatterSearch

/-- Where an execution stands. -/
inductive Phase where
  /-- accepted; its handler has not started -/
  | accepted
  | running (ends : Nat) (outcome : Outcome)
  | ended (result : Except String Response)

/-- One execution of a command. -/
structure Execution where
  id : ExecutionId
  request : ExecuteRequest
  started : Nat
  phase : Phase
  /-- how often its handler was started -/
  starts : Nat
  /-- whether it is in the table -/
  listed : Bool

namespace Execution

/-- The outcome, once there is one. -/
def result? (e : Execution) : Option (Except String Response) :=
  match e.phase with
  | .ended r => some r
  | _ => none

/-- Whether the handler has ended. -/
def isFinished (e : Execution) : Bool := e.result?.isSome

/-- The next instant at which an execution acts; one that was accepted acts at once. -/
def due (e : Execution) : Option Nat :=
  match e.phase with
  | .accepted => some 0
  | .running ends _ => some ends
  | .ended _ => none

/-- What is said of an execution that did not come to an end of its own. -/
def abortMessage (task : Nat) (what : String) : String :=
  "execution aborted: task " ++ Nat.repr task ++ " " ++ what

/-- The result that an outcome stands for; `task` is the execution's place. -/
def resultOf (task : Nat) : Outcome → Except String Response
  | .answers r => .ok r
  | .fails m => .error m
  | .panics m => .error (abortMessage task ("panicked with message " ++ Text.quoted m))

/-- Starts the handler of an accepted execution; `runs` says how handlers run. -/
def begin (runs : ExecuteRequest → HandlerRun) (now : Nat) (e : Execution) : Execution :=
  match e.phase with
  | .accepted =>
    let r := runs e.request
    { e with phase := .running (now + r.duration) r.outcome, starts := e.starts + 1 }
  | _ => e

/-- Ends an execution that has run its time; `task` is its place. -/
def finish (now task : Nat) (e : Execution) : Execution :=
  match e.phase with
  | .running ends outcome =>
    if ends ≤ now then { e with phase := .ended (resultOf task outcome) } else e
  | _ => e

end Execution

/-- A request for an execution's outcome. -/
structure Pending where
  /-- the execution's place; none if the request was refused, or if nobody waits any more -/
  execution : Option Nat
  deadline : Nat
  reply : Option CommandReply

/-- What the manager's handlers see of the rest of the node. -/
structure NodeView where
  served : List Shard
  index : ShardIndex
  uptime : Nat

/-- The executions of a node. -/
structure ExecutionManager where
  server : Server
  config : ExecutionConfig
  handlers : Handlers
  ids : IdSupply
  executions : List Execution
  requests : List Pending
  evictor : Option Ticker

namespace ExecutionManager

/-- A node without executions. -/
def new (server : Server) (config : ExecutionConfig) (handlers : Handlers) (ids : IdSupply) :
    ExecutionManager := ⟨server, config, handlers, ids, [], [], none⟩

/-- How many executions are in the table. -/
def inFlight (m : ExecutionManager) : Nat := (m.executions.filter (·.listed)).length

/-- A sign of life. -/
def ping (m : ExecutionManager) : PingReply := ⟨m.server.name, UInt64.ofNat m.inFlight⟩

/-- How long a request waits. -/
def wait (m : ExecutionManager) : Nat := m.config.wait.toNat

/-- How long a result is kept. -/
def retention (m : ExecutionManager) : Nat := m.config.retention.toNat

/-! ## What happens by itself -/

/-- How the handler of a request runs if it starts now. -/
def run (m : ExecutionManager) (view : NodeView) (request : ExecuteRequest) : HandlerRun :=
  m.handlers.run ⟨request, m.server, view.served, view.index, some m.inFlight, view.uptime⟩

/-- Starts the handlers of accepted executions. -/
def startAccepted (view : NodeView) (now : Nat) (m : ExecutionManager) : ExecutionManager :=
  { m with executions := m.executions.map (Execution.begin (m.run view) now) }

/-- Ends the executions that have run their time. -/
def endRunning (now : Nat) (m : ExecutionManager) : ExecutionManager :=
  { m with executions := m.executions.mapIdx (Execution.finish now) }

/-- The execution that a request waits for. -/
def awaited? (m : ExecutionManager) (p : Pending) : Option Execution :=
  p.execution.bind (m.executions[·]?)

/-- The reply to a request now, if it is time for one: the outcome if there is one, else the id once
the deadline has come. -/
def replyTo (m : ExecutionManager) (now : Nat) (p : Pending) : Option CommandReply :=
  match m.awaited? p with
  | none => none
  | some e =>
    match e.result? with
    | some (.ok r) => some (.complete r)
    | some (.error message) => some (.failed message)
    | none => if p.deadline ≤ now then some (.running e.id) else none

/-- Whether a reply gives an outcome. -/
def settles : CommandReply → Bool
  | .running _ => false
  | _ => true

/-- Takes an execution out of the table. -/
def unlist (m : ExecutionManager) (place : Nat) : ExecutionManager :=
  { m with executions := m.executions.modify place fun e => { e with listed := false } }

/-- Answers the request at a place, if it has no reply and it is time for one. An execution whose
outcome was told leaves the table. -/
def answerOne (now : Nat) (m : ExecutionManager) (ticket : Nat) : ExecutionManager :=
  match m.requests[ticket]? with
  | some ⟨some place, deadline, none⟩ =>
    match m.replyTo now ⟨place, deadline, none⟩ with
    | some reply =>
      let m := { m with requests := m.requests.set ticket ⟨place, deadline, some reply⟩ }
      if settles reply then m.unlist place else m
    | none => m
  | _ => m

/-- Answers all requests that it is time for. -/
def answer (now : Nat) (m : ExecutionManager) : ExecutionManager :=
  (List.range m.requests.length).foldl (answerOne now) m

/-- Whether an execution has ended and its result was kept long enough, counted from its start. -/
def isStale (retention now : Nat) (e : Execution) : Bool :=
  e.listed && e.isFinished && decide (retention ≤ now - e.started)

/-- Takes stale executions out of the table and says how many there were. -/
def evict (m : ExecutionManager) (now : Nat) : Nat × ExecutionManager :=
  let stale := isStale m.retention now
  ((m.executions.filter stale).length,
    { m with executions :=
        m.executions.map fun e => if stale e then { e with listed := false } else e })

/-- Evicts, if it is time to. -/
def fireEvictor (now : Nat) (m : ExecutionManager) : ExecutionManager :=
  match m.evictor with
  | some t => if t.due ≤ now then { (m.evict now).2 with evictor := some (t.take now) } else m
  | none => m

/-- The next instant at which a request is answered; one whose execution has ended is answered at
once. -/
def requestDue (m : ExecutionManager) (p : Pending) : Option Nat :=
  if p.reply.isSome then none
  else p.execution.map fun _ =>
    if ((m.awaited? p).bind (·.result?)).isSome then 0 else p.deadline

/-- The next instant at which something happens. -/
def due (m : ExecutionManager) : Option Nat :=
  ((m.executions.filterMap (·.due) ++ m.requests.filterMap m.requestDue) ++
    (m.evictor.map (·.due)).toList).min?

/-- Acts at an instant. Deadlines come before the executions that end at the same instant. -/
def fire (view : NodeView) (now : Nat) (m : ExecutionManager) : ExecutionManager :=
  ((((m.startAccepted view now).answer now).endRunning now).answer now).fireEvictor now

/-- The executions as a machine, on a node that looks as `view` says at each instant. -/
def machine (view : Nat → NodeView) : Machine ExecutionManager :=
  ⟨due, fun now m => m.fire (view now) now⟩

/-! ## Requests -/

/-- Adds a request for the outcome of an execution, and looks whether it can be answered at once. -/
def await (m : ExecutionManager) (now place : Nat) : Nat × ExecutionManager :=
  let ticket := m.requests.length
  (ticket, answerOne now { m with requests := m.requests ++ [⟨place, now + m.wait, none⟩] } ticket)

/-- Adds a request that is answered already. -/
def answered (m : ExecutionManager) (reply : CommandReply) : Nat × ExecutionManager :=
  (m.requests.length, { m with requests := m.requests ++ [⟨none, 0, some reply⟩] })

/-- Accepts a command, and gives the place of the request that waits for it. -/
def execute (m : ExecutionManager) (now : Nat) (request : ExecuteRequest) :
    Nat × ExecutionManager :=
  if m.handlers.has request.command then
    let (id, ids) := m.ids.draw
    let e : Execution := ⟨⟨id⟩, request, now, .accepted, 0, true⟩
    await { m with ids, executions := m.executions ++ [e] } now m.executions.length
  else m.answered (.failed (Handlers.unknownMessage request.command))

/-- The place of the execution in the table that has an id. -/
def find? (m : ExecutionManager) (id : ExecutionId) : Option Nat :=
  m.executions.findIdx? fun e => e.listed && decide (e.id = id)

/-- Comes back to an execution, and gives the place of the request that waits for it. -/
def reconnect (m : ExecutionManager) (now : Nat) (id : ExecutionId) : Nat × ExecutionManager :=
  match m.find? id with
  | some place => m.await now place
  | none => m.answered (.failed ("Unknown execution: " ++ id.text))

/-- Gives up a request: one that has no reply yet never gets one. The execution goes on. -/
def abandon (m : ExecutionManager) (ticket : Nat) : ExecutionManager :=
  { m with requests := m.requests.modify ticket fun p =>
      if p.reply.isSome then p else { p with execution := none } }

/-- The reply to a request, if there is one. -/
def reply? (m : ExecutionManager) (ticket : Nat) : Option CommandReply :=
  (m.requests[ticket]?).bind (·.reply)

/-! ## Start and end -/

/-- Starts to evict, once in the time that results are kept. -/
def start (m : ExecutionManager) (now : Nat) : ExecutionManager :=
  { m with evictor := some (.start now m.retention) }

/-- Stops to evict, and ends all executions. -/
def shutdown (m : ExecutionManager) : ExecutionManager :=
  { m with
    evictor := none
    executions := m.executions.mapIdx fun place e =>
      if e.isFinished then e
      else { e with phase := .ended (.error (Execution.abortMessage place "was cancelled")) } }

end ExecutionManager

end ScatterSearch
