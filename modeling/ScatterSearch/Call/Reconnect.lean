import ScatterSearch.Cluster.Error
import ScatterSearch.Cluster.Server
import ScatterSearch.Command.Message

/-!
# Coming back to an execution

A call asks its server once to execute, and then, as long as the server says that the work goes on,
comes back with the id it was last told. A budget limits the time for that, counted from the first
request: a call is not told "still running" at or after the end of its budget without giving up, and
a reconnect that has no answer by then is given up too. An answer at that very instant counts.

* `CallTerms.judge` says what one answer means;
* `CallTerms.converse` is a whole conversation with a server whose answers are given.
-/

namespace ScatterSearch

/-- How a request ends. -/
inductive Reply where
  | answers (answer : Except CallError Response)
  /-- the client broke down -/
  | panics (message : String)

/-- What an answer means for a call. -/
inductive Verdict where
  | settled (result : Except ClusterError Response)
  /-- the work goes on -/
  | comeBack (id : ExecutionId)

/-- Whom a call talks to, and for how long. -/
structure CallTerms where
  server : Server
  /-- how long the call keeps coming back; `none` is for ever -/
  budget : Option Nat
  deriving DecidableEq, Repr

namespace CallTerms

/-- Coming back took too long. -/
def gaveUp (t : CallTerms) (budget : Nat) (id : ExecutionId) : ClusterError :=
  .reconnectTimeout t.server.name id.text budget

/-- What an answer means that comes `elapsed` milliseconds after the first request. -/
def judge (t : CallTerms) (elapsed : Nat) : Except CallError Response → Verdict
  | .ok response => .settled (.ok response)
  | .error (.failed message) => .settled (.error (.remoteCall t.server.name message))
  | .error (.stillRunning id) =>
    match t.budget with
    | none => .comeBack id
    | some b => if b ≤ elapsed then .settled (.error (t.gaveUp b id)) else .comeBack id

end CallTerms

/-- An answer, and how long it takes to come. -/
structure Answer where
  delay : Nat
  answer : Except CallError Response

/-- A conversation that is over. -/
structure Conversation where
  /-- how long it took -/
  duration : Nat
  result : Except ClusterError Response
  /-- the ids the call came back with, in order -/
  reconnects : List ExecutionId

namespace CallTerms

/-- Goes on with a conversation: comes back with `id` and is given the `k`-th of the later answers.
No more than `fuel` answers are looked at. -/
def comeBack (t : CallTerms) (later : Nat → Answer) :
    Nat → Nat → Nat → ExecutionId → Option Conversation
  | 0, _, _, _ => none
  | fuel + 1, k, elapsed, id =>
    let arrival := elapsed + (later k).delay
    match t.budget.filter (· < arrival) with
    | some b => some ⟨b, .error (t.gaveUp b id), [id]⟩
    | none =>
      match t.judge arrival (later k).answer with
      | .settled result => some ⟨arrival, result, [id]⟩
      | .comeBack next =>
        (t.comeBack later fuel (k + 1) arrival next).map fun c =>
          { c with reconnects := id :: c.reconnects }

/-- A conversation with a server whose answers are given: the first one to the request to execute,
the later ones to reconnects. -/
def converse (t : CallTerms) (first : Answer) (later : Nat → Answer) (fuel : Nat) :
    Option Conversation :=
  match t.judge first.delay first.answer with
  | .settled result => some ⟨first.delay, result, []⟩
  | .comeBack id => t.comeBack later fuel 0 first.delay id

end CallTerms

end ScatterSearch
