import ScatterSearch.Cluster.Error
import ScatterSearch.Merge.Accumulator

/-!
# Merging

A merge consumes the results of its calls in the order in which they end. It stops at the first of
these: its query is cancelled; a call failed; there are enough results; all calls have ended; or
nothing has come for too long. Time for that is counted from the start and anew from each part, and
a result that is there when the merge looks counts however late it is. A part that cannot be added
makes the merge panic.

`Merge.poll` is one look at what there is. A merge that goes on has consumed all of it.
-/

namespace ScatterSearch

/-- A merge that goes on. -/
structure Merge (α : Type) where
  limits : MergeLimits
  /-- the query, for messages -/
  query : String
  /-- how many calls have not been consumed -/
  pending : Nat
  aggregate : α
  /-- how many parts have been merged -/
  completed : Nat
  /-- when the time for the next part is over -/
  deadline : Nat

/-- How a merge stands after a look. -/
inductive MergeProgress (α : Type) where
  | waiting (m : Merge α)
  | ended (result : Except ClusterError (MergeOutcome α))
  /-- to add a part panicked -/
  | panicked

namespace Merge

variable {α π : Type}

/-- A merge of so many calls that starts now. -/
def start (acc : Accumulator α π) (limits : MergeLimits) (query : String) (calls now : Nat) :
    Merge α :=
  ⟨limits, query, calls, acc.empty, 0, now + limits.maxQueryTime⟩

/-- The merge after one more part. -/
def take (acc : Accumulator α π) (now : Nat) (m : Merge α) (part : π) : Merge α :=
  { m with
    pending := m.pending - 1
    aggregate := acc.add m.aggregate part
    completed := m.completed + 1
    deadline := now + m.limits.maxQueryTime }

/-- Whether there are enough results. -/
def isEnough (acc : Accumulator α π) (m : Merge α) : Bool :=
  decide (m.limits.minimum ≤ acc.total m.aggregate)

/-- The end of a merge that has enough; `ready` of its calls had ended unseen. -/
def stopEarly (m : Merge α) (ready : Nat) : MergeOutcome α :=
  ⟨m.aggregate, .earlyStop, m.completed, m.pending - ready⟩

/-- The end of a merge without further calls. -/
def exhaust (m : Merge α) : MergeOutcome α := ⟨m.aggregate, .exhausted, m.completed, 0⟩

/-- Nothing came in time. -/
def timeout (m : Merge α) : ClusterError := .queryTimeout m.limits.maxQueryTime m.query

/-- Looks at the results that are ready, in the order in which they came, and at the clock. -/
def consume (acc : Accumulator α π) (now : Nat) (m : Merge α) :
    List (Except ClusterError π) → MergeProgress α
  | [] =>
    if m.pending = 0 then .ended (.ok m.exhaust)
    else if m.deadline ≤ now then .ended (.error m.timeout)
    else .waiting m
  | .error e :: _ => .ended (.error e)
  | .ok part :: ready =>
    if acc.panics m.aggregate part then .panicked
    else
      let m := m.take acc now part
      if m.isEnough acc then .ended (.ok (m.stopEarly ready.length)) else consume acc now m ready

/-- One look of a merge: a cancelled query comes first. A merge without calls is over before it
looks. -/
def poll (acc : Accumulator α π) (now : Nat) (cancelled : Option CancelReason) (m : Merge α)
    (ready : List (Except ClusterError π)) : MergeProgress α :=
  match cancelled with
  | some reason =>
    if m.pending = 0 then .ended (.ok m.exhaust) else .ended (.error (.cancelled reason))
  | none => m.consume acc now ready

end Merge

end ScatterSearch
