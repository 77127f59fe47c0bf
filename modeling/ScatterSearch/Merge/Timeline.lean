import ScatterSearch.Call.Call
import ScatterSearch.Merge.Merge

/-!
# Merging calls whose ends are known

Where it is known when each call ends and how, and when the query is cancelled, the whole course of
a merge follows. Time goes from one moment at which something happens to the next. A merge whose
time is over at a moment does not see what happens then.
-/

namespace ScatterSearch

/-- A call of which one knows when it ends, if ever, and how. -/
structure TimedCall (π : Type) where
  target : String
  ends : Option Nat
  result : Except ClusterError π

/-- What happens at one instant. -/
structure Moment (π : Type) where
  instant : Nat
  /-- the query is cancelled -/
  cancelled : Option CancelReason
  /-- the calls that end, by their places -/
  ended : List (Nat × Except ClusterError π)

/-- How a merge ended. -/
inductive MergeExit (α : Type) where
  | returned (result : Except ClusterError (MergeOutcome α))
  | panicked

/-- The course of a merge. -/
structure MergeCourse (α : Type) where
  result : MergeExit α
  /-- when the merge ended -/
  finish : Nat
  /-- the calls that ended before it did -/
  ended : List Nat

namespace Merge

variable {α π : Type}

/-- The calls that end at an instant. -/
def endingAt (calls : List (TimedCall π)) (instant : Nat) : List (Nat × Except ClusterError π) :=
  (calls.mapIdx fun place c => (place, c)).filterMap fun (place, c) =>
    if c.ends = some instant then some (place, c.result) else none

/-- The moments of the given calls and of a cancellation, in order of time. -/
def moments (calls : List (TimedCall π)) (cancel : Option (Nat × CancelReason)) : List (Moment π) :=
  let instants := calls.filterMap (·.ends) ++ (cancel.map (·.1)).toList
  (instants.eraseDups.mergeSort fun a b => decide (a ≤ b)).map fun t =>
    ⟨t, (cancel.filter (·.1 = t)).map (·.2), endingAt calls t⟩

/-- The course of a merge that goes on, given what happens. `seen` are the calls that have ended. -/
def follow (acc : Accumulator α π) (m : Merge α) (seen : List Nat) : List (Moment π) → MergeCourse α
  | [] => ⟨.returned (.error m.timeout), m.deadline, seen⟩
  | moment :: later =>
    if m.deadline ≤ moment.instant then ⟨.returned (.error m.timeout), m.deadline, seen⟩
    else
      let seen := seen ++ moment.ended.map (·.1)
      match m.poll acc moment.instant moment.cancelled (moment.ended.map (·.2)) with
      | .ended result => ⟨.returned result, moment.instant, seen⟩
      | .panicked => ⟨.panicked, moment.instant, seen⟩
      | .waiting m => m.follow acc seen later

/-- The course of a merge that starts at zero and looks at what is there already, and then at what
happens. -/
def run (acc : Accumulator α π) (limits : MergeLimits) (query : String) (calls : Nat)
    (already : Moment π) (later : List (Moment π)) : MergeCourse α :=
  let m := start acc limits query calls 0
  let seen := already.ended.map (·.1)
  match m.poll acc 0 already.cancelled (already.ended.map (·.2)) with
  | .ended result => ⟨.returned result, 0, seen⟩
  | .panicked => ⟨.panicked, 0, seen⟩
  | .waiting m => m.follow acc seen later

/-- The course of a merge of the given calls. The query may have been cancelled before, or is later.
With `settled`, calls that end at zero have ended before the merge looks for the first time. -/
def course (acc : Accumulator α π) (limits : MergeLimits) (query : String)
    (calls : List (TimedCall π)) (settled : Bool) (before : Option CancelReason)
    (cancel : Option (Nat × CancelReason)) : MergeCourse α :=
  let already := if settled then endingAt calls 0 else []
  let later := (moments calls cancel).filterMap fun m =>
    if settled && m.instant = 0 then m.cancelled.map fun _ => { m with ended := [] } else some m
  run acc limits query calls.length ⟨0, before, already⟩ later

end Merge

end ScatterSearch
