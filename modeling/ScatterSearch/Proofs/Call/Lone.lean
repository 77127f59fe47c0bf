import ScatterSearch.Call.Outbound
import ScatterSearch.Proofs.Call.Holdings

/-!
# Calls that are alone

The only call of a node, which waits for an exchange or for none (`Outbound.lone`). What it does at
an instant depends on nothing but what has come for it: the network acts, the call hears what has
come or gives up, and no other call is taken up (`fire_lone`).
-/

namespace ScatterSearch

namespace Outbound

/-- A call that is alone. -/
def lone (workers : Nat) (c : Call) (network : Network) (waits : Assoc Nat Nat)
    (log : List (Nat × CallAction)) : Outbound :=
  ⟨⟨max workers 1, [c]⟩, network, waits, log⟩

variable {workers now n : Nat} {c c' : Call} {network : Network} {waits : Assoc Nat Nat}
  {log : List (Nat × CallAction)} {e : CallEvent}

theorem stopCalls_lone (h : c.stopping = false) :
    (lone workers c network waits log).stopCalls now = lone workers c network waits log := by
  change (if Option.any mustStop (some c) then _ else lone workers c network waits log) = _
  rw [Option.any_some, mustStop, h]
  rfl

/-- There is a free worker. -/
theorem next?_queued (h : c.isQueued = true) (hstop : c.stopping = false) :
    (lone workers c network waits log).workers.next? = some 0 := by
  have hfree : (lone workers c network waits log).workers.inFlight <
      (lone workers c network waits log).workers.capacity := by
    have hnone : (lone workers c network waits log).workers.inFlight = 0 := by
      simp [Workers.inFlight, lone, Call.holdsWorker_of_isQueued h]
    rw [hnone]
    exact Nat.lt_of_lt_of_le Nat.zero_lt_one (Nat.le_max_right workers 1)
  rw [Workers.next?, if_pos hfree]
  simp [lone, h, hstop]

/-- There is nothing for workers to take up. -/
theorem next?_lone (h : c.isQueued = false) :
    (lone workers c network waits log).workers.next? = none := by
  rw [Workers.next?]
  split
  · simp [lone, h]
  · rfl

theorem takeUp_lone (h : c.isQueued = false) (fuel : Nat) :
    (lone workers c network waits log).takeUp now fuel = lone workers c network waits log := by
  cases fuel with
  | zero => rfl
  | succ fuel => rw [takeUp, next?_lone h]

/-- What happens at an instant. -/
theorem fire_lone (h : c.stopping = false) :
    (lone workers c network waits log).fire now =
      ((lone workers c (network.fire now) waits log).hearOne now 0).takeUp now
        ((lone workers c (network.fire now) waits log).hearOne now 0).workers.calls.length := by
  rw [fire, stopCalls_lone h]
  rfl

/-- Something happens to the call, and it waits for its exchange no longer. -/
theorem apply_lone {actions : List CallAction} (h : c.step now e = (c', actions)) :
    (lone workers c network [(0, n)] log).apply now 0 e =
      actions.foldl (perform now 0 c) (lone workers c' (network.close n) [] log) := by
  have hstep : (lone workers c network [(0, n)] log).workers.step now 0 e =
      (⟨max workers 1, [c']⟩, actions) := by
    rw [Workers.step]
    simp only [lone, List.getElem?_cons_zero, h]
    rfl
  have hticket : (lone workers c network [(0, n)] log).ticket? 0 = some n := rfl
  rw [apply, show (lone workers c network [(0, n)] log).workers.calls[0]? = some c from rfl]
  simp only [hstep, stopWaiting, hticket]
  rfl

/-- What has come for the call. -/
theorem arrival?_lone : (lone workers c network [(0, n)] log).arrival? 0 =
    ((network.connected? n).map CallEvent.connected).or ((network.reply? n).map .replied) := rfl

theorem hearOne_some
    (harrival : (lone workers c network waits log).arrival? 0 = some e) :
    (lone workers c network waits log).hearOne now 0 =
      (lone workers c network waits log).apply now 0 e := by
  rw [hearOne, harrival]

/-- Nothing has come, and it is not time to give up. -/
theorem hearOne_nothing (harrival : (lone workers c network waits log).arrival? 0 = none)
    (hdeadline : ∀ d, c.deadline = some d → now < d) :
    (lone workers c network waits log).hearOne now 0 = lone workers c network waits log := by
  have hcall : ((lone workers c network waits log).workers.calls[0]?).bind Call.deadline =
      c.deadline := rfl
  rw [hearOne, harrival]
  simp only [hcall]
  cases hd : c.deadline with
  | none => rfl
  | some d =>
    rw [Option.any_some, decide_eq_false (Nat.not_le_of_lt (hdeadline d hd))]
    rfl

/-- Nothing has come, and it is time to give up. -/
theorem hearOne_outOfTime {d : Nat}
    (harrival : (lone workers c network waits log).arrival? 0 = none)
    (hdeadline : c.deadline = some d) (htime : d ≤ now) :
    (lone workers c network waits log).hearOne now 0 =
      (lone workers c network waits log).apply now 0 .outOfTime := by
  have hcall : ((lone workers c network waits log).workers.calls[0]?).bind Call.deadline = some d :=
    hdeadline
  rw [hearOne, harrival]
  simp only [hcall, Option.any_some, decide_eq_true htime, if_true]

/-- There is a free worker, now. -/
theorem due_queued (h : c.isQueued = true) (hstop : c.stopping = false) :
    (lone workers c network waits log).due = some 0 := by
  have hready : (lone workers c network waits log).isReady = true := by
    rw [isReady, next?_queued h hstop]
    rfl
  rw [due, if_pos hready]

/-- Nothing can happen right now, so what counts are the instants of the network and of the call. -/
theorem due_lone (hqueued : c.isQueued = false) (hstop : c.stopping = false)
    (harrival : (lone workers c network waits log).arrival? 0 = none) :
    (lone workers c network waits log).due =
      (c.deadline.toList ++ network.due.toList).min? := by
  have hready : (lone workers c network waits log).isReady = false := by
    have hany : (lone workers c network waits log).workers.calls.any mustStop = false := by
      change (mustStop c || false) = false
      rw [mustStop, hstop]
      rfl
    rw [isReady, hany, next?_lone hqueued]
    change List.any [0] (fun place =>
      ((lone workers c network waits log).arrival? place).isSome) = _
    rw [List.any_cons, harrival]
    rfl
  have hcalls : [c].filterMap (·.deadline) = c.deadline.toList := by
    cases hd : c.deadline with
    | none => exact List.filterMap_cons_none hd
    | some d => exact List.filterMap_cons_some hd
  rw [due, hready, ← hcalls]
  rfl

end Outbound

end ScatterSearch
