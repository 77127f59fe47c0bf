import ScatterSearch.Call.Outbound
import ScatterSearch.Proofs.Lists

/-!
# An instant, turn by turn

What happens to calls at an instant happens in turns: those that were told to stop do, the network
acts, each call hears what has come for it or gives up, and free workers take up calls. Each kind of
turn is an event or nothing at all, so what the events keep is kept at the instant
(`Outbound.keeps_fire`).
-/

namespace ScatterSearch

namespace Outbound

variable {P : Outbound → Prop} {o : Outbound} {now place : Nat}

/-- The turn of a call at which it ends if it was told to. -/
def stopTurn (now : Nat) (o : Outbound) (place : Nat) : Outbound :=
  if (o.workers.calls[place]?).any mustStop then o.apply now place .stopped else o

theorem stopCalls_eq :
    o.stopCalls now = (List.range o.workers.calls.length).foldl (stopTurn now) o := rfl

/-- What follows at an instant once calls have stopped. -/
def afterStops (now : Nat) (o : Outbound) : Outbound :=
  takeUp now ({ o with network := o.network.fire now }.hear now).workers.calls.length
    ({ o with network := o.network.fire now }.hear now)

theorem fire_eq : o.fire now = (o.stopCalls now).afterStops now := rfl

/-! ## One turn -/

theorem keeps_stopTurn
    (stopped : (o.workers.calls[place]?).any mustStop = true → P (o.apply now place .stopped))
    (h : P o) : P (o.stopTurn now place) := by
  rw [stopTurn]
  split
  · rename_i hmust
    exact stopped hmust
  · exact h

theorem keeps_hearOne
    (hears : ∀ e, o.arrival? place = some e → P (o.apply now place e))
    (outOfTime : P (o.apply now place .outOfTime)) (h : P o) : P (o.hearOne now place) := by
  rw [hearOne]
  split
  · rename_i e he
    exact hears e he
  · split
    · exact outOfTime
    · exact h

theorem keeps_takeUp
    (admitted : ∀ o place, o.workers.next? = some place → P o → P (o.apply now place .admitted))
    (fuel : Nat) (h : P o) : P (takeUp now fuel o) := by
  induction fuel generalizing o with
  | zero => exact h
  | succ fuel ih =>
    rw [takeUp]
    split
    · rename_i place hnext
      exact ih (admitted o place hnext h)
    · exact h

/-! ## All turns -/

theorem keeps_stopCalls (turn : ∀ o place, P o → P (o.stopTurn now place)) (h : P o) :
    P (o.stopCalls now) := by
  rw [stopCalls_eq]
  exact List.foldlRecOn _ _ h fun o ho place _ => turn o place ho

theorem keeps_hear (turn : ∀ o place, P o → P (o.hearOne now place)) (h : P o) :
    P (o.hear now) :=
  List.foldlRecOn _ _ h fun o ho place _ => turn o place ho

section

variable (event : ∀ (o : Outbound) place e, P o → P (o.apply now place e))
  (network : ∀ o : Outbound, P o → P { o with network := o.network.fire now })

include event network

theorem keeps_afterStops (h : P o) : P (o.afterStops now) := by
  refine keeps_takeUp (fun o place _ ho => event o place _ ho) _ ?_
  refine keeps_hear (fun o place ho => ?_) (network o h)
  exact keeps_hearOne (fun e _ => event o place e ho) (event o place _ ho) ho

theorem keeps_fire (h : P o) : P (o.fire now) := by
  rw [fire_eq]
  refine keeps_afterStops event network ?_
  exact keeps_stopCalls (fun o place ho => keeps_stopTurn (fun _ => event o place _ ho) ho) h

end

end Outbound

end ScatterSearch
