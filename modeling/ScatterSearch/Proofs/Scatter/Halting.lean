import ScatterSearch.Proofs.Scatter.Leases

/-!
# Calls that were told to stop

A call that is told to stop before its end goes no further. It stands where it stood until its next
turn, which is due at once, and at that turn it is aborted; all that it still does is to throw away
its connection, if it has one (`Outbound.Halts`). This is so whatever is started, cancelled or
changed meanwhile: a stop comes before everything else that happens at an instant.
-/

namespace ScatterSearch

namespace Call

variable {c : Call} {now : Nat}

/-- What a call does that is stopped. -/
def farewell (c : Call) : List CallAction := if c.holdsConnection then [.discard] else []

/-- A call that is stopped is aborted, and says farewell. -/
theorem step_stopped_eq (h : c.isFinished = false) :
    c.step now .stopped = (c.finish .aborted, c.farewell) := by
  rcases c with ⟨terms, request, stage, stopping⟩
  cases stage with
  | ended how => cases h
  | _ => rfl

/-- A call that has ended does not notice that it is told to stop. -/
theorem requestStop_of_finished (h : c.isFinished = true) : c.requestStop = c := if_pos h

theorem requestStop_of_unfinished (h : c.isFinished = false) :
    c.requestStop = { c with stopping := true } := by
  rw [requestStop, h]
  rfl

theorem isFinished_requestStop : c.requestStop.isFinished = c.isFinished := by
  rw [requestStop]
  split <;> rfl

/-- What a call does that is stopped was so before it was told. -/
theorem farewell_requestStop : c.requestStop.farewell = c.farewell := by
  rw [requestStop]
  split <;> rfl

/-- A call that has not ended had not ended before. -/
theorem GoesOn.unfinished {c' : Call} (h : c.GoesOn c') (hgoes : c'.isFinished = false) :
    c.isFinished = false := by
  cases hend : c.end? with
  | none => rw [isFinished, hend]; rfl
  | some how => cases hgoes.symm.trans (isFinished_iff.2 ⟨how, h.ended how hend⟩)

/-- A call that was told to stop does so at its next turn. -/
theorem mustStop_requestStop (h : c.isFinished = false) :
    Outbound.mustStop c.requestStop = true := by
  rw [Outbound.mustStop, isFinished_requestStop, h, requestStop_of_unfinished h]
  rfl

end Call

namespace Outbound

variable {o o' : Outbound} {now place other : Nat} {c : Call} {did : List CallAction}
  {stops : Nat → Prop} {e : CallEvent}

/-! ## Where a call stands -/

/-- What the call at a place has become, and all that it did. -/
structure Stands (place : Nat) (c : Call) (did : List CallAction) (o : Outbound) : Prop where
  call : o.workers.calls[place]? = some c
  actions : o.actions place = did

/-- Where a call stands is a matter of the calls and the log. -/
theorem Stands.congr (h : o.Stands place c did) (hcalls : o.workers.calls <+: o'.workers.calls)
    (hlog : o'.log = o.log) : o'.Stands place c did :=
  ⟨Lists.getElem?_of_prefix hcalls h.call, by rw [Outbound.actions, hlog]; exact h.actions⟩

/-- What happens to a call makes it step, and what it does is logged. -/
theorem Stands.apply_self (h : o.Stands place c did) (now : Nat) (e : CallEvent) :
    (o.apply now place e).Stands place (c.step now e).1 (did ++ (c.step now e).2) where
  call := by rw [workers_apply, Workers.getElem?_step_self h.call]
  actions := by rw [actions_apply h.call, if_pos rfl, h.actions]

/-- What happens to others leaves it where it stands. -/
theorem Stands.apply_other (h : o.Stands place c did) (hother : other ≠ place) (e : CallEvent) :
    (o.apply now other e).Stands place c did where
  call := by rw [getElem?_apply_ne hother, h.call]
  actions := by
    cases hc : o.workers.calls[other]? with
    | none =>
      rw [apply, hc]
      exact h.actions
    | some c' => rw [actions_apply hc, if_neg hother, List.append_nil, h.actions]

/-- What has ended stays as it is, whatever happens. -/
theorem Stands.apply_ended (h : o.Stands place c did) {how : CallEnd} (hend : c.end? = some how)
    (other : Nat) (e : CallEvent) : (o.apply now other e).Stands place c did := by
  by_cases hother : other = place
  · subst hother
    have happly := h.apply_self now e
    rw [Call.step_of_ended (Call.stage_of_end? hend), List.append_nil] at happly
    exact happly
  · exact h.apply_other hother e

/-- To tell calls to stop changes none that need not be told. -/
theorem Stands.requestStop (h : o.Stands place c did) (hstop : c.requestStop = c) (other : Nat) :
    (o.requestStop other).Stands place c did where
  call := by
    change (o.workers.calls.modify other Call.requestStop)[place]? = some c
    rw [List.getElem?_modify, h.call]
    split
    · exact congrArg some hstop
    · rfl
  actions := h.actions

/-- A call that has ended stands where it stood, at every step. -/
theorem Stands.step_ended (hstep : Step stops o o') {how : CallEnd} (hend : c.end? = some how)
    (h : o.Stands place c did) : o'.Stands place c did := by
  cases hstep with
  | apply now other e => exact h.apply_ended hend other e
  | network => exact ⟨h.call, h.actions⟩
  | submit terms request => exact h.congr (List.prefix_append _ _) rfl
  | requestStop =>
    exact h.requestStop (Call.requestStop_of_finished (Call.isFinished_iff.2 ⟨how, hend⟩)) _

theorem Stands.steps_ended (hsteps : Steps stops o o') {how : CallEnd} (hend : c.end? = some how)
    (h : o.Stands place c did) : o'.Stands place c did :=
  hsteps.keeps (fun _ _ hstep h => h.step_ended hstep hend) h

/-! ## Stopping -/

/-- A call that was told to stop when it was `c` and had done `did` is aborted, and has said
farewell. -/
def Stopped (place : Nat) (c : Call) (did : List CallAction) (o : Outbound) : Prop :=
  o.Stands place (c.requestStop.finish .aborted) (did ++ c.farewell)

/-- Such a call still stands where it stood, or has stopped. -/
inductive Halts (place : Nat) (c : Call) (did : List CallAction) (o : Outbound) : Prop where
  | told (stands : o.Stands place c.requestStop did)
  | stopped (stopped : o.Stopped place c did)

variable (hgoes : c.isFinished = false)

include hgoes

/-- At its turn a call that was told to stop is aborted; at the turns of others it stays. -/
theorem Stands.stopCalls (now : Nat) (h : o.Stands place c.requestStop did) :
    (o.stopCalls now).Stopped place c did := by
  have hended : (c.requestStop.finish .aborted).end? = some .aborted := rfl
  rw [stopCalls_eq]
  refine Lists.foldl_range_around (P := fun o : Outbound => o.Stands place c.requestStop did)
    (Q := fun o : Outbound => o.Stopped place c did)
    (List.getElem?_eq_some_iff.1 h.call).1 ?before ?own ?after h
  case before =>
    intro o other hother h
    exact keeps_stopTurn (fun _ => h.apply_other hother _) h
  case own =>
    intro o h
    have happly := h.apply_self now .stopped
    rw [Call.step_stopped_eq (Call.isFinished_requestStop.trans hgoes),
      Call.farewell_requestStop] at happly
    rw [stopTurn, h.call, Option.any_some, if_pos (Call.mustStop_requestStop hgoes)]
    exact happly
  case after =>
    intro o other _ h
    have hturn : Steps (fun _ => True) o (o.stopTurn now other) := steps_stopTurn o other
    exact Stands.steps_ended hturn hended h

/-- At the next turn of all calls it is over. -/
theorem Halts.fire (now : Nat) (h : o.Halts place c did) : (o.fire now).Stopped place c did := by
  have hended : (c.requestStop.finish .aborted).end? = some .aborted := rfl
  cases h with
  | told stands =>
    -- what follows at the instant finds the call ended
    have hafter : Steps (fun _ => True) (o.stopCalls now) (o.fire now) := steps_afterStops now _
    exact Stands.steps_ended hafter hended (stands.stopCalls hgoes now)
  | stopped stopped =>
    have hfire : Steps (fun _ => True) o (o.fire now) := steps_fire now o
    exact Stands.steps_ended hfire hended stopped

omit hgoes

/-- As long as a call has not stopped its turn is due. -/
theorem due_of_told (hgoes : c.isFinished = false) (h : o.Stands place c.requestStop did) :
    o.due = some 0 := by
  have hmust : o.workers.calls.any mustStop = true :=
    List.any_eq_true.2 ⟨_, List.mem_of_getElem? h.call, Call.mustStop_requestStop hgoes⟩
  rw [due, isReady, hmust, Bool.or_true, Bool.true_or, if_pos rfl]

end Outbound

namespace Executor

variable {x : Executor} {now place : Nat} {c : Call} {did : List CallAction}

/-- At the next turn of an executor the call has stopped. -/
theorem stopped_fire (hgoes : c.isFinished = false) (now : Nat) (h : x.outbound.Halts place c did) :
    (x.fire now).outbound.Stopped place c did := by
  rw [outbound_fire]
  exact h.fire hgoes now

/-- New calls leave the others where they stand. -/
theorem stands_startWithin (budget : Option Nat) (kind : CommandKind) (command : Command)
    (h : x.outbound.Stands place c did) :
    (x.startWithin budget kind command).2.outbound.Stands place c did := by
  cases hplan : command.plan kind x.limits x.layout with
  | error e =>
    rw [startWithin_error _ hplan]
    exact h
  | ok planned =>
    rw [startWithin_ok _ hplan, outbound_submitted]
    exact h.congr (List.prefix_append _ _) rfl

/-- Nothing that others do to an executor changes a call that need not be told to stop. -/
theorem stands_perform (hstop : c.requestStop = c) (d : Deed) (h : x.outbound.Stands place c did) :
    (d.perform now x).outbound.Stands place c did := by
  cases d with
  | start budget kind command => exact stands_startWithin budget kind command h
  | read kind allOrNothing command value => exact stands_startWithin x.budget kind command h
  | cancel handle => exact h.requestStop hstop handle.call
  | assign layout => exact h
  | disturb change => exact h.congr (List.prefix_refl _) rfl

/-- As long as a call has not stopped, a turn of the executor is due at once. -/
theorem due_of_told (hgoes : c.isFinished = false)
    (h : x.outbound.Stands place c.requestStop did) : x.due = some 0 := by
  rw [due]
  split
  · rfl
  · exact Outbound.due_of_told hgoes h

/-- A call that goes on is held by a handle whose call has not ended. -/
theorem Owned.outstanding {handles : List CallHandle} (h : Owned handles place)
    (hc : x.outbound.workers.calls[place]? = some c) (hgoes : c.isFinished = false) :
    Owned (handles.filter fun h => !x.isFinished h) place := by
  obtain ⟨handle, hmem, rfl⟩ := h
  refine ⟨handle, List.mem_filter.2 ⟨hmem, ?_⟩, rfl⟩
  rw [isFinished_eq hc, hgoes]
  rfl

/-- To cancel handles does nothing that is logged. -/
theorem actions_cancelAll (handles : List CallHandle) (x : Executor) (place : Nat) :
    (handles.foldl cancel x).outbound.actions place = x.outbound.actions place := by
  induction handles generalizing x with
  | nil => rfl
  | cons h handles ih => exact ih (x.cancel h)

/-- Calls are told to stop by their handles; nothing else happens to them by that. -/
theorem stands_cancelled {handles : List CallHandle}
    (hc : x.outbound.workers.calls[place]? = some c)
    (howned : Owned handles place) :
    (handles.foldl cancel x).outbound.Stands place c.requestStop (x.outbound.actions place) :=
  ⟨foldl_cancel hc (.inl howned), actions_cancelAll handles x place⟩

/-- The calls of other handles, and those that have ended, stay as they are. -/
theorem stands_spared {handles : List CallHandle}
    (hc : x.outbound.workers.calls[place]? = some c)
    (hspared : c.isFinished = true ∨ ¬ Owned handles place) :
    (handles.foldl cancel x).outbound.Stands place c (x.outbound.actions place) := by
  refine ⟨?_, actions_cancelAll handles x place⟩
  induction handles generalizing x with
  | nil => exact hc
  | cons h handles ih =>
    refine ih ?_ (hspared.imp_right fun hnot ⟨h', hh', hcall⟩ =>
      hnot ⟨h', List.mem_cons_of_mem _ hh', hcall⟩)
    change (x.outbound.workers.calls.modify h.call Call.requestStop)[place]? = some c
    rw [List.getElem?_modify, hc]
    split
    · rename_i hcall
      obtain hfinished | hnot := hspared
      · exact congrArg some (Call.requestStop_of_finished hfinished)
      · exact absurd ⟨h, List.mem_cons_self, hcall⟩ hnot
    · rfl

end Executor

end ScatterSearch
