import ScatterSearch.Call.Workers

/-!
# What calls hold

A call that waits holds nothing, one that is connecting holds a worker, and one that is in
conversation holds a connection besides, which it got later. So what a call does when it ends
follows (`Call.hangUp_of_holdsConnection`): it lets go of its connection, if it has one, and of its
worker then.
-/

namespace ScatterSearch

/-! ## Letting go -/

/-- What becomes of a connection, by how its call ended. -/
def Dealing.release (s : Server) : CallEnd → Dealing
  | .returned (.ok _) => .giveBack s
  | _ => .discard s

/-- What a call does with its connection at its end. -/
def Call.release : CallEnd → CallAction
  | .returned (.ok _) => .giveBack
  | _ => .discard

namespace CallEnd

variable {how : CallEnd}

/-- A lease is let go of once, whether it is released or its scope is left. -/
theorem letGo_connection (how : CallEnd) (s : Server) :
    how.letGo (.connection (.acquire s)) = [Dealing.release s how] := by
  rcases how with (error | r) | message | _ <;> rfl

theorem letGo_worker (how : CallEnd) : how.letGo .worker = [.leave] := by
  cases how <;> rfl

theorem ofDealing?_release (how : CallEnd) (s : Server) :
    CallAction.ofDealing? (Dealing.release s how) = some (Call.release how) := by
  rcases how with (error | r) | message | _ <;> rfl

end CallEnd

/-! ## Calls -/

namespace Call

variable {c : Call} {now : Nat} {e : CallEvent}

/-- A call that has a connection is in conversation. -/
theorem stage_of_holdsConnection (h : c.holdsConnection = true) :
    (∃ started, c.stage = .executing started) ∨
      ∃ started id, c.stage = .reconnecting started id := by
  rw [holdsConnection, held] at h
  cases hstage : c.stage with
  | executing started => exact .inl ⟨started, rfl⟩
  | reconnecting started id => exact .inr ⟨started, id, rfl⟩
  | _ =>
    rw [hstage] at h
    cases h

theorem held_of_queued (h : c.stage = .queued) : c.held = [] := by rw [held, h]

theorem held_of_connecting (h : c.stage = .connecting) : c.held = [.worker] := by rw [held, h]

theorem held_of_ended {how : CallEnd} (h : c.stage = .ended how) : c.held = [] := by rw [held, h]

theorem held_requestStop (c : Call) : c.requestStop.held = c.held := by
  rw [requestStop]
  split <;> rfl

/-- A call that has a connection got it when it had a worker. -/
theorem held_of_holdsConnection (h : c.holdsConnection = true) :
    c.held = [.connection (.acquire c.terms.server), .worker] := by
  rcases stage_of_holdsConnection h with ⟨started, hstage⟩ | ⟨started, id, hstage⟩ <;>
    rw [held, hstage]

theorem holdsConnection_of_stage (h : (∃ started, c.stage = .executing started) ∨
    ∃ started id, c.stage = .reconnecting started id) : c.holdsConnection = true := by
  rcases h with ⟨started, hstage⟩ | ⟨started, id, hstage⟩ <;>
    rw [holdsConnection, held, hstage] <;> rfl

/-- A call that waits for a worker has none. -/
theorem holdsWorker_of_isQueued (h : c.isQueued = true) : c.holdsWorker = false := by
  rw [isQueued] at h
  split at h
  · rw [holdsWorker, held_of_queued ‹_›]
    rfl
  · cases h

/-- A call that has ended has no worker any more. -/
theorem holdsWorker_of_isFinished (h : c.isFinished = true) : c.holdsWorker = false := by
  rw [isFinished, end?] at h
  split at h
  · rw [holdsWorker, held_of_ended ‹_›]
    rfl
  · cases h

/-- A call that has a connection has a worker, and goes on. -/
theorem goes_of_holdsConnection (h : c.holdsConnection = true) :
    c.holdsWorker = true ∧ c.isFinished = false := by
  refine ⟨by rw [holdsWorker, held_of_holdsConnection h]; rfl, ?_⟩
  rcases stage_of_holdsConnection h with ⟨started, hstage⟩ | ⟨started, id, hstage⟩ <;>
    rw [isFinished, end?, hstage] <;> rfl

/-- A call holds nothing, a worker, or a connection on top of a worker. -/
theorem held_cases (c : Call) :
    c.holdsConnection = true ∧ c.held = [.connection (.acquire c.terms.server), .worker] ∨
      c.holdsConnection = false ∧ (c.held = [] ∨ c.held = [.worker]) := by
  cases h : c.holdsConnection with
  | true => exact .inl ⟨rfl, held_of_holdsConnection h⟩
  | false =>
    refine .inr ⟨rfl, ?_⟩
    cases hstage : c.stage with
    | queued => exact .inl (held_of_queued hstage)
    | connecting => exact .inr (held_of_connecting hstage)
    | executing started =>
      cases h.symm.trans (holdsConnection_of_stage (.inl ⟨started, hstage⟩))
    | reconnecting started id =>
      cases h.symm.trans (holdsConnection_of_stage (.inr ⟨started, id, hstage⟩))
    | ended how => exact .inl (held_of_ended hstage)

/-- A call without a connection ends, and that is all that others see. -/
theorem hangUp_of_no_connection (h : c.holdsConnection = false) (how : CallEnd) :
    c.hangUp how = (c.finish how, []) := by
  rw [holdsConnection] at h
  rw [hangUp, windUp, List.filterMap_flatMap]
  refine congrArg _ (List.flatMap_eq_nil_iff.2 fun x hx => ?_)
  cases x with
  | worker =>
    rw [CallEnd.letGo_worker]
    rfl
  | connection l => exact absurd rfl (List.any_eq_false.1 h _ hx)

/-- A call that has a connection lets go of it when it ends. -/
theorem hangUp_of_holdsConnection (h : c.holdsConnection = true) (how : CallEnd) :
    c.hangUp how = (c.finish how, [release how]) := by
  rw [hangUp, windUp, held_of_holdsConnection h, List.flatMap_cons, CallEnd.letGo_connection,
    List.flatMap_cons, CallEnd.letGo_worker, List.singleton_append,
    List.filterMap_cons_some (CallEnd.ofDealing?_release how _)]
  rfl

/-- At its end a call lets go of its connection, or others see nothing of it. -/
theorem hangUp_cases (c : Call) (how : CallEnd) :
    (c.hangUp how).1 = c.finish how ∧
      ((c.hangUp how).2 = [] ∨ (c.hangUp how).2 = [release how]) := by
  refine ⟨rfl, ?_⟩
  cases h : c.holdsConnection with
  | false => exact .inl (by rw [hangUp_of_no_connection h])
  | true => exact .inr (by rw [hangUp_of_holdsConnection h])

end Call

end ScatterSearch
