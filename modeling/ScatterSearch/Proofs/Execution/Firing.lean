import ScatterSearch.Execution.Manager

/-!
# What a manager does at an instant

`ExecutionManager.fire` starts handlers, answers requests, ends executions and answers again. Each
of these has an equation that says what becomes of every execution and of every request:

* `Execution.begin` and `Execution.finish` leave all of an execution but its phase as it is;
* `answer_eq`: each request that has no reply gets the one it is time for, and an execution is in
  the table afterwards if it was and nobody is told its outcome;
* `await_eq`: the same for a request that is added.

`fire_induction` puts them together: what each of the steps keeps is kept by all of them.
-/

namespace ScatterSearch

/-- The reply that tells a result. -/
def CommandReply.ofResult : Except String Response → CommandReply
  | .ok response => .complete response
  | .error message => .failed message

namespace Execution

variable {runs : ExecuteRequest → HandlerRun} {now task : Nat} {e : Execution}

@[simp] theorem begin_id : (e.begin runs now).id = e.id := by
  unfold begin; split <;> rfl

@[simp] theorem begin_request : (e.begin runs now).request = e.request := by
  unfold begin; split <;> rfl

@[simp] theorem begin_started : (e.begin runs now).started = e.started := by
  unfold begin; split <;> rfl

@[simp] theorem begin_listed : (e.begin runs now).listed = e.listed := by
  unfold begin; split <;> rfl

@[simp] theorem finish_id : (e.finish now task).id = e.id := by
  unfold finish; split
  · split <;> rfl
  · rfl

@[simp] theorem finish_request : (e.finish now task).request = e.request := by
  unfold finish; split
  · split <;> rfl
  · rfl

@[simp] theorem finish_started : (e.finish now task).started = e.started := by
  unfold finish; split
  · split <;> rfl
  · rfl

@[simp] theorem finish_listed : (e.finish now task).listed = e.listed := by
  unfold finish; split
  · split <;> rfl
  · rfl

/-- An execution that has ended does not begin. -/
theorem begin_eq_self (h : e.isFinished) : e.begin runs now = e := by
  unfold begin
  split
  · rename_i hphase
    simp [isFinished, result?, hphase] at h
  · rfl

theorem finish_eq_self (h : e.isFinished) : e.finish now task = e := by
  unfold finish
  split
  · rename_i hphase
    simp [isFinished, result?, hphase] at h
  · rfl

/-- What has ended stays so. -/
theorem isFinished_of_finish (h : (e.finish now task).isFinished = false) :
    e.isFinished = false := by
  cases hfinished : e.isFinished with
  | false => rfl
  | true =>
    rw [finish_eq_self hfinished, hfinished] at h
    exact h

/-- A handler that is just starting has no result. -/
theorem begin_isFinished : (e.begin runs now).isFinished = e.isFinished := by
  unfold begin
  split
  · rename_i hphase
    simp [isFinished, result?, hphase]
  · rfl

/-- Only an answer ends well. -/
theorem eq_answers {outcome : Outcome} {r : Response} (h : resultOf task outcome = .ok r) :
    outcome = .answers r := by
  cases outcome with
  | answers r' => rw [Except.ok.inj h]
  | fails message => cases h
  | panics message => cases h

end Execution

namespace ExecutionManager

variable {m : ExecutionManager} {now : Nat}

/-! ## Answering requests -/

/-- A request after the manager looked whether it is time for a reply. -/
def respond (m : ExecutionManager) (now : Nat) (p : Pending) : Pending :=
  if p.reply.isSome then p else { p with reply := m.replyTo now p }

/-- Whether a request is told the outcome of the execution at a place now. -/
def tells (m : ExecutionManager) (now place : Nat) (p : Pending) : Bool :=
  p.reply.isNone && p.execution == some place && (m.replyTo now p).any settles

/-- The manager after it looked at the first `k` requests. -/
def answeredUpTo (m : ExecutionManager) (now k : Nat) : ExecutionManager :=
  { m with
    requests := (m.requests.take k).map (m.respond now) ++ m.requests.drop k
    executions := m.executions.mapIdx fun place e =>
      { e with listed := e.listed && !(m.requests.take k).any (m.tells now place) } }

/-- A reply depends on how far executions are, and not on which of them are in the table. -/
theorem replyTo_eq_of_executions {m m' : ExecutionManager} {now : Nat}
    {f : Nat → Execution → Bool}
    (h : m'.executions = m.executions.mapIdx fun place e => { e with listed := f place e })
    (p : Pending) : m'.replyTo now p = m.replyTo now p := by
  rcases p with ⟨_ | place, deadline, reply⟩
  · rfl
  · simp only [replyTo, awaited?, Option.bind_some, h, List.getElem?_mapIdx]
    cases m.executions[place]? <;> rfl

/-- A list is the same if all its elements are. -/
theorem mapIdx_eq_self {α : Type} {xs : List α} {f : Nat → α → α} (h : ∀ i x, f i x = x) :
    xs.mapIdx f = xs :=
  List.mapIdx_eq_iff.2 fun i => by rw [funext (h i), Option.map_id']

theorem map_eq_mapIdx {α β : Type} (xs : List α) (f : α → β) :
    xs.map f = xs.mapIdx fun _ x => f x :=
  (List.mapIdx_eq_iff.2 fun _ => List.getElem?_map ..).symm

theorem modify_eq_mapIdx {α : Type} (xs : List α) (place : Nat) (f : α → α) :
    xs.modify place f = xs.mapIdx fun i x => if i = place then f x else x := by
  refine (List.mapIdx_eq_iff.2 fun i => ?_).symm
  rw [List.getElem?_modify]
  rcases xs[i]? with _ | x
  · rfl
  · by_cases h : place = i
    · simp [h]
    · simp [h, Ne.symm h]

/-- What it is to look at one request: it may get a reply, and the execution whose outcome it is
told leaves the table. -/
theorem answerOne_eq {k : Nat} {q : Pending} (hq : m.requests[k]? = some q) :
    answerOne now m k =
      { m with
        requests := m.requests.set k (m.respond now q)
        executions := m.executions.mapIdx fun place e =>
          { e with listed := e.listed && !m.tells now place q } } := by
  obtain ⟨hlt, hget⟩ := List.getElem?_eq_some_iff.1 hq
  have hself : m.requests.set k q = m.requests := by rw [← hget, List.set_getElem_self]
  have hstay : m.respond now q = q → (∀ place, m.tells now place q = false) →
      m = { m with
        requests := m.requests.set k (m.respond now q)
        executions := m.executions.mapIdx fun place e =>
          { e with listed := e.listed && !m.tells now place q } } := by
    intro hr ht
    rw [hr, hself, mapIdx_eq_self fun place e => by rw [ht, Bool.not_false, Bool.and_true]]
  rcases q with ⟨_ | place, deadline, _ | reply⟩
  · -- a request without an execution never gets a reply
    rw [answerOne, hq]
    exact hstay rfl fun _ => rfl
  · rw [answerOne, hq]
    exact hstay rfl fun _ => rfl
  · cases hto : m.replyTo now ⟨some place, deadline, none⟩ with
    | none =>
      simp only [answerOne, hq, hto]
      exact hstay (by rw [respond, hto]; rfl) fun i => by rw [tells, hto]; simp
    | some reply =>
      have hrespond : m.respond now ⟨some place, deadline, none⟩ =
          ⟨some place, deadline, some reply⟩ := by rw [respond, hto]; rfl
      have htells : ∀ i, m.tells now i ⟨some place, deadline, none⟩ =
          (decide (i = place) && settles reply) := by
        intro i
        rw [tells, hto]
        by_cases h : place = i
        · simp [h]
        · simp [h, Ne.symm h]
      simp only [answerOne, hq, hto, hrespond, htells]
      cases settles reply with
      | false => simp [mapIdx_eq_self]
      | true =>
        simp only [unlist, modify_eq_mapIdx, if_true, Bool.and_true]
        congr 1
        refine List.mapIdx_eq_mapIdx_iff.2 fun i _ => ?_
        by_cases h : i = place <;> simp [h]
  · rw [answerOne, hq]
    exact hstay rfl fun _ => by simp [tells]

/-- One request more is answered. -/
theorem answerOne_answeredUpTo {k : Nat} (hk : k < m.requests.length) :
    answerOne now (m.answeredUpTo now k) k = m.answeredUpTo now (k + 1) := by
  have hlen : ((m.requests.take k).map (m.respond now)).length = k := by
    rw [List.length_map, List.length_take, Nat.min_eq_left (Nat.le_of_lt hk)]
  have htake : m.requests.take (k + 1) = m.requests.take k ++ [m.requests[k]] := by
    rw [List.take_append_getElem]
  have hdrop : m.requests.drop k = m.requests[k] :: m.requests.drop (k + 1) := by
    rw [List.getElem_cons_drop]
  have hget : (m.answeredUpTo now k).requests[k]? = some m.requests[k] := by
    rw [answeredUpTo, List.getElem?_append_right (Nat.le_of_eq hlen), hlen, Nat.sub_self, hdrop]
    rfl
  have hreply : ∀ p, (m.answeredUpTo now k).replyTo now p = m.replyTo now p :=
    replyTo_eq_of_executions rfl
  rw [answerOne_eq hget]
  simp only [respond, tells, hreply]
  simp only [answeredUpTo, htake, List.map_append, List.any_append, hdrop,
    List.set_append_right _ _ (Nat.le_of_eq hlen), hlen, Nat.sub_self, List.set_cons_zero,
    List.mapIdx_mapIdx]
  simp [Function.comp_def, Bool.and_assoc, respond, tells]

/-- What it is to answer all requests: no reply depends on another one. -/
theorem answer_eq :
    m.answer now =
      { m with
        requests := m.requests.map (m.respond now)
        executions := m.executions.mapIdx fun place e =>
          { e with listed := e.listed && !m.requests.any (m.tells now place) } } := by
  have go : ∀ k, k ≤ m.requests.length →
      (List.range k).foldl (answerOne now) m = m.answeredUpTo now k := by
    intro k hk
    induction k with
    | zero =>
      simp only [answeredUpTo, List.take_zero, List.any_nil, Bool.not_false, Bool.and_true]
      rw [mapIdx_eq_self fun _ _ => rfl]
      rfl
    | succ k ih =>
      rw [List.range_succ, List.foldl_append, ih (Nat.le_of_succ_le hk)]
      exact answerOne_answeredUpTo hk
  rw [answer, go _ (Nat.le_refl _), answeredUpTo, List.take_length, List.drop_length,
    List.append_nil]

/-- What it is to add a request: it is answered at once if there is an outcome. -/
theorem await_eq (place : Nat) :
    m.await now place =
      (m.requests.length,
        { m with
          requests := m.requests ++ [m.respond now ⟨some place, now + m.wait, none⟩]
          executions := m.executions.mapIdx fun i e =>
            { e with
              listed := e.listed && !m.tells now i ⟨some place, now + m.wait, none⟩ } }) := by
  have hget : ({ m with requests := m.requests ++ [⟨some place, now + m.wait, none⟩] } :
      ExecutionManager).requests[m.requests.length]? = some ⟨some place, now + m.wait, none⟩ :=
    List.getElem?_concat_length
  rw [await, answerOne_eq hget]
  simp only [List.set_append_right _ _ (Nat.le_refl _), Nat.sub_self, List.set_cons_zero]
  rfl

/-! ## Accepting commands -/

/-- A manager that has just accepted a command. -/
def accepting (m : ExecutionManager) (now : Nat) (request : ExecuteRequest) : ExecutionManager :=
  { m with
    ids := m.ids.draw.2
    executions := m.executions ++ [⟨⟨m.ids.draw.1⟩, request, now, .accepted, 0, true⟩] }

/-- A request is executed if there is a handler, and else answered at once. -/
theorem execute_eq (request : ExecuteRequest) :
    m.execute now request =
      if m.handlers.has request.command then
        (m.accepting now request).await now m.executions.length
      else m.answered (.failed (Handlers.unknownMessage request.command)) := rfl

/-! ## Acting -/

/-- What it is to act while nothing is evicted by itself. -/
theorem fire_eq {view : NodeView} (hev : m.evictor = none) :
    m.fire view now = (((m.startAccepted view now).answer now).endRunning now).answer now := by
  have hnone : ((((m.startAccepted view now).answer now).endRunning now).answer now).evictor =
      none := by
    rw [answer_eq, endRunning, answer_eq, startAccepted]
    exact hev
  rw [fire, fireEvictor, hnone]

/-- What the steps of an action keep is kept by the action, as long as nothing is evicted by
itself. -/
theorem fire_induction {P : ExecutionManager → Prop} {view : NodeView} (hev : m.evictor = none)
    (h : P m) (starts : ∀ m, P m → P (m.startAccepted view now))
    (ends : ∀ m, P m → P (m.endRunning now)) (answers : ∀ m, P m → P (m.answer now)) :
    P (m.fire view now) := by
  rw [fire_eq hev]
  exact answers _ (ends _ (answers _ (starts _ h)))

end ExecutionManager

end ScatterSearch
