import ScatterSearch.Execution.Host
import ScatterSearch.Proofs.Execution.Firing

/-!
# A node with one command

What a node does whose only command is an `Errand`: it is accepted, runs, and ends, while one
request after the other waits for it. Each request waits no longer than `wait`; before the next one
comes, the earlier ones have their replies. So a state of the node is given by the state of the
execution, the requests that have a reply, and the deadline of the last one.

* `execute_idle`, `reconnect_running` and `reconnect_ended` say how requests come in;
* `fire_accepted` and `fire_running` say what the node does about the last of them.
-/

namespace ScatterSearch

/-- One command for a node that has nothing else to do. -/
structure Errand where
  server : Server
  config : ExecutionConfig
  handlers : Handlers
  ids : IdSupply
  layout : Layout
  index : ShardIndex
  request : ExecuteRequest
  /-- when the command is given to the node -/
  start : Nat

namespace Errand

variable (x : Errand)

/-- What the handler sees of its node. -/
def view (now : Nat) : NodeView := ⟨x.layout.served x.server, x.index, now⟩

/-- How the handler runs. -/
def run : HandlerRun :=
  x.handlers.run ⟨x.request, x.server, x.layout.served x.server, x.index, some 1, x.start⟩

/-- When the handler ends. -/
def finish : Nat := x.start + x.run.duration

/-- How the execution ends. -/
def result : Except String Response := Execution.resultOf 0 x.run.outcome

/-- The id that the node gives to the execution. -/
def id : ExecutionId := ⟨x.ids.draw.1⟩

/-- How long one request waits. -/
def wait : Nat := x.config.wait.toNat

/-- The execution after its handler was started. -/
def execution (phase : Phase) (listed : Bool) : Execution :=
  ⟨x.id, x.request, x.start, phase, 1, listed⟩

/-- The execution while its handler runs. -/
def running : Execution := x.execution (.running x.finish x.run.outcome) true

/-- The execution when its handler has ended. -/
def ended (listed : Bool) : Execution := x.execution (.ended x.result) listed

/-- The node before it got the command. -/
def idle : ExecutionManager := .new x.server x.config x.handlers x.ids

/-- The node with the command. -/
def busy (e : Execution) (requests : List Pending) : ExecutionManager :=
  ⟨x.server, x.config, x.handlers, x.ids.draw.2, [e], requests, none⟩

/-- What a request is told now that waits for an execution up to a deadline. -/
def told (e : Execution) (now deadline : Nat) : Option CommandReply :=
  match e.result? with
  | some r => some (.ofResult r)
  | none => if deadline ≤ now then some (.running e.id) else none

/-- All requests have a reply. -/
def Answered (requests : List Pending) : Prop := ∀ q ∈ requests, q.reply.isSome = true

variable {x} {e : Execution} {requests : List Pending} {now deadline : Nat}

@[simp] theorem settles_ofResult (r : Except String Response) :
    ExecutionManager.settles (.ofResult r) = true := by
  cases r <;> rfl

theorem Answered.concat (h : Answered requests) {reply : CommandReply} :
    Answered (requests ++ [⟨some 0, deadline, some reply⟩]) := by
  intro q hq
  rcases List.mem_append.1 hq with hq | hq
  · exact h q hq
  · rw [List.mem_singleton.1 hq]
    rfl

/-! ## Answering -/

theorem replyTo_busy : (x.busy e requests).replyTo now ⟨some 0, deadline, none⟩ =
    told e now deadline := by
  have hget : (x.busy e requests).awaited? ⟨some 0, deadline, none⟩ = some e := rfl
  simp only [ExecutionManager.replyTo, hget, told]
  cases e.result? with
  | none => rfl
  | some r => cases r <;> rfl

/-- Requests that have a reply are left alone. -/
theorem respond_answered {m : ExecutionManager} (h : Answered requests) :
    requests.map (m.respond now) = requests := by
  refine (List.map_congr_left fun q hq => ?_).trans (List.map_id _)
  rw [ExecutionManager.respond, if_pos (h q hq)]
  rfl

theorem tells_answered {m : ExecutionManager} (h : Answered requests) (place : Nat) :
    requests.any (m.tells now place) = false := by
  refine List.any_eq_false.2 fun q hq => ?_
  obtain ⟨reply, hreply⟩ := Option.isSome_iff_exists.1 (h q hq)
  rw [ExecutionManager.tells, hreply]
  simp

/-- While all requests have a reply there is nothing to answer. -/
theorem answer_answered (h : Answered requests) :
    (x.busy e requests).answer now = x.busy e requests := by
  rw [ExecutionManager.answer_eq]
  simp only [busy, respond_answered h, tells_answered h]
  simp

/-- Only the last request is without a reply, and gets the one that it is time for. -/
theorem answer_pending (h : Answered requests) :
    (x.busy e (requests ++ [⟨some 0, deadline, none⟩])).answer now =
      x.busy { e with listed :=
          e.listed && !(told e now deadline).any ExecutionManager.settles }
        (requests ++ [⟨some 0, deadline, told e now deadline⟩]) := by
  have hrespond : (x.busy e (requests ++ [⟨some 0, deadline, none⟩])).respond now
      ⟨some 0, deadline, none⟩ = ⟨some 0, deadline, told e now deadline⟩ := by
    rw [ExecutionManager.respond, replyTo_busy]
    rfl
  have htells : (x.busy e (requests ++ [⟨some 0, deadline, none⟩])).tells now 0
      ⟨some 0, deadline, none⟩ = (told e now deadline).any ExecutionManager.settles := by
    rw [ExecutionManager.tells, replyTo_busy]
    rfl
  rw [ExecutionManager.answer_eq]
  simp only [busy] at hrespond htells ⊢
  simp only [List.map_append, respond_answered h, List.map_cons, List.map_nil, hrespond,
    List.mapIdx_cons, List.mapIdx_nil, List.any_append, tells_answered h, List.any_cons,
    List.any_nil, Bool.false_or, Bool.or_false, htells]

/-! ## Requests -/

/-- A request is told at once what there is to tell. -/
theorem await_busy (e : Execution) (requests : List Pending) :
    (x.busy e requests).await now 0 =
      (requests.length, x.busy { e with listed :=
          e.listed && !(told e now (now + x.wait)).any ExecutionManager.settles }
        (requests ++ [⟨some 0, now + x.wait, told e now (now + x.wait)⟩])) := by
  have hrespond : (x.busy e requests).respond now ⟨some 0, now + x.wait, none⟩ =
      ⟨some 0, now + x.wait, told e now (now + x.wait)⟩ := by
    rw [ExecutionManager.respond, replyTo_busy]
    rfl
  have htells : (x.busy e requests).tells now 0 ⟨some 0, now + x.wait, none⟩ =
      (told e now (now + x.wait)).any ExecutionManager.settles := by
    rw [ExecutionManager.tells, replyTo_busy]
    rfl
  rw [ExecutionManager.await_eq]
  simp only [busy, ExecutionManager.wait, wait] at hrespond htells ⊢
  simp only [hrespond, List.mapIdx_cons, List.mapIdx_nil, htells]

/-- A request to execute does not wait for nothing. -/
theorem told_running (hresult : e.result? = none) (hwait : 0 < x.wait) :
    told e now (now + x.wait) = none := by
  rw [told, hresult]
  exact if_neg (by omega)

/-- The execution when it is accepted. -/
def accepted (x : Errand) : Execution := ⟨x.id, x.request, x.start, .accepted, 0, true⟩

/-- The request is accepted, and waits. -/
theorem execute_idle (hhas : x.handlers.has x.request.command = true) (hwait : 0 < x.wait) :
    x.idle.execute x.start x.request =
      (0, x.busy x.accepted [⟨some 0, x.start + x.wait, none⟩]) := by
  rw [ExecutionManager.execute, if_pos (show Assoc.has x.idle.handlers _ = true from hhas)]
  refine (await_busy x.accepted []).trans ?_
  rw [told_running rfl hwait]
  rfl

/-- The execution is found if it is listed. -/
theorem find?_busy : (x.busy e requests).find? e.id = if e.listed then some 0 else none := by
  simp only [ExecutionManager.find?, busy, List.findIdx?_cons, decide_true, Bool.and_true,
    List.findIdx?_nil]
  cases e.listed <;> rfl

/-- One who comes back while the execution runs waits again. -/
theorem reconnect_running (hwait : 0 < x.wait) :
    (x.busy x.running requests).reconnect now x.id =
      (requests.length,
        x.busy x.running (requests ++ [⟨some 0, now + x.wait, none⟩])) := by
  rw [ExecutionManager.reconnect, show x.id = x.running.id from rfl, find?_busy]
  refine (await_busy _ _).trans ?_
  rw [told_running rfl hwait]
  rfl

/-- Whoever comes back when there is a result is told it at once, and the execution leaves the
table. -/
theorem reconnect_ended :
    (x.busy (x.ended true) requests).reconnect now x.id =
      (requests.length, x.busy (x.ended false)
        (requests ++ [⟨some 0, now + x.wait, some (.ofResult x.result)⟩])) := by
  rw [ExecutionManager.reconnect, show x.id = (x.ended true).id from rfl, find?_busy]
  refine (await_busy _ _).trans ?_
  have htold : told (x.ended true) now (now + x.wait) = some (.ofResult x.result) := rfl
  rw [htold, Option.any_some, settles_ofResult]
  rfl

/-- A sweep does not touch what runs or is not in the table. -/
theorem evict_busy (h : e.isFinished = false ∨ e.listed = false) :
    ((x.busy e requests).evict now).2 = x.busy e requests := by
  have hstale : ExecutionManager.isStale (x.busy e requests).retention now e = false := by
    rcases h with h | h <;> simp [ExecutionManager.isStale, h]
  simp only [ExecutionManager.evict, busy, List.map_cons, List.map_nil] at hstale ⊢
  simp only [hstale, Bool.false_eq_true, if_false]

/-! ## Acting -/

/-- The execution ends at its time. -/
theorem finish_running :
    x.running.finish now 0 = if now < x.finish then x.running else x.ended true := by
  rcases Nat.lt_or_ge now x.finish with hlt | hge
  · rw [if_pos hlt]
    exact if_neg (Nat.not_le_of_lt hlt)
  · rw [if_neg (Nat.not_lt_of_le hge)]
    exact if_pos hge

/-- What a node does whose last request waits for a handler that runs. -/
theorem settle_running (requests : List Pending) (h : Answered requests) :
    (((x.busy x.running (requests ++ [⟨some 0, deadline, none⟩])).answer now).endRunning now).answer
        now =
      if deadline ≤ now then
        x.busy (if now < x.finish then x.running else x.ended true)
          (requests ++ [⟨some 0, deadline, some (.running x.id)⟩])
      else if now < x.finish then x.busy x.running (requests ++ [⟨some 0, deadline, none⟩])
      else x.busy (x.ended false)
        (requests ++ [⟨some 0, deadline, some (.ofResult x.result)⟩]) := by
  rw [answer_pending h]
  rcases Nat.lt_or_ge now deadline with hbefore | hdue
  · have htold : told x.running now deadline = none := if_neg (Nat.not_le_of_lt hbefore)
    rw [htold, if_neg (Nat.not_le_of_lt hbefore)]
    change (x.busy (x.running.finish now 0) (requests ++ [⟨some 0, deadline, none⟩])).answer now = _
    rw [answer_pending h, finish_running]
    rcases Nat.lt_or_ge now x.finish with hlt | hge
    · rw [if_pos hlt, if_pos hlt, htold]
      rfl
    · rw [if_neg (Nat.not_lt_of_le hge), if_neg (Nat.not_lt_of_le hge)]
      have hend : told (x.ended true) now deadline = some (.ofResult x.result) := rfl
      rw [hend, Option.any_some, settles_ofResult]
      rfl
  · have htold : told x.running now deadline = some (.running x.id) := if_pos hdue
    rw [htold, if_pos hdue]
    change (x.busy (x.running.finish now 0)
      (requests ++ [⟨some 0, deadline, some (.running x.id)⟩])).answer now = _
    rw [answer_answered h.concat, finish_running]

/-- The handler starts, and if it takes no time it ends. -/
theorem fire_accepted (hwait : 0 < x.wait) :
    (x.busy x.accepted [⟨some 0, x.start + x.wait, none⟩]).fire (x.view x.start) x.start =
      if x.start < x.finish then x.busy x.running [⟨some 0, x.start + x.wait, none⟩]
      else x.busy (x.ended false) [⟨some 0, x.start + x.wait, some (.ofResult x.result)⟩] := by
  rw [ExecutionManager.fire_eq rfl]
  have hbegin : (x.busy x.accepted [⟨some 0, x.start + x.wait, none⟩]).startAccepted
      (x.view x.start) x.start = x.busy x.running [⟨some 0, x.start + x.wait, none⟩] := rfl
  rw [hbegin]
  refine (settle_running [] (by intro q hq; cases hq)).trans ?_
  exact if_neg (by omega)

/-- What the node does while the handler runs: at its deadline the last request is told that it
does, at the end it is told the result. -/
theorem fire_running (now deadline : Nat) (h : Answered requests) :
    (x.busy x.running (requests ++ [⟨some 0, deadline, none⟩])).fire (x.view now) now =
      if deadline ≤ now then
        x.busy (if now < x.finish then x.running else x.ended true)
          (requests ++ [⟨some 0, deadline, some (.running x.id)⟩])
      else if now < x.finish then x.busy x.running (requests ++ [⟨some 0, deadline, none⟩])
      else x.busy (x.ended false)
        (requests ++ [⟨some 0, deadline, some (.ofResult x.result)⟩]) := by
  rw [ExecutionManager.fire_eq rfl]
  exact settle_running requests h

/-- After the end nothing happens while all requests have a reply. -/
theorem fire_ended {listed : Bool} (h : Answered requests) :
    (x.busy (x.ended listed) requests).fire (x.view now) now =
      x.busy (x.ended listed) requests := by
  rw [ExecutionManager.fire_eq rfl]
  change (((x.busy (x.ended listed) requests).answer now).endRunning now).answer now = _
  rw [answer_answered h]
  exact answer_answered h

/-- While the handler runs, the next things to happen are its end and the deadline of the last
request. -/
theorem due_running (h : Answered requests) :
    (x.busy x.running (requests ++ [⟨some 0, deadline, none⟩])).due =
      some (min x.finish deadline) := by
  have hold : requests.filterMap
      (x.busy x.running (requests ++ [⟨some 0, deadline, none⟩])).requestDue = [] := by
    refine List.filterMap_eq_nil_iff.2 fun q hq => ?_
    rw [ExecutionManager.requestDue, if_pos (h q hq)]
  have hlast : (x.busy x.running (requests ++ [⟨some 0, deadline, none⟩])).requestDue
      ⟨some 0, deadline, none⟩ = some deadline := rfl
  rw [ExecutionManager.due]
  simp only [busy] at hold hlast ⊢
  rw [List.filterMap_append, hold, List.nil_append, List.filterMap_cons_some hlast]
  rfl

/-- An execution whose handler was started goes on under its id: it is not started again, and it
does not come back to the table. -/
structure GoesOn (e e' : Execution) : Prop where
  id_eq : e'.id = e.id
  starts_eq : e'.starts = e.starts
  started : e'.phase ≠ .accepted
  listed : e.listed = false → e'.listed = false

theorem GoesOn.trans {e e' e'' : Execution} (h : GoesOn e e') (h' : GoesOn e' e'') :
    GoesOn e e'' :=
  ⟨h'.id_eq.trans h.id_eq, h'.starts_eq.trans h.starts_eq, h'.started,
    fun hlisted => h'.listed (h.listed hlisted)⟩

theorem goesOn_relist (h : e.phase ≠ .accepted) (told : Bool) :
    GoesOn e { e with listed := e.listed && !told } :=
  ⟨rfl, rfl, h, fun hlisted => by rw [hlisted, Bool.false_and]⟩

theorem goesOn_finish (h : e.phase ≠ .accepted) : GoesOn e (e.finish now 0) := by
  rw [Execution.finish]
  split
  · rename_i ends outcome hphase
    split
    · exact ⟨rfl, rfl, by simp, fun hlisted => hlisted⟩
    · exact ⟨rfl, rfl, h, fun hlisted => hlisted⟩
  · exact ⟨rfl, rfl, h, fun hlisted => hlisted⟩

/-- What the node does by itself leaves it with the one execution. -/
theorem fire_busy (h : e.phase ≠ .accepted) :
    ∃ e' requests', (x.busy e requests).fire (x.view now) now = x.busy e' requests' ∧
      GoesOn e e' := by
  have hself : GoesOn e e := ⟨rfl, rfl, h, fun hlisted => hlisted⟩
  refine ExecutionManager.fire_induction (P := fun m => ∃ e' requests',
    m = x.busy e' requests' ∧ GoesOn e e') rfl ⟨e, requests, rfl, hself⟩ ?_ ?_ ?_
  · rintro _ ⟨e', requests', rfl, hon⟩
    have hbegin : e'.begin ((x.busy e' requests').run (x.view now)) now = e' := by
      rw [Execution.begin]
      split
      · rename_i hphase
        exact absurd hphase hon.started
      · rfl
    refine ⟨e', requests', ?_, hon⟩
    simp only [ExecutionManager.startAccepted, busy, List.map_cons, List.map_nil] at hbegin ⊢
    rw [hbegin]
  · rintro _ ⟨e', requests', rfl, hon⟩
    exact ⟨e'.finish now 0, requests', rfl, hon.trans (goesOn_finish hon.started)⟩
  · rintro _ ⟨e', requests', rfl, hon⟩
    rw [ExecutionManager.answer_eq]
    exact ⟨_, _, rfl, hon.trans (goesOn_relist hon.started
      (requests'.any ((x.busy e' requests').tells now 0)))⟩

/-- A sweep leaves the node with the one execution, too. -/
theorem evict_goesOn (h : e.phase ≠ .accepted) :
    ∃ e', ((x.busy e requests).evict now).2 = x.busy e' requests ∧ GoesOn e e' := by
  refine ⟨_, rfl, ?_⟩
  dsimp only
  split
  · exact ⟨rfl, rfl, h, fun _ => rfl⟩
  · exact ⟨rfl, rfl, h, fun hlisted => hlisted⟩

end Errand

end ScatterSearch
