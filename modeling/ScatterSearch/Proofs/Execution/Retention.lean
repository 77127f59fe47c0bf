import ScatterSearch.Proofs.Execution.Firing
import ScatterSearch.Proofs.Ids
import ScatterSearch.Proofs.Lists
import ScatterSearch.Proofs.Time.Run

/-!
# How long results are kept

A node keeps the result of an execution for those who come back for it. Here is, over all runs of a
manager - commands, reconnects and sweeps at any instants - what they find:

* an execution keeps its place and its id, and no other execution gets that id (`Orderly`);
* a running execution is in the table (`Registered`);
* one that has ended leaves the table only because somebody was told its outcome, or by a sweep that
  comes when the retention has passed since the start (`Kept`).

`unclaimed_until_late_sweep` says what this means for the next reconnect. As the retention counts
from the start, a result can be gone at the very instant at which there is one:
`retention_not_from_end`.
-/

namespace ScatterSearch

namespace ExecutionManager

/-- What others do with the executions of a node. -/
inductive Deed where
  | execute (request : ExecuteRequest)
  | reconnect (id : ExecutionId)
  /-- evicts what is stale -/
  | sweep

/-- What becomes of a manager when somebody does something. -/
def Deed.perform : Deed → Nat → ExecutionManager → ExecutionManager
  | .execute request, now, m => (m.execute now request).2
  | .reconnect id, now, m => (m.reconnect now id).2
  | .sweep, now, m => (m.evict now).2

/-- Somebody was told the outcome of the execution at a place. -/
def Delivered (m : ExecutionManager) (place : Nat) : Prop :=
  ∃ q ∈ m.requests, q.execution = some place ∧ q.reply.any settles = true

/-- Somebody swept at an instant or later. -/
def SweptFrom (since : Nat) (trace : List (Nat × Deed)) : Prop :=
  ∃ t, (t, Deed.sweep) ∈ trace ∧ since ≤ t

variable {view : Nat → NodeView} {m m' : ExecutionManager} {now place : Nat}

/-- A deed accepts a command and waits for it, waits for an execution in the table, turns a request
down, or sweeps. -/
theorem Deed.keeps_perform {P : ExecutionManager → Prop} {d : Deed}
    (accepts : ∀ request, d = .execute request → m.handlers.has request.command = true →
      P ((m.accepting now request).await now m.executions.length).2)
    (awaits : ∀ id place, d = .reconnect id → m.find? id = some place → P (m.await now place).2)
    (refuses : d ≠ .sweep → ∀ message, P (m.answered (.failed message)).2)
    (sweeps : d = .sweep → P (m.evict now).2) : P (d.perform now m) := by
  cases d with
  | execute request =>
    rw [perform, execute_eq]
    split
    · rename_i hhas
      exact accepts request rfl hhas
    · exact refuses (by simp) _
  | reconnect id =>
    rw [perform, ExecutionManager.reconnect]
    split
    · rename_i place hfind
      exact awaits id place rfl hfind
    · exact refuses (by simp) _
  | sweep => exact sweeps rfl

/-- One deed more is a sweep, or it is not. -/
theorem SweptFrom.concat {since : Nat} {trace : List (Nat × Deed)} {d : Deed} :
    SweptFrom since (trace ++ [(now, d)]) ↔ SweptFrom since trace ∨ d = .sweep ∧ since ≤ now := by
  simp only [SweptFrom, List.mem_append, List.mem_singleton, Prod.mk.injEq]
  constructor
  · rintro ⟨t, hmem | ⟨rfl, rfl⟩, hle⟩
    · exact .inl ⟨t, hmem, hle⟩
    · exact .inr ⟨rfl, hle⟩
  · rintro (⟨t, hmem, hle⟩ | ⟨rfl, hle⟩)
    · exact ⟨t, .inl hmem, hle⟩
    · exact ⟨now, .inr ⟨rfl, rfl⟩, hle⟩

/-! ## Executions keep their places, ids and starts -/

/-- A manager that gave its ids out in order, from a number on. -/
structure Numbered (origin given : Nat) (m : ExecutionManager) : Prop where
  ids : m.ids = ⟨origin, given + m.executions.length⟩
  id_eq : ∀ (place : Nat) (e : Execution), m.executions[place]? = some e →
    e.id = ⟨IdSupply.name origin (given + place)⟩

namespace Numbered

variable {origin given : Nat} {requests : List Pending} {evictor : Option Ticker}

/-- Executions may change in all but their ids. -/
theorem mapIdx (h : Numbered origin given m) {f : Nat → Execution → Execution}
    (hid : ∀ i e, (f i e).id = e.id) :
    Numbered origin given { m with executions := m.executions.mapIdx f, requests, evictor } where
  ids := by rw [h.ids, List.length_mapIdx]
  id_eq := by
    intro i e he
    rw [List.getElem?_mapIdx, Option.map_eq_some_iff] at he
    obtain ⟨e₀, he₀, rfl⟩ := he
    rw [hid, h.id_eq i e₀ he₀]

/-- The execution of a command that is accepted gets the next id. -/
theorem accept (h : Numbered origin given m) (request : ExecuteRequest) :
    Numbered origin given (m.accepting now request) where
  ids := by simp [accepting, IdSupply.draw, h.ids, Nat.add_assoc]
  id_eq := by
    intro i e he
    rw [accepting] at he
    rcases Lists.getElem?_concat he with he | ⟨rfl, rfl⟩
    · exact h.id_eq i e he
    · simp [IdSupply.draw, h.ids]

/-- Different executions have different ids. -/
theorem place_eq (h : Numbered origin given m) {i j : Nat} {e e' : Execution}
    (he : m.executions[i]? = some e) (he' : m.executions[j]? = some e') (hid : e.id = e'.id) :
    i = j := by
  rw [h.id_eq i e he, h.id_eq j e' he', ExecutionId.mk.injEq] at hid
  exact Nat.add_left_cancel (IdSupply.name_inj hid)

/-- No two executions have the same id. -/
theorem nodup_ids (h : Numbered origin given m) : (m.executions.map (·.id)).Nodup := by
  rw [List.nodup_iff_getElem?_ne_getElem?]
  intro i j hij hj heq
  rw [List.length_map] at hj
  rw [List.getElem?_map, List.getElem?_map, List.getElem?_eq_getElem hj,
    List.getElem?_eq_getElem (Nat.lt_trans hij hj)] at heq
  exact Nat.ne_of_lt hij (h.place_eq (List.getElem?_eq_getElem (Nat.lt_trans hij hj))
    (List.getElem?_eq_getElem hj) (Option.some.inj heq))

end Numbered

/-- A manager that gave its ids out in order, and evicts nothing by itself. -/
structure Orderly (config : ExecutionConfig) (origin given now : Nat) (m : ExecutionManager) :
    Prop extends Numbered origin given m where
  config_eq : m.config = config
  evictor : m.evictor = none
  started : ∀ e ∈ m.executions, e.started ≤ now

namespace Orderly

variable {config : ExecutionConfig} {origin given : Nat} {requests : List Pending}

theorem new (server : Server) (handlers : Handlers) (now : Nat) :
    Orderly config origin given now (.new server config handlers ⟨origin, given⟩) where
  config_eq := rfl
  evictor := rfl
  ids := rfl
  id_eq := by
    intro i e he
    cases he
  started := by
    intro e he
    cases he

/-- Executions may change in all but their ids and starts. -/
theorem mapIdx (h : Orderly config origin given now m) {f : Nat → Execution → Execution}
    (hid : ∀ i e, (f i e).id = e.id) (hstarted : ∀ i e, (f i e).started = e.started) :
    Orderly config origin given now
      { m with executions := m.executions.mapIdx f, requests := requests } where
  toNumbered := h.toNumbered.mapIdx hid
  config_eq := h.config_eq
  evictor := h.evictor
  started := by
    intro e he
    obtain ⟨i, hi, rfl⟩ := List.mem_mapIdx.1 he
    rw [hstarted]
    exact h.started _ (List.getElem_mem hi)

theorem map (h : Orderly config origin given now m) {f : Execution → Execution}
    (hid : ∀ e, (f e).id = e.id) (hstarted : ∀ e, (f e).started = e.started) :
    Orderly config origin given now { m with executions := m.executions.map f } := by
  rw [map_eq_mapIdx]
  exact h.mapIdx (fun _ => hid) (fun _ => hstarted)

theorem later {later : Nat} (h : Orderly config origin given now m) (hle : now ≤ later) :
    Orderly config origin given later m :=
  { h with started := fun e he => Nat.le_trans (h.started e he) hle }

theorem fire (h : Orderly config origin given now m) :
    Orderly config origin given now (m.fire (view now) now) :=
  fire_induction h.evictor h
    (fun _ h => h.map (fun _ => Execution.begin_id) fun _ => Execution.begin_started)
    (fun _ h => h.mapIdx (fun _ _ => Execution.finish_id) fun _ _ => Execution.finish_started)
    fun m h => by
      rw [answer_eq]
      exact h.mapIdx (fun _ _ => rfl) fun _ _ => rfl

theorem await (h : Orderly config origin given now m) (i : Nat) :
    Orderly config origin given now (m.await now i).2 := by
  rw [await_eq]
  exact h.mapIdx (fun _ _ => rfl) fun _ _ => rfl

theorem perform (h : Orderly config origin given now m) (d : Deed) :
    Orderly config origin given now (d.perform now m) := by
  refine Deed.keeps_perform (fun request _ _ => Orderly.await ?_ _)
    (fun _ place _ _ => h.await place) (fun _ _ => { h with })
    fun _ => h.map (fun _ => by split <;> rfl) fun _ => by split <;> rfl
  refine ⟨h.accept request, h.config_eq, h.evictor, fun e he => ?_⟩
  rcases List.mem_append.1 he with he | he
  · exact h.started e he
  · obtain rfl := List.mem_singleton.1 he
    exact Nat.le_refl _

/-- Every manager that a run comes to gave its ids out in order. -/
theorem of_run {server : Server} {handlers : Handlers} {start : Nat} {trace : List (Nat × Deed)}
    {u : Timed ExecutionManager}
    (h : Run (machine view) Deed.perform ⟨start, .new server config handlers ⟨origin, given⟩⟩
      trace u) : Orderly config origin given u.now u.state :=
  h.invariant (I := fun _ u => Orderly config origin given u.now u.state) (.new _ _ _)
    (fun _ _ _ h _ _ => h.fire) (fun _ _ _ h hle _ => h.later hle) (fun _ _ d h => h.perform d)

/-- Whoever comes back with the id of an execution is led to it, as long as it is in the table. -/
theorem find?_eq (h : Orderly config origin given now m) {e : Execution}
    (he : m.executions[place]? = some e) :
    m.find? e.id = if e.listed then some place else none := by
  obtain ⟨hlt, hget⟩ := List.getElem?_eq_some_iff.1 he
  have other : ∀ (i : Nat) (hi : i < m.executions.length), m.executions[i].id = e.id → i = place :=
    fun i hi hid => h.place_eq (List.getElem?_eq_getElem hi) he hid
  cases hl : e.listed with
  | true =>
    rw [if_pos rfl, find?, List.findIdx?_eq_some_iff_getElem]
    refine ⟨hlt, by simp [hget, hl], fun j hj => ?_⟩
    have hne : m.executions[j].id ≠ e.id := fun hid =>
      Nat.ne_of_lt hj (other j (Nat.lt_trans hj hlt) hid)
    simp [hne]
  | false =>
    rw [if_neg Bool.false_ne_true, find?, List.findIdx?_eq_none_iff]
    intro e' he'
    obtain ⟨i, hi, rfl⟩ := List.getElem_of_mem he'
    by_cases hid : m.executions[i].id = e.id
    · obtain rfl := other i hi hid
      rw [hget, hl, Bool.false_and]
    · simp [hid]

end Orderly

/-! ## Who takes an execution out of the table -/

/-- A request that is told a result has it as its reply. -/
theorem Delivered.of_tells {q : Pending} (hq : q ∈ m.requests)
    (htells : m.tells now place q = true) (hm : m'.requests = m.requests.map (m.respond now)) :
    Delivered m' place := by
  simp only [tells, Bool.and_eq_true, Option.isNone_iff_eq_none, beq_iff_eq] at htells
  obtain ⟨⟨hnone, hplace⟩, hsettles⟩ := htells
  refine ⟨m.respond now q, by rw [hm]; exact List.mem_map_of_mem hq, ?_⟩
  rw [respond, hnone]
  exact ⟨hplace, hsettles⟩

/-- A reply is never taken back. -/
theorem Delivered.respond (h : Delivered m place)
    (hm : m'.requests = m.requests.map (m.respond now)) : Delivered m' place := by
  obtain ⟨q, hq, hplace, hsettles⟩ := h
  refine ⟨m.respond now q, by rw [hm]; exact List.mem_map_of_mem hq, ?_⟩
  have hsome : q.reply.isSome = true := by
    cases hreply : q.reply with
    | none => rw [hreply] at hsettles; cases hsettles
    | some _ => rfl
  rw [ExecutionManager.respond, if_pos hsome]
  exact ⟨hplace, hsettles⟩

/-- What was delivered stays so when requests come. -/
theorem Delivered.append (h : Delivered m place) {more : List Pending}
    (hm : m'.requests = m.requests ++ more) : Delivered m' place := by
  obtain ⟨q, hq, hreply⟩ := h
  exact ⟨q, by rw [hm]; exact List.mem_append_left _ hq, hreply⟩

/-- The execution at a place is as it was at its end, `e`, but for the table. It is out of the table
if it was `evicted`, and if it was not, then only because somebody was told its outcome. -/
def Kept (e : Execution) (place : Nat) (evicted : Prop) (m : ExecutionManager) : Prop :=
  ∃ listed : Bool, m.executions[place]? = some { e with listed } ∧
    (evicted → listed = false) ∧ (listed = false → evicted ∨ Delivered m place)

namespace Kept

variable {e : Execution} {evicted : Prop}

/-- Executions may leave the table when somebody is told their outcome. -/
theorem relist (h : Kept e place evicted m) (told : Nat → Bool)
    (hexecutions : m'.executions = m.executions.mapIdx fun i e =>
      { e with listed := e.listed && !told i })
    (hmono : Delivered m place → Delivered m' place)
    (htold : told place = true → Delivered m' place) : Kept e place evicted m' := by
  obtain ⟨listed, hget, hevicted, hreason⟩ := h
  refine ⟨listed && !told place, by rw [hexecutions, List.getElem?_mapIdx, hget]; rfl, ?_, ?_⟩
  · intro hev
    rw [hevicted hev, Bool.false_and]
  · intro hout
    cases ht : told place with
    | true => exact .inr (htold ht)
    | false =>
      rw [ht, Bool.not_false, Bool.and_true] at hout
      exact (hreason hout).imp_right hmono

/-- Nothing but the table changes for an execution that has ended. -/
theorem of_eq (h : Kept e place evicted m) {f : Nat → Execution → Execution}
    (hf : ∀ listed, f place { e with listed } = { e with listed })
    (hexecutions : m'.executions = m.executions.mapIdx f) (hrequests : m'.requests = m.requests) :
    Kept e place evicted m' := by
  obtain ⟨listed, hget, hevicted, hreason⟩ := h
  refine ⟨listed, by rw [hexecutions, List.getElem?_mapIdx, hget, Option.map_some, hf],
    hevicted, ?_⟩
  rw [Delivered, hrequests]
  exact hreason

theorem answer (h : Kept e place evicted m) : Kept e place evicted (m.answer now) := by
  rw [answer_eq]
  refine h.relist (fun i => m.requests.any (m.tells now i)) rfl (·.respond rfl) ?_
  intro htold
  obtain ⟨q, hq, htells⟩ := List.any_eq_true.1 htold
  exact .of_tells hq htells rfl

theorem endRunning (h : Kept e place evicted m) (hfinished : e.isFinished) :
    Kept e place evicted (m.endRunning now) :=
  h.of_eq (fun _ => Execution.finish_eq_self hfinished) rfl rfl

theorem fire (h : Kept e place evicted m) (hfinished : e.isFinished) (hev : m.evictor = none) :
    Kept e place evicted (m.fire (view now) now) :=
  fire_induction hev h
    (fun m h => h.of_eq (f := fun _ => Execution.begin (m.run (view now)) now)
      (fun _ => Execution.begin_eq_self hfinished) (map_eq_mapIdx _ _) rfl)
    (fun _ h => h.endRunning hfinished) fun _ h => h.answer

theorem await (h : Kept e place evicted m) (i : Nat) : Kept e place evicted (m.await now i).2 := by
  rw [await_eq]
  refine h.relist (fun j => m.tells now j ⟨some i, now + m.wait, none⟩) rfl
    (·.append rfl) fun htold => ?_
  simp only [tells, Bool.and_eq_true, beq_iff_eq] at htold
  exact ⟨_, List.mem_append_right _ (List.mem_singleton.2 rfl), htold.1.2, htold.2⟩

theorem answered (h : Kept e place evicted m) (reply : CommandReply) :
    Kept e place evicted (m.answered reply).2 := by
  obtain ⟨listed, hget, hevicted, hreason⟩ := h
  exact ⟨listed, hget, hevicted, fun hout => (hreason hout).imp_right (·.append rfl)⟩

/-- An execution that has ended is evicted when its result was kept for long enough, counted from
the start. -/
theorem evict (h : Kept e place evicted m) (hfinished : e.isFinished) (hstarted : e.started ≤ now) :
    Kept e place (evicted ∨ e.started + m.retention ≤ now) (m.evict now).2 := by
  obtain ⟨listed, hget, hevicted, hreason⟩ := h
  have hstale : isStale m.retention now { e with listed } =
      (listed && decide (e.started + m.retention ≤ now)) := by
    have hiff : m.retention ≤ now - e.started ↔ e.started + m.retention ≤ now := by omega
    have hend : ({ e with listed } : Execution).isFinished = true := hfinished
    rw [isStale, hend, Bool.and_true, decide_eq_decide.2 hiff]
  refine ⟨listed && !decide (e.started + m.retention ≤ now), ?_, ?_, ?_⟩
  · simp only [ExecutionManager.evict, List.getElem?_map, hget, Option.map_some, hstale]
    cases listed with
    | false => rfl
    | true => by_cases hlate : e.started + m.retention ≤ now <;> simp [hlate]
  · rintro (hev | hlate)
    · rw [hevicted hev, Bool.false_and]
    · rw [decide_eq_true hlate, Bool.not_true, Bool.and_false]
  · intro hout
    by_cases hlate : e.started + m.retention ≤ now
    · exact .inl (.inr hlate)
    · rw [decide_eq_false hlate, Bool.not_false, Bool.and_true] at hout
      exact (hreason hout).imp .inl id

/-- What others do evicts an execution that has ended only by a sweep that comes late enough. -/
theorem perform (h : Kept e place evicted m) (hfinished : e.isFinished) (hstarted : e.started ≤ now)
    (d : Deed) :
    Kept e place (evicted ∨ d = .sweep ∧ e.started + m.retention ≤ now) (d.perform now m) := by
  have quiet : ∀ {m' : ExecutionManager}, d ≠ .sweep → Kept e place evicted m' →
      Kept e place (evicted ∨ d = .sweep ∧ e.started + m.retention ≤ now) m' := by
    intro m' hd h'
    simpa [hd] using h'
  refine Deed.keeps_perform (fun request hd _ => quiet (by simp [hd]) (Kept.await ?_ _))
    (fun _ place hd _ => quiet (by simp [hd]) (h.await place))
    (fun hd _ => quiet hd (h.answered _)) fun hd => ?_
  · obtain ⟨listed, hget, hrest⟩ := h
    refine ⟨listed, ?_, hrest⟩
    rw [accepting, List.getElem?_append_left (List.getElem?_eq_some_iff.1 hget).1, hget]
  · simpa [hd] using h.evict hfinished hstarted

/-- From the end of an execution on, only sweeps that come late enough evict it. -/
theorem of_run {config : ExecutionConfig} {origin given : Nat} {t u : Timed ExecutionManager}
    {trace : List (Nat × Deed)} (h : Kept e place False t.state) (hfinished : e.isFinished)
    (hstarted : e.started ≤ t.now) (horderly : Orderly config origin given t.now t.state)
    (hrun : Run (machine view) Deed.perform t trace u) :
    Orderly config origin given u.now u.state ∧
      Kept e place (SweptFrom (e.started + config.retention.toNat) trace) u.state := by
  have hkept := hrun.invariant (I := fun trace u => t.now ≤ u.now ∧
    Orderly config origin given u.now u.state ∧
    Kept e place (SweptFrom (e.started + config.retention.toNat) trace) u.state)
    ⟨Nat.le_refl _, horderly, by simpa [SweptFrom] using h⟩
    (fun _ _ _ h _ _ => ⟨h.1, h.2.1.fire, h.2.2.fire hfinished h.2.1.evictor⟩)
    (fun _ _ _ h hle _ => ⟨Nat.le_trans h.1 hle, h.2.1.later hle, h.2.2⟩)
    fun trace u d h => ?_
  · exact hkept.2
  · obtain ⟨hle, horderly, hkept⟩ := h
    have hretention : u.state.retention = config.retention.toNat := by
      rw [retention, horderly.config_eq]
    have hstep := hkept.perform hfinished (Nat.le_trans hstarted hle) d
    rw [hretention, ← SweptFrom.concat] at hstep
    exact ⟨hle, horderly.perform d, hstep⟩

end Kept

/-! ## Ends -/

/-- Only whose execution has ended is told an outcome. -/
theorem isFinished_of_tells {e : Execution} {q : Pending} (he : m.executions[place]? = some e)
    (htells : m.tells now place q = true) : e.isFinished = true := by
  simp only [tells, Bool.and_eq_true, beq_iff_eq] at htells
  obtain ⟨⟨-, hplace⟩, hsettles⟩ := htells
  rw [replyTo, awaited?, hplace, Option.bind_some, he] at hsettles
  rw [Execution.isFinished]
  cases hresult : e.result? with
  | some _ => rfl
  | none =>
    simp only [hresult] at hsettles
    split at hsettles <;> cases hsettles

/-- Executions leave the table only after their end. -/
def Registered (m : ExecutionManager) : Prop :=
  ∀ e ∈ m.executions, e.isFinished = false → e.listed = true

namespace Registered

theorem mapIdx (h : Registered m) {f : Nat → Execution → Execution} {requests : List Pending}
    (hf : ∀ i e, m.executions[i]? = some e → (f i e).isFinished = false →
      e.isFinished = false ∧ (f i e).listed = e.listed) :
    Registered { m with executions := m.executions.mapIdx f, requests := requests } := by
  intro e he hrunning
  obtain ⟨i, hi, rfl⟩ := List.mem_mapIdx.1 he
  obtain ⟨hfinished, hlisted⟩ := hf i _ (List.getElem?_eq_getElem hi) hrunning
  rw [hlisted]
  exact h _ (List.getElem_mem hi) hfinished

theorem relist (h : Registered m) (told : Nat → Bool) {requests : List Pending}
    (htold : ∀ i e, m.executions[i]? = some e → told i = true → e.isFinished = true) :
    Registered { m with
      executions := m.executions.mapIdx fun i e => { e with listed := e.listed && !told i }
      requests := requests } := by
  refine h.mapIdx fun i e he hrunning => ⟨hrunning, ?_⟩
  have hfalse : told i = false := by
    rw [← Bool.not_eq_true]
    intro ht
    have hfinished := htold i e he ht
    rw [show e.isFinished = false from hrunning] at hfinished
    cases hfinished
  rw [hfalse, Bool.not_false, Bool.and_true]

theorem answer (h : Registered m) : Registered (m.answer now) := by
  rw [answer_eq]
  refine h.relist (fun i => m.requests.any (m.tells now i)) fun i e he htold => ?_
  obtain ⟨q, -, htells⟩ := List.any_eq_true.1 htold
  exact isFinished_of_tells he htells

theorem await (h : Registered m) (i : Nat) : Registered (m.await now i).2 := by
  rw [await_eq]
  exact h.relist (fun j => m.tells now j ⟨some i, now + m.wait, none⟩) fun _ _ he =>
    isFinished_of_tells he

theorem startAccepted {view : NodeView} (h : Registered m) :
    Registered (m.startAccepted view now) := by
  rw [ExecutionManager.startAccepted, map_eq_mapIdx]
  exact h.mapIdx fun _ _ _ hrunning =>
    ⟨by rw [← hrunning, Execution.begin_isFinished], Execution.begin_listed⟩

theorem endRunning (h : Registered m) : Registered (m.endRunning now) :=
  h.mapIdx fun _ _ _ hrunning => ⟨Execution.isFinished_of_finish hrunning, Execution.finish_listed⟩

theorem fire (h : Registered m) (hev : m.evictor = none) :
    Registered (m.fire (view now) now) :=
  fire_induction hev h (fun _ h => h.startAccepted) (fun _ h => h.endRunning) fun _ h => h.answer

theorem perform (h : Registered m) (d : Deed) : Registered (d.perform now m) := by
  refine Deed.keeps_perform (fun request _ _ => Registered.await ?accepting _)
    (fun _ place _ _ => h.await place) (fun _ _ => h) fun _ => ?sweep
  case accepting =>
    intro e he hrunning
    rcases List.mem_append.1 he with he | he
    · exact h e he hrunning
    · rw [List.mem_singleton.1 he]
  case sweep =>
    simp only [evict, map_eq_mapIdx]
    refine h.mapIdx fun i e _ hrunning => ?_
    split at hrunning
    · rename_i hstale
      simp only [isStale, Bool.and_eq_true] at hstale
      rw [show e.isFinished = false from hrunning] at hstale
      exact absurd hstale.1.2 Bool.false_ne_true
    · rename_i hstale
      exact ⟨hrunning, by rw [if_neg hstale]⟩

/-- In every run, executions leave the table only after their end. -/
theorem of_run {config : ExecutionConfig} {origin given start : Nat} {server : Server}
    {handlers : Handlers} {trace : List (Nat × Deed)} {u : Timed ExecutionManager}
    (h : Run (machine view) Deed.perform ⟨start, .new server config handlers ⟨origin, given⟩⟩
      trace u) : Registered u.state :=
  (h.invariant (I := fun _ u => Orderly config origin given u.now u.state ∧ Registered u.state)
    ⟨.new server handlers start, by intro _ he; cases he⟩
    (fun _ _ _ h _ _ => ⟨h.1.fire, h.2.fire h.1.evictor⟩)
    (fun _ _ _ h hle _ => ⟨h.1.later hle, h.2⟩)
    fun _ _ d h => ⟨h.1.perform d, h.2.perform d⟩).2

end Registered

/-- An execution that ends now is in the table, unless somebody is told its outcome now. -/
theorem Kept.of_end {e e' : Execution} (h : Registered m) (hev : m.evictor = none)
    (he : m.executions[place]? = some e) (hrunning : e.isFinished = false)
    (he' : (m.fire (view now) now).executions[place]? = some e') :
    Kept e' place False (m.fire (view now) now) := by
  rw [fire_eq hev] at he' ⊢
  have hregistered : Registered ((m.startAccepted (view now) now).answer now) :=
    h.startAccepted.answer
  -- it runs until handlers end, and is in the table as long as it runs
  obtain ⟨e₁, he₁, hrunning₁⟩ : ∃ e₁,
      ((m.startAccepted (view now) now).answer now).executions[place]? = some e₁ ∧
        e₁.isFinished = false := by
    rw [answer_eq, startAccepted]
    refine ⟨_, by rw [List.getElem?_mapIdx, List.getElem?_map, he]; rfl, ?_⟩
    rw [← hrunning]
    exact Execution.begin_isFinished
  have hlisted : e₁.listed = true := hregistered e₁ (List.mem_of_getElem? he₁) hrunning₁
  have hkept : Kept (e₁.finish now place) place False
      (((m.startAccepted (view now) now).answer now).endRunning now) := by
    refine ⟨true, ?_, False.elim, fun hfalse => by cases hfalse⟩
    rw [ExecutionManager.endRunning, List.getElem?_mapIdx, he₁, Option.map_some, ← hlisted,
      ← Execution.finish_listed]
  -- only those who are told its outcome now take it out
  have hanswered : Kept (e₁.finish now place) place False
      ((((m.startAccepted (view now) now).answer now).endRunning now).answer now) := hkept.answer
  obtain ⟨listed, hget, hrest⟩ := hanswered
  rw [he', Option.some.injEq] at hget
  subst hget
  exact ⟨listed, he', hrest⟩

/-- What somebody is told at once who comes back with an id. -/
def comeBack (m : ExecutionManager) (now : Nat) (id : ExecutionId) : Option CommandReply :=
  (m.reconnect now id).2.reply? (m.reconnect now id).1

/-- What somebody is told at once who comes back with the id of an execution that has ended. -/
theorem comeBack_eq {config : ExecutionConfig} {origin given : Nat} {e : Execution}
    {r : Except String Response} (h : Orderly config origin given now m)
    (he : m.executions[place]? = some e) (hr : e.result? = some r) :
    m.comeBack now e.id =
      some (if e.listed then .ofResult r else .failed ("Unknown execution: " ++ e.id.text)) := by
  rw [comeBack, reconnect, h.find?_eq he]
  cases e.listed with
  | true =>
    simp only [if_true]
    rw [await_eq, reply?, List.getElem?_concat_length, Option.bind_some, respond]
    simp only [Option.isSome_none, Bool.false_eq_true, if_false, replyTo, awaited?,
      Option.bind_some, he, hr]
    cases r <;> rfl
  | false =>
    simp only [Bool.false_eq_true, if_false]
    rw [answered, reply?, List.getElem?_concat_length]
    rfl

variable {config : ExecutionConfig} {origin given : Nat} {server : Server} {handlers : Handlers}
  {start : Nat} {s u : Timed ExecutionManager} {before after : List (Nat × Deed)}

/-- How long the result of an execution is kept while nobody was told it. From the instant at which
the execution ends, whoever comes back with its id is told the result, unless somebody swept in the
meantime, and not before the retention had passed since the *start* of the execution; after such a
sweep the execution is unknown. -/
theorem unclaimed_until_late_sweep {e e' : Execution} {r : Except String Response}
    (hbefore : Run (machine view) Deed.perform ⟨start, .new server config handlers ⟨origin, given⟩⟩
      before s)
    (hrunning : s.state.executions[place]? = some e) (hnot : e.isFinished = false)
    (hended : (s.state.fire (view s.now) s.now).executions[place]? = some e')
    (hresult : e'.result? = some r)
    (hafter : Run (machine view) Deed.perform ⟨s.now, s.state.fire (view s.now) s.now⟩ after u)
    (hunclaimed : ¬ Delivered u.state place) :
    (SweptFrom (e'.started + config.retention.toNat) after →
      u.state.comeBack u.now e'.id =
        some (.failed ("Unknown execution: " ++ e'.id.text))) ∧
    (¬ SweptFrom (e'.started + config.retention.toNat) after →
      u.state.comeBack u.now e'.id = some (.ofResult r)) := by
  have hfinished : e'.isFinished = true := by rw [Execution.isFinished, hresult]; rfl
  have horderly : Orderly config origin given s.now s.state := .of_run hbefore
  have hregistered : Registered s.state := .of_run hbefore
  have hstarted : e'.started ≤ s.now := horderly.fire.started e' (List.mem_of_getElem? hended)
  have hkept : Kept e' place False (s.state.fire (view s.now) s.now) :=
    .of_end hregistered horderly.evictor hrunning hnot hended
  obtain ⟨horderly', listed, hget, hevicted, hreason⟩ :=
    Kept.of_run (t := ⟨s.now, _⟩) hkept hfinished hstarted horderly.fire hafter
  have hreply := comeBack_eq (r := r) horderly' hget hresult
  -- whether the execution is still in the table decides
  constructor
  · intro hswept
    rw [hreply, hevicted hswept]
    rfl
  · intro hswept
    have hlisted : listed = true := by
      rw [← Bool.not_eq_false]
      intro hout
      exact (hreason hout).elim hswept hunclaimed
    rw [hreply, hlisted]
    rfl

/-! ### A result that is gone at once -/

/-- The only command of `slowNode`. -/
def slowRequest : ExecuteRequest := ⟨"slow", .serverRead, .null, []⟩

/-- A node whose only command takes twice as long as results are kept. -/
def slowNode : ExecutionManager :=
  .new ⟨"localhost:1"⟩ ⟨10, 100⟩ [("slow", fun _ => ⟨200, .answers (.serverValue (.nat 1))⟩)] ⟨0, 0⟩

/-- A node without shards. -/
def bareView (now : Nat) : NodeView := ⟨[], .empty, now⟩

/-- The execution of the command. -/
def slowExecution (phase : Phase) : Execution :=
  ⟨⟨IdSupply.name 0 0⟩, slowRequest, 0, phase, 1, true⟩

/-- The node when its command is about to end. -/
def slowAboutToEnd : ExecutionManager :=
  ((slowNode.execute 0 slowRequest).2.fire (bareView 0) 0).fire (bareView 10) 10

/-- The node when its command has just ended. -/
def slowEnded : ExecutionManager := slowAboutToEnd.fire (bareView 200) 200

/-- The slow handler is about to end. -/
theorem run_slowAboutToEnd :
    Run (machine bareView) Deed.perform ⟨0, slowNode⟩ [(0, Deed.execute slowRequest)]
      ⟨200, slowAboutToEnd⟩ := by
  have given : Run (machine bareView) Deed.perform ⟨0, slowNode⟩ [(0, Deed.execute slowRequest)]
      ⟨0, (slowNode.execute 0 slowRequest).2⟩ := Run.start.act (Deed.execute slowRequest)
  have told : Run (machine bareView) Deed.perform ⟨0, slowNode⟩ [(0, Deed.execute slowRequest)]
      ⟨10, slowAboutToEnd⟩ :=
    (given.fireAt (show _ = some 0 from rfl)).fireAt (show _ = some 10 from rfl)
  refine told.pass (by decide) fun d hd => ?_
  have hdue : (machine bareView).due slowAboutToEnd = some 200 := rfl
  rw [hdue] at hd
  exact Nat.le_of_eq (Option.some.inj hd)

theorem slowAboutToEnd_running :
    slowAboutToEnd.executions[0]? =
      some (slowExecution (.running 200 (.answers (.serverValue (.nat 1))))) := rfl

theorem slowEnded_ended :
    slowEnded.executions[0]? = some (slowExecution (.ended (.ok (.serverValue (.nat 1))))) := rfl

/-- Whoever gave the command was told its id only. -/
theorem slowEnded_unclaimed : ¬ Delivered slowEnded 0 := by
  rintro ⟨q, hq, -, hsettles⟩
  rw [show slowEnded.requests = [⟨some 0, 10, some (.running ⟨IdSupply.name 0 0⟩)⟩] from rfl,
    List.mem_singleton] at hq
  rw [hq] at hsettles
  cases hsettles

/-- The retention does not count from the end: a result that nobody was told is gone before the
retention has passed since the handler ended. -/
theorem retention_not_from_end :
    ¬ ∀ (before after : List (Nat × Deed)) (s u : Timed ExecutionManager) (place : Nat)
      (e e' : Execution) (r : Except String Response),
      Run (machine bareView) Deed.perform ⟨0, slowNode⟩ before s →
      s.state.executions[place]? = some e → e.isFinished = false →
      (s.state.fire (bareView s.now) s.now).executions[place]? = some e' → e'.result? = some r →
      Run (machine bareView) Deed.perform ⟨s.now, s.state.fire (bareView s.now) s.now⟩ after u →
      ¬ Delivered u.state place → u.now < s.now + slowNode.retention →
      u.state.comeBack u.now e'.id = some (.ofResult r) := by
  intro h
  have hreply := h _ [(200, .sweep)] ⟨200, slowAboutToEnd⟩ ⟨200, (slowEnded.evict 200).2⟩ 0 _ _ _
    run_slowAboutToEnd rfl rfl rfl rfl (Run.start.act Deed.sweep) slowEnded_unclaimed (by decide)
  cases hreply

/-- Without a sweep the result is there, with one it is gone. -/
theorem slow_result_until_sweep :
    slowEnded.comeBack 200 ⟨IdSupply.name 0 0⟩ = some (.complete (.serverValue (.nat 1))) ∧
      (slowEnded.evict 200).2.comeBack 200 ⟨IdSupply.name 0 0⟩ =
        some (.failed ("Unknown execution: " ++ IdSupply.name 0 0)) :=
  ⟨(unclaimed_until_late_sweep run_slowAboutToEnd slowAboutToEnd_running rfl slowEnded_ended rfl
      Run.start slowEnded_unclaimed).2 (fun ⟨_, hmem, _⟩ => by cases hmem),
    (unclaimed_until_late_sweep run_slowAboutToEnd slowAboutToEnd_running rfl slowEnded_ended rfl
      (Run.start.act Deed.sweep) slowEnded_unclaimed).1
      ⟨200, List.mem_singleton.2 rfl, by decide⟩⟩

end ExecutionManager

end ScatterSearch
