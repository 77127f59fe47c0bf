import ScatterSearch.Proofs.Execution.Retention
import ScatterSearch.Proofs.Lists

/-!
# What a node answers

Whatever holds of the outcomes of a node's handlers from some time on holds of what the node answers
to those who gave their commands since: a request, also one that comes back to an execution, is
answered with an outcome for the command that it is about.

* `records` and `errands` are what a manager never forgets (`Extends`): the ids and requests of its
  executions, and for which execution each request waits;
* `Names` and `Serves` say in these terms what an id and a request are about;
* `Faithful` is the invariant: `R` holds of the outcomes of the executions from the place `since`
  on.
-/

namespace ScatterSearch

namespace ExecutionManager

/-- The ids and requests of the executions. -/
def records (m : ExecutionManager) : List (ExecutionId × ExecuteRequest) :=
  m.executions.map fun e => (e.id, e.request)

/-- The executions that the requests wait for. -/
def errands (m : ExecutionManager) : List (Option Nat) := m.requests.map (·.execution)

/-- A manager has forgotten nothing that another one knew. -/
structure Extends (m m' : ExecutionManager) : Prop where
  server_eq : m'.server = m.server
  handlers_eq : m'.handlers = m.handlers
  records : m.records <+: m'.records
  errands : m.errands <+: m'.errands

/-- An id is that of an execution of a request, which is not one of the first `since`. -/
def Names (since : Nat) (m : ExecutionManager) (id : ExecutionId) (request : ExecuteRequest) :
    Prop :=
  ∃ place, since ≤ place ∧ m.records[place]? = some (id, request)

/-- The request at a place, if it waits for any execution, waits for one of the given request, which
is not one of the first `since`. -/
def Serves (since : Nat) (m : ExecutionManager) (ticket : Nat) (request : ExecuteRequest) : Prop :=
  ∃ execution, m.errands[ticket]? = some execution ∧ ∀ place, execution = some place →
    since ≤ place ∧ ∃ id, m.records[place]? = some (id, request)

/-- A reply to a request that waits for an execution is about that execution: a response is an
outcome of which `R` holds, an id is the execution's. -/
def Told (since : Nat) (R : ExecuteRequest → Outcome → Prop)
    (records : List (ExecutionId × ExecuteRequest)) (execution : Option Nat) : CommandReply → Prop
  | .complete r => ∃ place id request, execution = some place ∧
      records[place]? = some (id, request) ∧ (since ≤ place → R request (.answers r))
  | .running id => ∃ place request, execution = some place ∧
      records[place]? = some (id, request)
  | .failed _ => True

/-- A manager whose executions, but for the first `since`, ended as `R` says, and who has told the
truth about it. -/
structure Faithful (since : Nat) (R : ExecuteRequest → Outcome → Prop) (m : ExecutionManager) :
    Prop where
  numbered : ∃ origin given, Numbered origin given m
  since_le : since ≤ m.executions.length
  running : ∀ (place : Nat) (e : Execution), m.executions[place]? = some e → since ≤ place →
    ∀ ends outcome, e.phase = .running ends outcome → R e.request outcome
  ended : ∀ (place : Nat) (e : Execution), m.executions[place]? = some e → since ≤ place →
    ∀ r, e.phase = .ended (.ok r) → R e.request (.answers r)
  told : ∀ q ∈ m.requests, ∀ reply, q.reply = some reply →
    Told since R m.records q.execution reply

variable {since : Nat} {R : ExecuteRequest → Outcome → Prop} {m m' m'' : ExecutionManager}
  {now : Nat}

/-! ## Nothing is forgotten -/

namespace Extends

theorem refl (m : ExecutionManager) : Extends m m :=
  ⟨rfl, rfl, List.prefix_refl _, List.prefix_refl _⟩

theorem trans (h : Extends m m') (h' : Extends m' m'') : Extends m m'' :=
  ⟨h'.server_eq.trans h.server_eq, h'.handlers_eq.trans h.handlers_eq,
    h.records.trans h'.records, h.errands.trans h'.errands⟩

/-- An id that named an execution still does. -/
theorem names (h : Extends m m') {id : ExecutionId} {request : ExecuteRequest}
    (hnames : m.Names since id request) : m'.Names since id request := by
  obtain ⟨place, hsince, hget⟩ := hnames
  exact ⟨place, hsince, Lists.getElem?_of_prefix h.records hget⟩

/-- A request that was answered by an execution still is. -/
theorem serves (h : Extends m m') {ticket : Nat} {request : ExecuteRequest}
    (hserves : m.Serves since ticket request) : m'.Serves since ticket request := by
  obtain ⟨execution, hget, hrecord⟩ := hserves
  refine ⟨execution, Lists.getElem?_of_prefix h.errands hget, fun place hplace => ?_⟩
  obtain ⟨hsince, id, hid⟩ := hrecord place hplace
  exact ⟨hsince, id, Lists.getElem?_of_prefix h.records hid⟩

end Extends

/-- What was true of the records is true of more of them. -/
theorem Told.mono {records records' : List (ExecutionId × ExecuteRequest)} {execution : Option Nat}
    {reply : CommandReply} (hrecords : records <+: records')
    (h : Told since R records execution reply) :
    Told since R records' execution reply := by
  cases reply with
  | complete r =>
    obtain ⟨place, id, request, hplace, hget, hr⟩ := h
    exact ⟨place, id, request, hplace, Lists.getElem?_of_prefix hrecords hget, hr⟩
  | running id =>
    obtain ⟨place, request, hplace, hget⟩ := h
    exact ⟨place, request, hplace, Lists.getElem?_of_prefix hrecords hget⟩
  | failed message => trivial

/-- What happens to executions changes neither their ids nor their requests. -/
theorem records_mapIdx {f : Nat → Execution → Execution} {requests : List Pending}
    {evictor : Option Ticker} (hid : ∀ i e, (f i e).id = e.id)
    (hrequest : ∀ i e, (f i e).request = e.request) :
    ({ m with executions := m.executions.mapIdx f, requests, evictor } : ExecutionManager).records =
      m.records :=
  Lists.map_mapIdx_eq (fun i e => by rw [hid, hrequest]) _

/-- Executions that keep their ids and requests stay on record. -/
theorem extends_mapIdx {f : Nat → Execution → Execution} {requests : List Pending}
    {evictor : Option Ticker} (hid : ∀ i e, (f i e).id = e.id)
    (hrequest : ∀ i e, (f i e).request = e.request)
    (herrands : m.errands <+: requests.map (·.execution)) :
    Extends m { m with executions := m.executions.mapIdx f, requests, evictor } where
  server_eq := rfl
  handlers_eq := rfl
  records := (records_mapIdx hid hrequest).symm ▸ List.prefix_refl _
  errands := herrands

/-- To be answered changes no request's execution. -/
theorem errands_respond (m : ExecutionManager) (now : Nat) :
    (m.requests.map (m.respond now)).map (·.execution) = m.errands := by
  rw [errands, List.map_map]
  refine List.map_congr_left fun q _ => ?_
  rw [Function.comp_apply, respond]
  split <;> rfl

/-- To answer requests is to go on. -/
theorem extends_answer (m : ExecutionManager) (now : Nat) : m.Extends (m.answer now) := by
  rw [answer_eq]
  exact extends_mapIdx (fun _ _ => rfl) (fun _ _ => rfl)
    ((errands_respond m now).symm ▸ List.prefix_refl _)

/-- To wait for an execution adds a request. -/
theorem extends_await (m : ExecutionManager) (now place : Nat) :
    m.Extends (m.await now place).2 := by
  rw [await_eq]
  refine extends_mapIdx (fun _ _ => rfl) (fun _ _ => rfl) ?_
  rw [List.map_append]
  exact List.prefix_append _ _

/-- To answer at once adds a request. -/
theorem extends_answered (m : ExecutionManager) (reply : CommandReply) :
    m.Extends (m.answered reply).2 := by
  refine ⟨rfl, rfl, List.prefix_refl _, ?_⟩
  rw [answered, errands, errands, List.map_append]
  exact List.prefix_append _ _

/-- To accept a request adds an execution. -/
theorem extends_accepting (m : ExecutionManager) (now : Nat) (request : ExecuteRequest) :
    m.Extends (m.accepting now request) := by
  refine ⟨rfl, rfl, ?_, List.prefix_refl _⟩
  rw [accepting, records, records, List.map_append]
  exact List.prefix_append _ _

/-- What it is to evict. -/
theorem evict_eq : (m.evict now).2 = { m with
    executions := m.executions.mapIdx fun _ e =>
      { e with listed := !isStale m.retention now e && e.listed } } := by
  have hone : ∀ e : Execution,
      (if isStale m.retention now e then { e with listed := false } else e) =
      { e with listed := !isStale m.retention now e && e.listed } := by
    intro e
    split
    · rename_i hstale
      rw [hstale]
      rfl
    · rename_i hstale
      rw [Bool.not_eq_true] at hstale
      rw [hstale]
      rfl
  simp only [evict, hone, map_eq_mapIdx]

/-- To evict takes ids out of the table; the records stay. -/
theorem extends_evict (m : ExecutionManager) (now : Nat) : m.Extends (m.evict now).2 := by
  rw [evict_eq]
  exact extends_mapIdx (fun _ _ => rfl) (fun _ _ => rfl) (List.prefix_refl _)

theorem extends_fireEvictor (m : ExecutionManager) (now : Nat) :
    m.Extends (m.fireEvictor now) := by
  rw [fireEvictor]
  split
  · split
    · exact { extends_evict m now with }
    · exact .refl m
  · exact .refl m

/-- Nothing that happens at a turn takes a record away. -/
theorem extends_fire (m : ExecutionManager) (view : NodeView) (now : Nat) :
    m.Extends (m.fire view now) := by
  have hstarts : m.Extends (m.startAccepted view now) := by
    rw [startAccepted, map_eq_mapIdx]
    exact extends_mapIdx (fun _ _ => Execution.begin_id) (fun _ _ => Execution.begin_request)
      (List.prefix_refl _)
  have hends : ∀ m : ExecutionManager, m.Extends (m.endRunning now) := fun m =>
    extends_mapIdx (fun _ _ => Execution.finish_id) (fun _ _ => Execution.finish_request)
      (List.prefix_refl _)
  exact (((hstarts.trans (extends_answer _ _)).trans (hends _)).trans (extends_answer _ _)).trans
    (extends_fireEvictor _ _)

/-! ## What a reply tells -/

namespace Faithful

/-- A reply that is given now is true. -/
theorem told_replyTo (h : Faithful since R m) {p : Pending} {reply : CommandReply}
    (hreply : m.replyTo now p = some reply) : Told since R m.records p.execution reply := by
  rcases p with ⟨_ | place, deadline, already⟩
  · -- a request that was refused is not answered again
    cases hreply
  · simp only [replyTo, awaited?, Option.bind_some] at hreply
    cases he : m.executions[place]? with
    | none =>
      rw [he] at hreply
      cases hreply
    | some e =>
      have hrecord : m.records[place]? = some (e.id, e.request) := by
        rw [records, List.getElem?_map, he]
        rfl
      simp only [he] at hreply
      cases hresult : e.result? with
      | none =>
        simp only [hresult] at hreply
        split at hreply
        · rw [← Option.some.inj hreply]
          exact ⟨place, e.request, rfl, hrecord⟩
        · cases hreply
      | some result =>
        simp only [hresult] at hreply
        cases result with
        | error message =>
          rw [← Option.some.inj hreply]
          trivial
        | ok r =>
          rw [← Option.some.inj hreply]
          refine ⟨place, e.id, e.request, rfl, hrecord, ?_⟩
          intro hsince
          refine h.ended place e he hsince r ?_
          rw [Execution.result?] at hresult
          split at hresult
          · rename_i hphase
            rw [hphase, Option.some.inj hresult]
          · cases hresult

/-- A request that is answered now is told the truth. -/
theorem told_respond (h : Faithful since R m) {q : Pending}
    (hq : ∀ reply, q.reply = some reply → Told since R m.records q.execution reply)
    {reply : CommandReply} (hreply : (m.respond now q).reply = some reply) :
    Told since R m.records (m.respond now q).execution reply := by
  rw [respond] at hreply ⊢
  split at hreply
  · rename_i hsome
    rw [if_pos hsome]
    exact hq reply hreply
  · rename_i hnone
    rw [if_neg hnone]
    exact h.told_replyTo hreply

/-! ## Steps -/

/-- Executions may change their phases as long as these are as `R` says. -/
theorem mapIdx (h : Faithful since R m) {f : Nat → Execution → Execution} {requests : List Pending}
    {evictor : Option Ticker} (hid : ∀ i e, (f i e).id = e.id)
    (hrequest : ∀ i e, (f i e).request = e.request)
    (hrunning : ∀ i e, m.executions[i]? = some e → since ≤ i → ∀ ends outcome,
      (f i e).phase = .running ends outcome → R e.request outcome)
    (hended : ∀ i e, m.executions[i]? = some e → since ≤ i → ∀ r,
      (f i e).phase = .ended (.ok r) → R e.request (.answers r))
    (htold : ∀ q ∈ requests, ∀ reply, q.reply = some reply →
      Told since R m.records q.execution reply) :
    Faithful since R { m with executions := m.executions.mapIdx f, requests, evictor } where
  numbered := by
    obtain ⟨origin, given, hnumbered⟩ := h.numbered
    exact ⟨origin, given, hnumbered.mapIdx hid⟩
  since_le := by
    rw [List.length_mapIdx]
    exact h.since_le
  running := by
    intro i e he hsince ends outcome hphase
    rw [List.getElem?_mapIdx, Option.map_eq_some_iff] at he
    obtain ⟨e₀, he₀, rfl⟩ := he
    rw [hrequest]
    exact hrunning i e₀ he₀ hsince ends outcome hphase
  ended := by
    intro i e he hsince r hphase
    rw [List.getElem?_mapIdx, Option.map_eq_some_iff] at he
    obtain ⟨e₀, he₀, rfl⟩ := he
    rw [hrequest]
    exact hended i e₀ he₀ hsince r hphase
  told := by
    intro q hq reply hreply
    rw [records_mapIdx hid hrequest]
    exact htold q hq reply hreply

/-- Executions may enter and leave the table. -/
theorem relist (h : Faithful since R m) {listed : Nat → Execution → Bool} {requests : List Pending}
    {evictor : Option Ticker}
    (htold : ∀ q ∈ requests, ∀ reply, q.reply = some reply →
      Told since R m.records q.execution reply) :
    Faithful since R { m with
      executions := m.executions.mapIdx fun i e => { e with listed := listed i e }
      requests, evictor } :=
  h.mapIdx (fun _ _ => rfl) (fun _ _ => rfl) h.running h.ended htold

theorem answer (h : Faithful since R m) : Faithful since R (m.answer now) := by
  rw [answer_eq]
  refine h.relist fun q hq reply hreply => ?_
  obtain ⟨q₀, hq₀, rfl⟩ := List.mem_map.1 hq
  exact h.told_respond (h.told q₀ hq₀) hreply

theorem startAccepted (h : Faithful since R m) {view : NodeView}
    (hruns : ∀ request, R request (m.run view request).outcome) :
    Faithful since R (m.startAccepted view now) := by
  rw [ExecutionManager.startAccepted, map_eq_mapIdx]
  refine h.mapIdx (fun _ _ => Execution.begin_id) (fun _ _ => Execution.begin_request) ?_ ?_ h.told
  · intro i e he hsince ends outcome hphase
    rw [Execution.begin] at hphase
    split at hphase
    · obtain ⟨-, rfl⟩ := Phase.running.inj hphase
      exact hruns e.request
    · exact h.running i e he hsince ends outcome hphase
  · intro i e he hsince r hphase
    rw [Execution.begin] at hphase
    split at hphase
    · cases hphase
    · exact h.ended i e he hsince r hphase

theorem endRunning (h : Faithful since R m) : Faithful since R (m.endRunning now) := by
  refine h.mapIdx (fun _ _ => Execution.finish_id) (fun _ _ => Execution.finish_request) ?_ ?_
    h.told
  · intro i e he hsince ends outcome hphase
    rw [Execution.finish] at hphase
    split at hphase
    · split at hphase
      · cases hphase
      · exact h.running i e he hsince ends outcome hphase
    · exact h.running i e he hsince ends outcome hphase
  · intro i e he hsince r hphase
    rw [Execution.finish] at hphase
    split at hphase
    · rename_i ends outcome hrunning
      split at hphase
      · rw [Execution.eq_answers (Phase.ended.inj hphase)] at hrunning
        exact h.running i e he hsince ends _ hrunning
      · exact h.ended i e he hsince r hphase
    · exact h.ended i e he hsince r hphase

theorem evict (h : Faithful since R m) : Faithful since R (m.evict now).2 := by
  rw [evict_eq]
  exact h.relist h.told

theorem fireEvictor (h : Faithful since R m) : Faithful since R (m.fireEvictor now) := by
  rw [ExecutionManager.fireEvictor]
  split
  · split
    · rw [evict_eq]
      exact h.relist h.told
    · exact h
  · exact h

/-- An action keeps a manager faithful if the handlers that start are. -/
theorem fire (h : Faithful since R m) {view : NodeView}
    (hruns : ∀ request, R request (m.run view request).outcome) :
    Faithful since R (m.fire view now) :=
  (h.startAccepted hruns).answer.endRunning.answer.fireEvictor

theorem await (h : Faithful since R m) (place : Nat) : Faithful since R (m.await now place).2 := by
  rw [await_eq]
  refine h.relist fun q hq reply hreply => ?_
  rcases List.mem_append.1 hq with hq | hq
  · exact h.told q hq reply hreply
  · obtain rfl := List.mem_singleton.1 hq
    exact h.told_respond (fun _ hnone => by cases hnone) hreply

theorem answered (h : Faithful since R m) (message : String) :
    Faithful since R (m.answered (.failed message)).2 where
  numbered := by
    obtain ⟨origin, given, hnumbered⟩ := h.numbered
    exact ⟨origin, given, hnumbered.ids, hnumbered.id_eq⟩
  since_le := h.since_le
  running := h.running
  ended := h.ended
  told := by
    intro q hq reply hreply
    rcases List.mem_append.1 hq with hq | hq
    · exact h.told q hq reply hreply
    · obtain rfl := List.mem_singleton.1 hq
      obtain rfl := Option.some.inj hreply
      trivial

theorem accept (h : Faithful since R m) (request : ExecuteRequest) :
    Faithful since R (m.accepting now request) where
  numbered := by
    obtain ⟨origin, given, hnumbered⟩ := h.numbered
    exact ⟨origin, given, hnumbered.accept request⟩
  since_le := by
    rw [accepting, List.length_append]
    exact Nat.le_add_right_of_le h.since_le
  running := by
    intro i e he hsince ends outcome hphase
    rcases Lists.getElem?_concat he with he | ⟨-, rfl⟩
    · exact h.running i e he hsince ends outcome hphase
    · cases hphase
  ended := by
    intro i e he hsince r hphase
    rcases Lists.getElem?_concat he with he | ⟨-, rfl⟩
    · exact h.ended i e he hsince r hphase
    · cases hphase
  told := by
    intro q hq reply hreply
    exact (h.told q hq reply hreply).mono (extends_accepting m now request).records

theorem start (h : Faithful since R m) : Faithful since R (m.start now) := by
  obtain ⟨origin, given, hnumbered⟩ := h.numbered
  exact ⟨⟨origin, given, { hnumbered with }⟩, h.since_le, h.running, h.ended, h.told⟩

theorem shutdown (h : Faithful since R m) : Faithful since R m.shutdown := by
  refine h.mapIdx (fun _ _ => by split <;> rfl) (fun _ _ => by split <;> rfl) ?_ ?_ h.told
  · intro i e he hsince ends outcome hphase
    split at hphase
    · exact h.running i e he hsince ends outcome hphase
    · cases hphase
  · intro i e he hsince r hphase
    split at hphase
    · exact h.ended i e he hsince r hphase
    · cases hphase

theorem perform (h : Faithful since R m) (d : Deed) : Faithful since R (d.perform now m) :=
  Deed.keeps_perform (fun request _ _ => (h.accept request).await _)
    (fun _ place _ _ => h.await place) (fun _ message => h.answered message) fun _ => h.evict

end Faithful

/-! ## Requests -/

/-- Whatever is done, the records grow. -/
theorem extends_perform (m : ExecutionManager) (now : Nat) (d : Deed) :
    m.Extends (d.perform now m) :=
  Deed.keeps_perform
    (fun request _ _ => (extends_accepting m now request).trans (extends_await _ _ _))
    (fun _ place _ _ => extends_await m now place) (fun _ _ => extends_answered m _)
    fun _ => extends_evict m now

theorem extends_start (m : ExecutionManager) (now : Nat) : m.Extends (m.start now) :=
  ⟨rfl, rfl, List.prefix_refl _, List.prefix_refl _⟩

theorem extends_shutdown (m : ExecutionManager) : m.Extends m.shutdown :=
  extends_mapIdx (fun _ _ => by split <;> rfl) (fun _ _ => by split <;> rfl) (List.prefix_refl _)

/-- One who waits for an execution of a request is served by it. -/
theorem serves_await {place : Nat} {request : ExecuteRequest}
    (hsince : since ≤ place) (h : ∃ id, m.records[place]? = some (id, request)) :
    (m.await now place).2.Serves since (m.await now place).1 request := by
  obtain ⟨id, h⟩ := h
  refine ⟨some place, ?_, fun place' hplace => ?_⟩
  · rw [await_eq, errands, List.map_append, ← List.length_map (f := (·.execution))]
    rw [List.getElem?_append_right (Nat.le_refl _), Nat.sub_self]
    rfl
  · obtain rfl := Option.some.inj hplace
    exact ⟨hsince, id, Lists.getElem?_of_prefix (extends_await m now place).records h⟩

/-- One who is answered at once is served by no execution. -/
theorem serves_answered (reply : CommandReply) (request : ExecuteRequest) :
    (m.answered reply).2.Serves since (m.answered reply).1 request := by
  refine ⟨none, ?_, fun _ hplace => by cases hplace⟩
  rw [answered, errands, List.getElem?_map, List.getElem?_concat_length]
  rfl

/-- Whoever gives a command gets what is about that command. -/
theorem serves_execute (h : Faithful since R m) (request : ExecuteRequest) :
    (m.execute now request).2.Serves since (m.execute now request).1 request := by
  rw [execute_eq]
  split
  · refine serves_await h.since_le ⟨⟨m.ids.draw.1⟩, ?_⟩
    rw [accepting, records, List.getElem?_map, List.getElem?_concat_length]
    rfl
  · exact serves_answered _ _

/-- Whoever comes back with an id gets what is about the command of that id. -/
theorem serves_reconnect (h : Faithful since R m) {id : ExecutionId} {request : ExecuteRequest}
    (hnames : m.Names since id request) :
    (m.reconnect now id).2.Serves since (m.reconnect now id).1 request := by
  rw [reconnect]
  split
  · rename_i place hfind
    obtain ⟨origin, given, hnumbered⟩ := h.numbered
    obtain ⟨place', hsince, hrecord⟩ := hnames
    obtain ⟨e, he, heq⟩ := Option.map_eq_some_iff.1 ((List.getElem?_map ..).symm.trans hrecord)
    obtain ⟨hlt, hfound, -⟩ := List.findIdx?_eq_some_iff_getElem.1 hfind
    have hid : m.executions[place].id = e.id := by
      rw [Bool.and_eq_true, decide_eq_true_eq] at hfound
      rw [hfound.2, (Prod.mk.inj heq).1]
    rw [hnumbered.place_eq (List.getElem?_eq_getElem hlt) he hid]
    exact serves_await hsince ⟨id, hrecord⟩
  · exact serves_answered _ _

/-- What a manager does about a request: it executes a command, or comes back to an execution. -/
def receive (m : ExecutionManager) (now : Nat) (request : ExecuteRequest) :
    Option ExecutionId → Nat × ExecutionManager
  | none => m.execute now request
  | some id => m.reconnect now id

variable {request : ExecuteRequest} {id : Option ExecutionId}

/-- A request, new or come back, only adds to the records. -/
theorem extends_receive : m.Extends (m.receive now request id).2 := by
  cases id with
  | none => exact extends_perform m now (.execute request)
  | some id => exact extends_perform m now (.reconnect id)

/-- A request, new or come back, leaves all replies true. -/
theorem Faithful.receive (h : Faithful since R m) :
    Faithful since R (m.receive now request id).2 := by
  cases id with
  | none => exact h.perform (.execute request)
  | some id => exact h.perform (.reconnect id)

/-- A request is served by an execution of it, or by none. -/
theorem serves_receive (h : Faithful since R m)
    (hnames : ∀ i, id = some i → m.Names since i request) :
    (m.receive now request id).2.Serves since (m.receive now request id).1 request := by
  cases id with
  | none => exact serves_execute h request
  | some id => exact serves_reconnect h (hnames id rfl)

/-- Of the executions that there are nothing more is said. -/
theorem Faithful.renew (h : Faithful since R m) (R' : ExecuteRequest → Outcome → Prop) :
    Faithful m.executions.length R' m where
  numbered := h.numbered
  since_le := Nat.le_refl _
  running := fun place e he hplace =>
    absurd (List.getElem?_eq_some_iff.1 he).1 (Nat.not_lt_of_le hplace)
  ended := fun place e he hplace =>
    absurd (List.getElem?_eq_some_iff.1 he).1 (Nat.not_lt_of_le hplace)
  told := by
    intro q hq reply hreply
    have htold := h.told q hq reply hreply
    cases reply with
    | complete r =>
      obtain ⟨place, id, request, hplace, hget, -⟩ := htold
      refine ⟨place, id, request, hplace, hget, fun hle => ?_⟩
      have hlt : place < m.records.length := (List.getElem?_eq_some_iff.1 hget).1
      rw [records, List.length_map] at hlt
      exact absurd hlt (Nat.not_lt_of_le hle)
    | running id => exact htold
    | failed message => trivial

/-- What a request is told is about the command that it serves. -/
theorem Faithful.reply (h : Faithful since R m) {ticket : Nat} {reply : CommandReply}
    (hserves : m.Serves since ticket request)
    (hreply : m.reply? ticket = some reply) :
    (∀ r, reply = .complete r → R request (.answers r)) ∧
      ∀ id, reply = .running id → m.Names since id request := by
  obtain ⟨execution, herrand, hrecord⟩ := hserves
  obtain ⟨q, hq, hqreply⟩ := Option.bind_eq_some_iff.1 hreply
  -- the reply is about the execution that the request waits for, and so is what is served
  have htold := h.told q (List.mem_of_getElem? hq) reply hqreply
  have hexecution : q.execution = execution := by
    rw [errands, List.getElem?_map, hq] at herrand
    exact Option.some.inj herrand
  rw [hexecution] at htold
  constructor
  · rintro r rfl
    obtain ⟨place, id, request', hplace, hget, hr⟩ := htold
    obtain ⟨hsince, id', hget'⟩ := hrecord place hplace
    obtain ⟨-, rfl⟩ := Prod.mk.inj (Option.some.inj (hget.symm.trans hget'))
    exact hr hsince
  · rintro id rfl
    obtain ⟨place, request', hplace, hget⟩ := htold
    obtain ⟨hsince, id', hget'⟩ := hrecord place hplace
    obtain ⟨-, rfl⟩ := Prod.mk.inj (Option.some.inj (hget.symm.trans hget'))
    exact ⟨place, hsince, hget⟩

end ExecutionManager

end ScatterSearch
