import Mathlib.Data.List.Induction
import ScatterSearch.Proofs.Execution.Turns

/-!
# Who is in the table

An execution leaves the table in two ways: somebody is told its outcome, or a sweep evicts it. Both
can come at any time while others wait for the same execution or have given up. Here is, over all
lists of turns, what the table comes to:

* `Filed`: the executions are those of the commands that were accepted, each with an id of its own;
* `Tabled`: an execution is in the table unless somebody was told its outcome or a sweep evicted it,
  and it was not evicted before its end (`Registered`);
* `runs_of_perform`: whoever is told that an execution runs is told the id of one that does;
* `reconnect_of_notMem`: an id that is not in the table is refused, and nothing else happens.

`table_invariant` puts them together.
-/

namespace ScatterSearch

/-- Whoever had a request was told the outcome of the execution at a place. -/
def Pending.Told (q : Pending) (place : Nat) : Prop :=
  q.execution = some place ∧ q.reply.any ExecutionManager.settles = true

namespace ExecutionManager

/-- The ids in the table. -/
def table (m : ExecutionManager) : List ExecutionId :=
  (m.executions.filter (·.listed)).map (·.id)

/-- The execution at a place is in the table. -/
def Listed (m : ExecutionManager) (place : Nat) : Prop :=
  ∃ e, m.executions[place]? = some e ∧ e.listed = true

/-- Whether executions may be evicted in a turn. -/
def Turn.sweeps : Turn → Bool
  | .deed .sweep => true
  | .tick => true
  | _ => false

/-- A sweep took the execution at a place out of the table. -/
def Evicted (view : Nat → NodeView) (m : ExecutionManager) (turns : List (Nat × Turn))
    (place : Nat) : Prop :=
  ∃ before now turn later, turns = before ++ (now, turn) :: later ∧ turn.sweeps = true ∧
    (m.after view before).Listed place ∧
      ¬ (turn.perform (view now) now (m.after view before)).Listed place

/-- A manager whose executions are those of the commands that it accepted in some turns, each with
an id of its own. -/
structure Filed (handlers : Handlers) (server : Server) (origin given : Nat)
    (turns : List (Nat × Turn)) (m : ExecutionManager) : Prop extends
    Numbered origin given m, Accounts handlers server (deeds turns) m

/-- A manager that took only executions out of the table that have ended, namely those whose outcome
somebody was told, and those that were `evicted`. -/
structure Tabled (evicted : Nat → Prop) (m : ExecutionManager) : Prop where
  registered : Registered m
  listed_iff : ∀ place, m.Listed place ↔
    place < m.executions.length ∧ ¬ Delivered m place ∧ ¬ evicted place
  awaited_lt : ∀ q ∈ m.requests, ∀ place, q.execution = some place → place < m.executions.length
  evicted_lt : ∀ place, evicted place → place < m.executions.length

variable {view : Nat → NodeView} {m m' : ExecutionManager} {now place : Nat}
  {turns : List (Nat × Turn)} {turn : Turn} {id : ExecutionId}

/-! ## Executions are filed under the accepted commands -/

/-- To look at one request is to do nothing if there is none. -/
theorem answerOne_cases (m : ExecutionManager) (now ticket : Nat) :
    (answerOne now m ticket = m) ∨ ∃ q, m.requests[ticket]? = some q ∧
      answerOne now m ticket = { m with
        requests := m.requests.set ticket (m.respond now q)
        executions := m.executions.mapIdx fun place e =>
          { e with listed := e.listed && !m.tells now place q } } := by
  cases hq : m.requests[ticket]? with
  | none => exact .inl (by simp only [answerOne, hq])
  | some q => exact .inr ⟨q, rfl, answerOne_eq hq⟩

/-- To give up a request is to do nothing if it was answered. -/
theorem abandon_cases (m : ExecutionManager) (ticket : Nat) :
    (m.abandon ticket = m) ∨ ∃ q, m.requests[ticket]? = some q ∧ q.reply = none ∧
      m.abandon ticket =
        { m with requests := m.requests.set ticket { q with execution := none } } := by
  rw [abandon, List.modify_eq_set_getElem?]
  cases hq : m.requests[ticket]? with
  | none => exact .inl rfl
  | some q =>
    obtain ⟨hlt, hget⟩ := List.getElem?_eq_some_iff.1 hq
    cases hreply : q.reply with
    | none => exact .inr ⟨q, rfl, hreply, by simp [hreply]⟩
    | some reply =>
      have hself : m.requests.set ticket q = m.requests := by rw [← hget, List.set_getElem_self]
      exact .inl (by simp [hreply, hself])

namespace Numbered

variable {origin given : Nat}

theorem await (h : Numbered origin given m) (place : Nat) :
    Numbered origin given (m.await now place).2 := by
  rw [await_eq]
  exact h.mapIdx fun _ _ => rfl

theorem deed (h : Numbered origin given m) (d : Deed) :
    Numbered origin given (d.perform now m) := by
  refine Deed.keeps_perform (fun request _ _ => (h.accept request).await _)
    (fun _ place _ _ => h.await place) (fun _ _ => { h with }) fun _ => ?_
  rw [evict_eq]
  exact h.mapIdx fun _ _ => rfl

end Numbered

namespace Filed

variable {handlers : Handlers} {server : Server} {origin given : Nat}

theorem new (server : Server) (config : ExecutionConfig) (handlers : Handlers)
    (origin given : Nat) :
    Filed handlers server origin given [] (.new server config handlers ⟨origin, given⟩) where
  ids := rfl
  id_eq := by
    intro i e he
    cases he
  toAccounts := .new server config handlers _

/-- Executions may change in all but what they are filed under. -/
theorem mapIdx (h : Filed handlers server origin given turns m) {f : Nat → Execution → Execution}
    {requests : List Pending} {evictor : Option Ticker}
    (hf : ∀ i e, (f i e).id = e.id ∧ (f i e).request = e.request ∧ (f i e).started = e.started) :
    Filed handlers server origin given turns
      { m with executions := m.executions.mapIdx f, requests, evictor } where
  toNumbered := h.toNumbered.mapIdx fun i e => (hf i e).1
  handlers_eq := h.handlers_eq
  server_eq := h.server_eq
  executions_eq :=
    (Lists.map_mapIdx_eq (fun i e => by rw [(hf i e).2.1, (hf i e).2.2]) _).trans h.executions_eq

theorem change (h : Filed handlers server origin given turns m) {f : Execution → Execution}
    (hf : ∀ e, (f e).id = e.id ∧ (f e).request = e.request ∧ (f e).started = e.started)
    (place : Nat) : Filed handlers server origin given turns (m.change place f) := by
  rw [ExecutionManager.change, modify_eq_mapIdx]
  refine h.mapIdx fun i e => ?_
  split
  · exact hf e
  · exact ⟨rfl, rfl, rfl⟩

theorem perform (h : Filed handlers server origin given turns m) (turn : Turn) :
    Filed handlers server origin given (turns ++ [(now, turn)])
      (turn.perform (view now) now m) := by
  -- but for what others do nothing is accepted
  have same : deeds [(now, turn)] = [] → ∀ {m' : ExecutionManager},
      Filed handlers server origin given turns m' →
        Filed handlers server origin given (turns ++ [(now, turn)]) m' := by
    intro hnone m' h'
    refine { h' with executions_eq := ?_ }
    rw [deeds_append, hnone, List.append_nil]
    exact h'.executions_eq
  cases turn with
  | deed d =>
    have haccounts : Accounts handlers server (deeds turns ++ [(now, d)]) (d.perform now m) :=
      h.toAccounts.perform d
    refine { h.toNumbered.deed d, haccounts with executions_eq := ?_ }
    rw [deeds_append]
    exact haccounts.executions_eq
  | abandon ticket => exact same rfl { h with }
  | start => exact same rfl { h with }
  | begin place =>
    refine same rfl (h.change (fun e => ⟨?_, ?_, ?_⟩) place)
    all_goals simp
  | finish place =>
    refine same rfl (h.change (fun e => ⟨?_, ?_, ?_⟩) place)
    all_goals simp
  | answer ticket =>
    refine same rfl ?_
    rcases answerOne_cases m now ticket with hsame | ⟨q, -, hone⟩
    · rw [Turn.perform, hsame]
      exact h
    · rw [Turn.perform, hone]
      exact h.mapIdx fun _ _ => ⟨rfl, rfl, rfl⟩
  | tick =>
    refine same rfl ?_
    rw [Turn.perform, fireEvictor]
    split
    · split
      · rw [evict_eq]
        exact h.mapIdx fun _ _ => ⟨rfl, rfl, rfl⟩
      · exact h
    · exact h

/-- After any turns executions are filed by these. -/
theorem after {config : ExecutionConfig} (view : Nat → NodeView) (turns : List (Nat × Turn)) :
    Filed handlers server origin given turns
      (ExecutionManager.after view (.new server config handlers ⟨origin, given⟩) turns) := by
  induction turns using List.reverseRecOn with
  | nil => exact .new server config handlers origin given
  | append_singleton turns turn ih =>
    rw [after_concat]
    exact ih.perform turn.2

end Filed

/-! ## Who is told an outcome -/

theorem delivered_iff : Delivered m place ↔ ∃ q ∈ m.requests, q.Told place := Iff.rfl

/-- A request is told an outcome if it was before, or if it is now. -/
theorem told_respond (q : Pending) :
    (m.respond now q).Told place ↔ q.Told place ∨ m.tells now place q = true := by
  rcases q with ⟨execution, deadline, _ | reply⟩
  · simp [respond, tells, Pending.Told]
  · simp [respond, tells, Pending.Told]

/-- A request that is answered now delivers, if it tells. -/
theorem delivered_set {ticket : Nat} {q : Pending} (hq : m.requests[ticket]? = some q) :
    (∃ p ∈ m.requests.set ticket (m.respond now q), p.Told place) ↔
      Delivered m place ∨ m.tells now place q = true :=
  Lists.exists_mem_set hq (told_respond q)

/-- A new request delivers, if it tells. -/
theorem delivered_concat {q : Pending} :
    (∃ p ∈ m.requests ++ [q], p.Told place) ↔ Delivered m place ∨ q.Told place := by
  simp [Delivered, Pending.Told, or_and_right, exists_or]

/-- What is listed after a change of executions. -/
theorem listed_mapIdx {f : Nat → Execution → Execution}
    (hm : m'.executions = m.executions.mapIdx f) :
    m'.Listed place ↔ ∃ e, m.executions[place]? = some e ∧ (f place e).listed = true := by
  simp [Listed, hm, List.getElem?_mapIdx]

theorem Listed.lt (h : m.Listed place) : place < m.executions.length := by
  obtain ⟨e, he, -⟩ := h
  exact (List.getElem?_eq_some_iff.1 he).1

namespace Tabled

variable {evicted : Nat → Prop} {requests : List Pending}

theorem new (server : Server) (config : ExecutionConfig) (handlers : Handlers) (ids : IdSupply) :
    Tabled (fun _ => False) (.new server config handlers ids) where
  registered := by
    intro e he
    cases he
  listed_iff := by simp [Listed, ExecutionManager.new]
  awaited_lt := by
    intro q hq
    cases hq
  evicted_lt := by
    intro place h
    cases h

/-- Which executions were evicted matters up to equivalence. -/
theorem of_iff {evicted' : Nat → Prop} (h : Tabled evicted m)
    (hiff : ∀ place, evicted' place ↔ evicted place) : Tabled evicted' m := by
  obtain rfl : evicted' = evicted := funext fun place => propext (hiff place)
  exact h

/-- Executions may change in all but the table, as long as they do not come back from their end. -/
theorem mapIdx (h : Tabled evicted m) {f : Nat → Execution → Execution}
    (hlisted : ∀ i e, (f i e).listed = e.listed)
    (hfinished : ∀ i e, (f i e).isFinished = false → e.isFinished = false) :
    Tabled evicted { m with executions := m.executions.mapIdx f } where
  registered := h.registered.mapIdx fun i e _ hrunning => ⟨hfinished i e hrunning, hlisted i e⟩
  listed_iff := by
    intro place
    rw [listed_mapIdx (m := m) rfl, List.length_mapIdx]
    simp only [hlisted]
    exact h.listed_iff place
  awaited_lt := by
    intro q hq place hplace
    rw [List.length_mapIdx]
    exact h.awaited_lt q hq place hplace
  evicted_lt := by
    intro place hevicted
    rw [List.length_mapIdx]
    exact h.evicted_lt place hevicted

theorem change (h : Tabled evicted m) {f : Execution → Execution}
    (hlisted : ∀ e, (f e).listed = e.listed)
    (hfinished : ∀ e, (f e).isFinished = false → e.isFinished = false) (place : Nat) :
    Tabled evicted (m.change place f) := by
  rw [ExecutionManager.change, modify_eq_mapIdx]
  refine h.mapIdx (fun i e => ?_) fun i e hrunning => ?_
  · split
    · exact hlisted e
    · rfl
  · split at hrunning
    · exact hfinished e hrunning
    · exact hrunning

/-- Executions that have ended may leave the table when somebody is told their outcome. -/
theorem relist (h : Tabled evicted m) (told : Nat → Bool)
    (hfinished : ∀ i e, m.executions[i]? = some e → told i = true → e.isFinished = true)
    (hdelivered : ∀ i, (∃ q ∈ requests, q.Told i) ↔ Delivered m i ∨ told i = true)
    (hawaited : ∀ q ∈ requests, ∀ place, q.execution = some place →
      place < m.executions.length) :
    Tabled evicted { m with
      executions := m.executions.mapIdx fun i e => { e with listed := e.listed && !told i }
      requests := requests } where
  registered := h.registered.relist told hfinished
  listed_iff := by
    intro place
    have hbefore := h.listed_iff place
    rw [listed_mapIdx (m := m) rfl, List.length_mapIdx, delivered_iff, hdelivered]
    cases htold : told place with
    | true => simp
    | false => simpa [Listed] using hbefore
  awaited_lt := by
    intro q hq place hplace
    rw [List.length_mapIdx]
    exact hawaited q hq place hplace
  evicted_lt := by
    intro place hevicted
    rw [List.length_mapIdx]
    exact h.evicted_lt place hevicted

/-- An answer that tells a result takes the execution from the table. -/
theorem answerOne (h : Tabled evicted m) (ticket : Nat) :
    Tabled evicted (ExecutionManager.answerOne now m ticket) := by
  rcases answerOne_cases m now ticket with hsame | ⟨q, hq, hone⟩
  · rw [hsame]
    exact h
  · rw [hone]
    refine h.relist (fun i => m.tells now i q) (fun _ _ he => isFinished_of_tells he)
      (fun _ => delivered_set hq) fun q' hq' place hplace => ?_
    rcases List.mem_or_eq_of_mem_set hq' with hq' | rfl
    · exact h.awaited_lt q' hq' place hplace
    · refine h.awaited_lt q (List.mem_of_getElem? hq) place ?_
      rw [← hplace, respond]
      split <;> rfl

theorem await (h : Tabled evicted m) (hplace : place < m.executions.length) :
    Tabled evicted (m.await now place).2 := by
  rw [await_eq]
  refine h.relist (fun i => m.tells now i ⟨some place, now + m.wait, none⟩)
    (fun _ _ he => isFinished_of_tells he) (fun i => ?_) fun q hq i hi => ?_
  · rw [delivered_concat, told_respond]
    simp [Pending.Told]
  · rcases List.mem_append.1 hq with hq | hq
    · exact h.awaited_lt q hq i hi
    · obtain rfl := List.mem_singleton.1 hq
      obtain rfl : place = i := Option.some.inj hi
      exact hplace

/-- Requests may come and go that tell no outcome. -/
theorem rerequest (h : Tabled evicted m)
    (hdelivered : ∀ i, (∃ q ∈ requests, q.Told i) ↔ Delivered m i)
    (hawaited : ∀ q ∈ requests, ∀ place, q.execution = some place →
      place < m.executions.length) : Tabled evicted { m with requests := requests } where
  registered := h.registered
  listed_iff := by
    intro place
    rw [delivered_iff, hdelivered]
    exact h.listed_iff place
  awaited_lt := hawaited
  evicted_lt := h.evicted_lt

theorem answered (h : Tabled evicted m) (reply : CommandReply) :
    Tabled evicted (m.answered reply).2 := by
  refine h.rerequest (fun i => ?_) fun q hq place hplace => ?_
  · rw [delivered_concat]
    simp [Pending.Told]
  · rcases List.mem_append.1 hq with hq | hq
    · exact h.awaited_lt q hq place hplace
    · obtain rfl := List.mem_singleton.1 hq
      cases hplace

theorem abandon (h : Tabled evicted m) (ticket : Nat) : Tabled evicted (m.abandon ticket) := by
  rcases abandon_cases m ticket with hsame | ⟨q, hq, hreply, hone⟩
  · rw [hsame]
    exact h
  · rw [hone]
    refine h.rerequest (fun i => ?_) fun q' hq' place hplace => ?_
    · refine (Lists.exists_mem_set (R := False) hq ?_).trans (Iff.of_eq (or_false _))
      simp [Pending.Told, hreply]
    · rcases List.mem_or_eq_of_mem_set hq' with hq' | rfl
      · exact h.awaited_lt q' hq' place hplace
      · cases hplace

/-- A command that is accepted is in the table: nobody was told its outcome yet. -/
theorem accepting (h : Tabled evicted m) (request : ExecuteRequest) :
    Tabled evicted (m.accepting now request) where
  registered := by
    intro e he hrunning
    rcases List.mem_append.1 he with he | he
    · exact h.registered e he hrunning
    · rw [List.mem_singleton.1 he]
  listed_iff := by
    intro place
    have hfresh : ¬ Delivered m m.executions.length := by
      rintro ⟨q, hq, hplace, -⟩
      exact Nat.lt_irrefl _ (h.awaited_lt q hq _ hplace)
    have hnot : ¬ evicted m.executions.length := fun hevicted =>
      Nat.lt_irrefl _ (h.evicted_lt _ hevicted)
    have hbefore := h.listed_iff place
    rw [Listed] at hbefore ⊢
    rw [show Delivered (m.accepting now request) place ↔ Delivered m place from Iff.rfl,
      ExecutionManager.accepting, List.length_append, List.length_singleton]
    rcases Nat.lt_trichotomy place m.executions.length with hlt | rfl | hgt
    · rw [List.getElem?_append_left hlt, hbefore]
      simp [hlt, Nat.lt_succ_of_lt hlt]
    · simp [hfresh, hnot]
    · rw [List.getElem?_eq_none (by rw [List.length_append]; exact hgt)]
      simp [Nat.not_lt.2 hgt]
  awaited_lt := by
    intro q hq place hplace
    rw [ExecutionManager.accepting, List.length_append]
    exact Nat.lt_add_right _ (h.awaited_lt q hq place hplace)
  evicted_lt := by
    intro place hevicted
    rw [ExecutionManager.accepting, List.length_append]
    exact Nat.lt_add_right _ (h.evicted_lt place hevicted)

/-- What a sweep takes out of the table is evicted. -/
theorem unlist (h : Tabled evicted m) (hlength : m'.executions.length = m.executions.length)
    (hrequests : m'.requests = m.requests) (hregistered : Registered m')
    (hlisted : ∀ place, m'.Listed place → m.Listed place) :
    Tabled (fun place => evicted place ∨ m.Listed place ∧ ¬ m'.Listed place) m' where
  registered := hregistered
  listed_iff := by
    intro place
    have hbefore := h.listed_iff place
    rw [hlength, Delivered, hrequests]
    constructor
    · intro hin
      obtain ⟨hlt, hdelivered, hevicted⟩ := hbefore.1 (hlisted place hin)
      exact ⟨hlt, hdelivered, fun hout => hout.elim hevicted fun hout => hout.2 hin⟩
    · rintro ⟨hlt, hdelivered, hevicted⟩
      rw [not_or] at hevicted
      by_contra hout
      exact hevicted.2 ⟨hbefore.2 ⟨hlt, hdelivered, hevicted.1⟩, hout⟩
  awaited_lt := by
    rw [hlength, hrequests]
    exact h.awaited_lt
  evicted_lt := by
    rw [hlength]
    rintro place (hevicted | ⟨hin, -⟩)
    · exact h.evicted_lt place hevicted
    · exact hin.lt

theorem evict (h : Tabled evicted m) (now : Nat) :
    Tabled (fun place => evicted place ∨ m.Listed place ∧ ¬ (m.evict now).2.Listed place)
      (m.evict now).2 := by
  refine h.unlist (by simp [evict_eq]) rfl (h.registered.perform .sweep) fun place hin => ?_
  rw [listed_mapIdx (by rw [evict_eq])] at hin
  obtain ⟨e, he, hlisted⟩ := hin
  simp only [Bool.and_eq_true] at hlisted
  exact ⟨e, he, hlisted.2⟩

theorem fireEvictor (h : Tabled evicted m) (now : Nat) :
    Tabled (fun place => evicted place ∨ m.Listed place ∧ ¬ (m.fireEvictor now).Listed place)
      (m.fireEvictor now) := by
  have hsame : Tabled (fun place => evicted place ∨ m.Listed place ∧ ¬ m.Listed place) m := by
    simpa using h
  rw [ExecutionManager.fireEvictor]
  split
  · split
    · exact { h.evict now with }
    · exact hsame
  · exact hsame

/-- In every turn the table loses those whose outcome somebody is told, and those that are evicted
in it. -/
theorem perform (h : Tabled evicted m) (view : NodeView) (now : Nat) (turn : Turn) :
    Tabled (fun place => evicted place ∨
      turn.sweeps = true ∧ m.Listed place ∧ ¬ (turn.perform view now m).Listed place)
      (turn.perform view now m) := by
  have quiet : turn.sweeps = false → Tabled evicted (turn.perform view now m) →
      Tabled (fun place => evicted place ∨
        turn.sweeps = true ∧ m.Listed place ∧ ¬ (turn.perform view now m).Listed place)
        (turn.perform view now m) := by
    intro hquiet h'
    simpa [hquiet] using h'
  cases turn with
  | deed d =>
    by_cases hd : d = .sweep
    · subst hd
      simpa [Turn.sweeps, Turn.perform, Deed.perform] using h.evict now
    · have hquiet : (Turn.deed d).sweeps = false := by
        cases d with
        | execute | reconnect => rfl
        | sweep => exact absurd rfl hd
      refine quiet hquiet ?_
      refine Deed.keeps_perform (fun request _ _ => (h.accepting request).await ?_)
        (fun _ _ _ hfind => h.await (List.findIdx?_eq_some_iff_getElem.1 hfind).1)
        (fun _ _ => h.answered _) fun hsweep => absurd hsweep hd
      rw [ExecutionManager.accepting, List.length_append]
      exact Nat.lt_succ_self _
  | abandon ticket => exact quiet rfl (h.abandon ticket)
  | start => exact quiet rfl { h with }
  | begin place =>
    refine quiet rfl (h.change (fun _ => Execution.begin_listed) (fun e hrunning => ?_) place)
    rwa [Execution.begin_isFinished] at hrunning
  | finish place =>
    exact quiet rfl
      (h.change (fun _ => Execution.finish_listed) (fun _ => Execution.isFinished_of_finish) place)
  | answer ticket => exact quiet rfl (h.answerOne ticket)
  | tick => simpa [Turn.sweeps, Turn.perform] using h.fireEvictor now

end Tabled

/-- Those who were evicted in some turns, and in one more. -/
theorem evicted_concat : Evicted view m (turns ++ [(now, turn)]) place ↔
    Evicted view m turns place ∨ turn.sweeps = true ∧ (m.after view turns).Listed place ∧
      ¬ (turn.perform (view now) now (m.after view turns)).Listed place := by
  constructor
  · rintro ⟨before, t, turn', later, hsplit, hout⟩
    rcases Lists.concat_eq_split hsplit with ⟨rfl, heq, -⟩ | ⟨rest, rfl, rfl⟩
    · obtain ⟨rfl, rfl⟩ := Prod.mk.inj heq
      exact .inr hout
    · exact .inl ⟨before, t, turn', rest, rfl, hout⟩
  · rintro (⟨before, t, turn', later, rfl, hout⟩ | hout)
    · exact ⟨before, t, turn', later ++ [(now, turn)], by simp, hout⟩
    · exact ⟨turns, now, turn, [], rfl, hout⟩

theorem Tabled.after (server : Server) (config : ExecutionConfig) (handlers : Handlers)
    (ids : IdSupply) (view : Nat → NodeView) (turns : List (Nat × Turn)) :
    Tabled (Evicted view (.new server config handlers ids) turns)
      (ExecutionManager.after view (.new server config handlers ids) turns) := by
  induction turns using List.reverseRecOn with
  | nil => exact (new server config handlers ids).of_iff fun place => by simp [Evicted]
  | append_singleton turns turn ih =>
    rw [after_concat]
    exact (ih.perform (view turn.1) turn.1 turn.2).of_iff fun place => evicted_concat

/-! ## Who is told that an execution runs -/

/-- An execution with an id has not ended. -/
def Runs (m : ExecutionManager) (id : ExecutionId) : Prop :=
  ∃ (place : Nat) (e : Execution), m.executions[place]? = some e ∧ e.isFinished = false ∧ e.id = id

/-- An id is in the table if an execution of that id is listed. -/
theorem mem_table : id ∈ m.table ↔
    ∃ (place : Nat) (e : Execution), m.executions[place]? = some e ∧ e.listed = true ∧
      e.id = id := by
  simp only [table, List.mem_map, List.mem_filter]
  constructor
  · rintro ⟨e, ⟨he, hlisted⟩, hid⟩
    obtain ⟨place, hget⟩ := List.mem_iff_getElem?.1 he
    exact ⟨place, e, hget, hlisted, hid⟩
  · rintro ⟨place, e, he, hlisted, hid⟩
    exact ⟨e, ⟨List.mem_of_getElem? he, hlisted⟩, hid⟩

/-- What runs is in the table. -/
theorem Runs.mem_table (h : m.Runs id) (hregistered : Registered m) : id ∈ m.table := by
  obtain ⟨place, e, he, hrunning, hid⟩ := h
  exact ExecutionManager.mem_table.2
    ⟨place, e, he, hregistered e (List.mem_of_getElem? he) hrunning, hid⟩

/-- Whoever is told now that an execution runs waited for one that does. -/
theorem runs_of_respond {q : Pending} (h : (m.respond now q).reply = some (.running id)) :
    q.reply = some (.running id) ∨ m.Runs id := by
  rw [respond] at h
  split at h
  · exact .inl h
  · have hreply : m.replyTo now q = some (.running id) := h
    rw [replyTo] at hreply
    split at hreply
    · cases hreply
    · rename_i e he
      obtain ⟨place, -, hget⟩ := Option.bind_eq_some_iff.1 he
      cases hresult : e.result? with
      | none =>
        simp only [hresult] at hreply
        split at hreply
        · cases hreply
          exact .inr ⟨place, e, hget, by rw [Execution.isFinished, hresult]; rfl, rfl⟩
        · cases hreply
      | some r => cases r <;> simp [hresult] at hreply

/-- What runs goes on when the table changes. -/
theorem Runs.relist (h : m.Runs id) (listed : Nat → Execution → Bool)
    (hm : m'.executions = m.executions.mapIdx fun i e => { e with listed := listed i e }) :
    m'.Runs id := by
  obtain ⟨place, e, he, hrunning, hid⟩ := h
  refine ⟨place, { e with listed := listed place e }, ?_, hrunning, hid⟩
  rw [hm, List.getElem?_mapIdx, he]
  rfl

/-- A new request changes no reply of the others. -/
theorem reply?_concat {q : Pending} {ticket : Nat} {reply : CommandReply}
    {executions : List Execution}
    (h : reply? { m with requests := m.requests ++ [q], executions } ticket = some reply) :
    m.reply? ticket = some reply ∨ q.reply = some reply := by
  obtain ⟨q', hq', hreply⟩ := Option.bind_eq_some_iff.1 h
  rcases Lists.getElem?_concat hq' with hq' | ⟨-, rfl⟩
  · exact .inl (Option.bind_eq_some_iff.2 ⟨q', hq', hreply⟩)
  · exact .inr hreply

theorem reply?_set {q : Pending} {place ticket : Nat} {reply : CommandReply}
    {executions : List Execution}
    (h : reply? { m with requests := m.requests.set place q, executions } ticket = some reply) :
    m.reply? ticket = some reply ∨ ticket = place ∧ q.reply = some reply := by
  obtain ⟨q', hq', hreply⟩ := Option.bind_eq_some_iff.1 h
  rw [List.getElem?_set] at hq'
  split at hq'
  · rename_i hplace
    split at hq'
    · obtain rfl := Option.some.inj hq'
      exact .inr ⟨hplace.symm, hreply⟩
    · cases hq'
  · exact .inl (Option.bind_eq_some_iff.2 ⟨q', hq', hreply⟩)

/-- One who is told at once that an execution runs, is told of one that does. -/
theorem runs_of_await {ticket : Nat}
    (h : (m.await now place).2.reply? ticket = some (.running id)) :
    m.reply? ticket = some (.running id) ∨ (m.await now place).2.Runs id := by
  rw [await_eq] at h ⊢
  refine (reply?_concat h).imp_right fun hreply => ?_
  rcases runs_of_respond hreply with hnone | hruns
  · cases hnone
  · exact hruns.relist _ rfl

/-- Whoever is told in a turn that an execution runs is told the id of one that does. -/
theorem runs_of_perform {view : NodeView} {ticket : Nat}
    (h : (turn.perform view now m).reply? ticket = some (.running id)) :
    m.reply? ticket = some (.running id) ∨ (turn.perform view now m).Runs id := by
  cases turn with
  | deed d =>
    refine Deed.keeps_perform (P := fun m' => m'.reply? ticket = some (.running id) →
      m.reply? ticket = some (.running id) ∨ m'.Runs id) (fun request _ _ => ?_)
      (fun _ _ _ _ => runs_of_await) (fun _ _ h => ?_) (fun _ => .inl) h
    · exact runs_of_await (m := m.accepting now request)
    · exact .inl ((reply?_concat h).resolve_right (by simp))
  | abandon ticket' =>
    refine .inl ?_
    rcases abandon_cases m ticket' with hsame | ⟨q, -, hreply, hone⟩
    · rwa [Turn.perform, hsame] at h
    · rw [Turn.perform, hone] at h
      exact (reply?_set h).resolve_right (by simp [hreply])
  | start => exact .inl h
  | begin place => exact .inl h
  | finish place => exact .inl h
  | answer ticket' =>
    rcases answerOne_cases m now ticket' with hsame | ⟨q, hq, hone⟩
    · rw [Turn.perform, hsame] at h
      exact .inl h
    · rw [Turn.perform, hone] at h ⊢
      rcases reply?_set h with h | ⟨rfl, hreply⟩
      · exact .inl h
      · rcases runs_of_respond hreply with hbefore | hruns
        · exact .inl (by rw [reply?, hq]; exact hbefore)
        · exact .inr (hruns.relist _ rfl)
  | tick =>
    refine .inl ?_
    rw [Turn.perform, fireEvictor] at h
    split at h
    · split at h
      · exact h
      · exact h
    · exact h

/-! ## What holds after all turns -/

/-- What is not in the table is not found. -/
theorem find?_eq_none (h : id ∉ m.table) : m.find? id = none := by
  rw [find?, List.findIdx?_eq_none_iff]
  intro e he
  by_contra hfound
  simp only [Bool.not_eq_false, Bool.and_eq_true, decide_eq_true_eq] at hfound
  obtain ⟨place, hget⟩ := List.mem_iff_getElem?.1 he
  exact h (mem_table.2 ⟨place, e, hget, hfound.1, hfound.2⟩)

/-- An id that is not in the table is refused, and nothing else happens. -/
theorem reconnect_of_notMem (h : id ∉ m.table) (now : Nat) :
    m.reconnect now id = (m.requests.length, { m with requests :=
      m.requests ++ [⟨none, 0, some (.failed ("Unknown execution: " ++ id.text))⟩] }) := by
  rw [reconnect, find?_eq_none h]
  rfl

/-- A sweep leaves an execution alone that has not ended. -/
theorem evict_of_running {e : Execution} (he : m.executions[place]? = some e)
    (hrunning : e.isFinished = false) (now : Nat) :
    (m.evict now).2.executions[place]? = some e := by
  rw [evict_eq, List.getElem?_mapIdx, he]
  simp [isStale, hrunning]

/-- Nor does the evictor, whether it sweeps or not. -/
theorem fireEvictor_of_running {e : Execution} (he : m.executions[place]? = some e)
    (hrunning : e.isFinished = false) (now : Nat) :
    (m.fireEvictor now).executions[place]? = some e := by
  rw [fireEvictor]
  split
  · split
    · exact evict_of_running he hrunning now
    · exact he
  · exact he

/-- What the table of a manager comes to after any turns, in whatever order: commands, reconnects,
sweeps, those who give up, handlers that start and end, requests that look for their replies. All
that the manager comes to in its runs it comes to in turns (`exists_turns_of_run`).

There is one execution for each command that was accepted, with an id of its own. In the table are
those whose outcome nobody was told and which no sweep evicted; no sweep evicts one that has not
ended. Whoever is told in the next turn that an execution runs is told an id that is in the table
then. Whoever comes back with an id that is not in the table is told that it is unknown, and nothing
else happens. -/
theorem table_invariant (view : Nat → NodeView) (server : Server) (config : ExecutionConfig)
    (handlers : Handlers) (origin given : Nat) (turns : List (Nat × Turn)) :
    let idle : ExecutionManager := .new server config handlers ⟨origin, given⟩
    let m := idle.after view turns
    m.executions.map (fun e => (e.started, e.request)) = accepted handlers (deeds turns) ∧
    (m.executions.map (·.id)).Nodup ∧ m.table.Nodup ∧ m.inFlight = m.table.length ∧
    (∀ id, id ∈ m.table ↔ ∃ (place : Nat) (e : Execution), m.executions[place]? = some e ∧
      e.id = id ∧ ¬ Delivered m place ∧ ¬ Evicted view idle turns place) ∧
    (∀ (place : Nat) (e : Execution), m.executions[place]? = some e → e.isFinished = false →
      e.id ∈ m.table ∧ ∀ now, (m.evict now).2.executions[place]? = some e ∧
        (m.fireEvictor now).executions[place]? = some e) ∧
    (∀ (now : Nat) (turn : Turn) (ticket : Nat) (id : ExecutionId),
      (turn.perform (view now) now m).reply? ticket = some (.running id) →
      m.reply? ticket = some (.running id) ∨ id ∈ (turn.perform (view now) now m).table) ∧
    ∀ (now : Nat) (id : ExecutionId), id ∉ m.table →
      m.reconnect now id = (m.requests.length, { m with requests :=
        m.requests ++ [⟨none, 0, some (.failed ("Unknown execution: " ++ id.text))⟩] }) := by
  intro idle m
  have hfiled : Filed handlers server origin given turns m := .after view turns
  have htabled : Tabled (Evicted view idle turns) m := .after server config handlers _ view turns
  refine ⟨hfiled.executions_eq, hfiled.nodup_ids, ?_, by rw [inFlight, table, List.length_map],
    fun id => ?_, fun place e he hrunning => ⟨?_, fun now => ⟨?_, ?_⟩⟩,
    fun now turn ticket id hreply => ?_, fun now id hnot => reconnect_of_notMem hnot now⟩
  · exact hfiled.nodup_ids.sublist (List.filter_sublist.map _)
  · -- an execution is listed or not by its place
    rw [mem_table]
    refine exists_congr fun place => exists_congr fun e => ?_
    rw [← and_comm (a := e.id = id), and_congr_right_iff]
    intro he
    refine and_congr_right fun _ => ?_
    have hlisted := htabled.listed_iff place
    rw [Listed, he] at hlisted
    simpa [(List.getElem?_eq_some_iff.1 he).1] using hlisted
  · exact Runs.mem_table ⟨place, e, he, hrunning, rfl⟩ htabled.registered
  · exact evict_of_running he hrunning now
  · exact fireEvictor_of_running he hrunning now
  · refine (runs_of_perform hreply).imp_right fun hruns => ?_
    exact hruns.mem_table (htabled.perform (view now) now turn).registered

/-- Whoever gave a command may be gone, and the result evicted, while somebody waits for it. -/
example :
    let begun := slowNode.after bareView [(0, .deed (.execute slowRequest)), (0, .begin 0),
      (10, .answer 0), (195, .deed (.reconnect ⟨IdSupply.name 0 0⟩)),
      (196, .deed (.reconnect ⟨IdSupply.name 0 0⟩)), (197, .abandon 1), (200, .finish 0)]
    let swept := begun.after bareView [(200, .deed .sweep)]
    let told := swept.after bareView [(201, .answer 1), (201, .answer 2)]
    begun.inFlight = 1 ∧ swept.inFlight = 0 ∧ told.reply? 1 = none ∧
      told.reply? 2 = some (.complete (.serverValue (.nat 1))) :=
  ⟨rfl, rfl, rfl, rfl⟩

end ExecutionManager

end ScatterSearch
