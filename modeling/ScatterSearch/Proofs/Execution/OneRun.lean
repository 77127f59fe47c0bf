import ScatterSearch.Proofs.Execution.Answers

/-!
# One run, one outcome

A node starts the handler of a command once, at the instant at which the command is accepted.
However many come for the execution, all of them are told what this one run comes to, or the id if
it takes them too long to wait for it. Here this is said of all runs of a manager: commands,
reconnects and sweeps at any instants.

* `Accounts`: the executions of a manager are those of the commands that were accepted, in order;
* `Execution.Follows` says how an execution stands whose handler runs once, and `Execution.Heard`
  what somebody was told who waits for it;
* `OneRun` says both of all that a manager has. How a handler runs is settled only when it starts
  (`OneRun.startAccepted`); nobody was told an outcome before that.

`oneRun_of_run` says that it is so in every run.
-/

namespace ScatterSearch

/-- A handler answers in the kind that was asked for, or fails. -/
theorem Handlers.kind_of_run {hs : Handlers} {v : HandlerView} {r : Response}
    (h : (hs.run v).outcome = .answers r) : r.kind = v.request.kind := by
  rw [run] at h
  split at h
  · cases h
  · rename_i f hf
    change checkKind v.request (f v).outcome = .answers r at h
    cases houtcome : (f v).outcome with
    | answers r' =>
      rw [houtcome, checkKind] at h
      split at h
      · rename_i hkind
        rw [← Outcome.answers.inj h]
        exact hkind
      · cases h
    | fails message =>
      rw [houtcome] at h
      cases h
    | panics message =>
      rw [houtcome] at h
      cases h

namespace Execution

/-- How an execution stands at an instant whose handler is started once, at the instant at which the
command is accepted, and then runs as `run` says. -/
def Follows (run : HandlerRun) (place now : Nat) (e : Execution) : Prop :=
  match e.phase with
  | .accepted => e.starts = 0 ∧ e.started = now
  | .running ends outcome =>
    e.starts = 1 ∧ ends = e.started + run.duration ∧ outcome = run.outcome ∧ now ≤ ends
  | .ended result =>
    e.starts = 1 ∧ result = resultOf place run.outcome ∧ e.started + run.duration ≤ now

/-- What a request that waits for an execution up to a deadline was told by an instant: nothing, and
then the deadline has not passed; the id, and then the deadline has come, before which the handler
did not end; or the outcome. Where this holds after every step, the id is told at the very
deadline. -/
def Heard (run : HandlerRun) (now deadline : Nat) (e : Execution) : Option CommandReply → Prop
  | none => now ≤ deadline
  | some (.running id) => id = e.id ∧ deadline ≤ now ∧ deadline ≤ e.started + run.duration
  | some (.complete r) => e.result? = some (.ok r) ∧ r.kind = e.request.kind
  | some (.failed message) => e.result? = some (.error message)

variable {run : HandlerRun} {runs : ExecuteRequest → HandlerRun} {place now now' deadline : Nat}
  {e : Execution} {reply : Option CommandReply}

namespace Follows

/-- An execution that has not run was accepted just now. -/
theorem started_eq (h : e.Follows run place now) (hstarts : e.starts = 0) : e.started = now := by
  rw [Follows] at h
  split at h
  · exact h.2
  · rw [h.1] at hstarts
    cases hstarts
  · rw [h.1] at hstarts
    cases hstarts

/-- An execution without a result is on time. -/
theorem le_of_unfinished (h : e.Follows run place now) (hresult : e.result? = none) :
    now ≤ e.started + run.duration := by
  rw [Follows] at h
  split at h
  · rw [h.2]
    exact Nat.le_add_right _ _
  · obtain ⟨-, rfl, -, hle⟩ := h
    exact hle
  · rename_i hphase
    rw [result?, hphase] at hresult
    cases hresult

/-- A result is that of the run. -/
theorem of_result (h : e.Follows run place now) {result : Except String Response}
    (hresult : e.result? = some result) :
    e.starts = 1 ∧ result = resultOf place run.outcome ∧ e.started + run.duration ≤ now := by
  rw [result?] at hresult
  split at hresult
  · rename_i r hphase
    obtain rfl := Option.some.inj hresult
    rw [Follows, hphase] at h
    exact h
  · cases hresult

/-- Only the handler of a command that was just accepted is started. -/
theorem begin (h : e.Follows run place now) :
    (e.begin runs now).Follows (if e.starts = 0 then runs e.request else run) place now := by
  rcases e with ⟨id, request, started, phase, starts, listed⟩
  cases phase with
  | accepted =>
    obtain ⟨rfl, rfl⟩ := h
    exact ⟨rfl, rfl, rfl, Nat.le_add_right _ _⟩
  | running ends outcome =>
    obtain ⟨rfl, hrest⟩ := h
    exact ⟨rfl, hrest⟩
  | ended result =>
    obtain ⟨rfl, hrest⟩ := h
    exact ⟨rfl, hrest⟩

theorem begin_eq_self (h : e.Follows run place now) (hstarts : e.starts ≠ 0) :
    e.begin runs now = e := by
  rw [Execution.begin]
  split
  · rename_i hphase
    rw [Follows, hphase] at h
    exact absurd h.1 hstarts
  · rfl

theorem finish (h : e.Follows run place now) : (e.finish now place).Follows run place now := by
  rw [Execution.finish]
  split
  · rename_i ends outcome hphase
    rw [Follows, hphase] at h
    obtain ⟨hstarts, rfl, rfl, hle⟩ := h
    split
    · rename_i hend
      exact ⟨hstarts, rfl, hend⟩
    · rw [Follows, hphase]
      exact ⟨hstarts, rfl, rfl, hle⟩
  · exact h

/-- No time passes an instant at which an execution is due. -/
theorem later (h : e.Follows run place now) (hle : now ≤ now')
    (hdue : ∀ d, e.due = some d → now' ≤ d) : e.Follows run place now' := by
  rw [Follows] at h ⊢
  rw [due] at hdue
  cases hphase : e.phase with
  | accepted =>
    rw [hphase] at h hdue
    have hzero : now' ≤ 0 := hdue 0 rfl
    exact ⟨h.1, h.2.trans (by omega)⟩
  | running ends outcome =>
    rw [hphase] at h hdue
    exact ⟨h.1, h.2.1, h.2.2.1, hdue ends rfl⟩
  | ended result =>
    rw [hphase] at h
    exact ⟨h.1, h.2.1, Nat.le_trans h.2.2 hle⟩

end Follows

namespace Heard

theorem begin (h : e.Heard run now deadline reply) (hfollows : e.Follows run place now) :
    (e.begin runs now).Heard (if e.starts = 0 then runs e.request else run) now deadline reply := by
  by_cases hstarts : e.starts = 0
  · -- nobody was told more than the id, and this not before the start
    have hresult : e.result? = none := by
      cases hresult : e.result? with
      | none => rfl
      | some result =>
        rw [(hfollows.of_result hresult).1] at hstarts
        cases hstarts
    match reply, h with
    | none, h => exact h
    | some (.running id), h =>
      refine ⟨h.1.trans begin_id.symm, h.2.1, Nat.le_trans h.2.1 ?_⟩
      rw [begin_started, hfollows.started_eq hstarts]
      exact Nat.le_add_right _ _
    | some (.complete r), h =>
      rw [Heard, hresult] at h
      cases h.1
    | some (.failed message), h =>
      rw [Heard, hresult] at h
      cases h
  · rw [if_neg hstarts, hfollows.begin_eq_self hstarts]
    exact h

theorem finish (h : e.Heard run now deadline reply) :
    (e.finish now place).Heard run now deadline reply := by
  cases hresult : e.result? with
  | some result =>
    rw [finish_eq_self (by rw [isFinished, hresult]; rfl)]
    exact h
  | none =>
    cases reply with
    | none => exact h
    | some r =>
      cases r with
      | running id =>
        rw [Heard, finish_id, finish_started]
        exact h
      | complete r =>
        rw [Heard, hresult] at h
        cases h.1
      | failed message =>
        rw [Heard, hresult] at h
        cases h

theorem later (h : e.Heard run now deadline reply) (hle : now ≤ now')
    (hdue : reply = none → now' ≤ deadline) : e.Heard run now' deadline reply := by
  match reply, h with
  | none, _ => exact hdue rfl
  | some (.running id), h => exact ⟨h.1, Nat.le_trans h.2.1 hle, h.2.2⟩
  | some (.complete r), h => exact h
  | some (.failed message), h => exact h

end Heard

end Execution

namespace ExecutionManager

/-- The commands that a node accepts among all that is done, with the instants. -/
def accepted (handlers : Handlers) (trace : List (Nat × Deed)) : List (Nat × ExecuteRequest) :=
  trace.filterMap fun
    | (t, .execute request) => if handlers.has request.command then some (t, request) else none
    | _ => none

/-- A manager on a server with the given handlers whose executions are those of the commands that it
accepted. -/
structure Accounts (handlers : Handlers) (server : Server) (trace : List (Nat × Deed))
    (m : ExecutionManager) : Prop where
  handlers_eq : m.handlers = handlers
  server_eq : m.server = server
  executions_eq : m.executions.map (fun e => (e.started, e.request)) = accepted handlers trace

/-- All that a manager has at an instant follows from one run of a handler for each execution, which
the handler began when the execution did: how executions stand, and what those were told who wait
for them. -/
structure OneRun (handlers : Handlers) (server : Server) (view : Nat → NodeView)
    (run : Nat → HandlerRun) (now : Nat) (m : ExecutionManager) : Prop where
  follows : ∀ place (e : Execution), m.executions[place]? = some e → e.Follows (run place) place now
  handler : ∀ place (e : Execution), m.executions[place]? = some e → e.starts = 1 →
    ∃ inFlight, run place = handlers.run ⟨e.request, server, (view e.started).served,
      (view e.started).index, some inFlight, (view e.started).uptime⟩
  heard : ∀ q ∈ m.requests, ∀ place, q.execution = some place →
    ∃ e, m.executions[place]? = some e ∧ e.Heard (run place) now q.deadline q.reply

variable {view : Nat → NodeView} {server : Server} {config : ExecutionConfig} {handlers : Handlers}
  {origin given start now now' place : Nat} {run : Nat → HandlerRun} {trace : List (Nat × Deed)}
  {m m' : ExecutionManager} {d : Deed}

/-! ## The executions are those of the accepted commands -/

/-- The requests that were accepted come in order. -/
theorem accepted_append (handlers : Handlers) (before after : List (Nat × Deed)) :
    accepted handlers (before ++ after) = accepted handlers before ++ accepted handlers after :=
  List.filterMap_append

namespace Accounts

theorem new (server : Server) (config : ExecutionConfig) (handlers : Handlers) (ids : IdSupply) :
    Accounts handlers server [] (.new server config handlers ids) := ⟨rfl, rfl, rfl⟩

/-- Executions may change in all but their requests and starts. -/
theorem mapIdx (h : Accounts handlers server trace m) {f : Nat → Execution → Execution}
    {requests : List Pending} (hrequest : ∀ i e, (f i e).request = e.request)
    (hstarted : ∀ i e, (f i e).started = e.started) :
    Accounts handlers server trace
      { m with executions := m.executions.mapIdx f, requests := requests } where
  handlers_eq := h.handlers_eq
  server_eq := h.server_eq
  executions_eq :=
    (Lists.map_mapIdx_eq (fun i e => by rw [hrequest, hstarted]) _).trans h.executions_eq

theorem startAccepted (h : Accounts handlers server trace m) {view : NodeView} :
    Accounts handlers server trace (m.startAccepted view now) := by
  rw [ExecutionManager.startAccepted, map_eq_mapIdx]
  exact h.mapIdx (fun _ _ => Execution.begin_request) fun _ _ => Execution.begin_started

theorem endRunning (h : Accounts handlers server trace m) :
    Accounts handlers server trace (m.endRunning now) :=
  h.mapIdx (fun _ _ => Execution.finish_request) fun _ _ => Execution.finish_started

theorem answer (h : Accounts handlers server trace m) :
    Accounts handlers server trace (m.answer now) := by
  rw [answer_eq]
  exact h.mapIdx (fun _ _ => rfl) fun _ _ => rfl

theorem await (h : Accounts handlers server trace m) (place : Nat) :
    Accounts handlers server trace (m.await now place).2 := by
  rw [await_eq]
  exact h.mapIdx (fun _ _ => rfl) fun _ _ => rfl

theorem perform (h : Accounts handlers server trace m) (d : Deed) :
    Accounts handlers server (trace ++ [(now, d)]) (d.perform now m) := by
  -- only a command that is accepted counts
  have same : accepted handlers [(now, d)] = [] →
      ∀ {m' : ExecutionManager}, Accounts handlers server trace m' →
        Accounts handlers server (trace ++ [(now, d)]) m' := fun hnone _ h' =>
    ⟨h'.handlers_eq, h'.server_eq, by
      rw [h'.executions_eq, accepted_append, hnone, List.append_nil]⟩
  cases d with
  | execute request =>
    simp only [Deed.perform, execute_eq, h.handlers_eq]
    cases hhas : handlers.has request.command with
    | true =>
      have haccepting : Accounts handlers server (trace ++ [(now, .execute request)])
          (m.accepting now request) := by
        refine ⟨h.handlers_eq, h.server_eq, ?_⟩
        rw [accepting, List.map_append, h.executions_eq, accepted_append]
        simp [accepted, hhas]
      exact haccepting.await _
    | false => exact same (by simp [accepted, hhas]) ⟨h.handlers_eq, h.server_eq, h.executions_eq⟩
  | reconnect id =>
    refine same rfl ?_
    simp only [Deed.perform, reconnect]
    split
    · exact h.await _
    · exact ⟨h.handlers_eq, h.server_eq, h.executions_eq⟩
  | sweep =>
    refine same rfl ?_
    simp only [Deed.perform, evict_eq]
    exact h.mapIdx (fun _ _ => rfl) fun _ _ => rfl

end Accounts

/-! ## Executions and requests follow from one run each -/

/-- How the handlers run once those of accepted commands were started. -/
def runsFrom (m : ExecutionManager) (view : NodeView) (run : Nat → HandlerRun) (place : Nat) :
    HandlerRun :=
  match m.executions[place]? with
  | some e => if e.starts = 0 then m.run view e.request else run place
  | none => run place

/-- An execution that has not started has its run from the view. -/
theorem runsFrom_of_get {view : NodeView} {e : Execution} (he : m.executions[place]? = some e) :
    m.runsFrom view run place = if e.starts = 0 then m.run view e.request else run place := by
  rw [runsFrom, he]

/-- Time passes no instant at which an execution is due or a request is answered. -/
theorem le_of_due (hdue : ∀ d, m.due = some d → now' ≤ d) {d : Nat}
    (hd : d ∈ m.executions.filterMap (·.due) ++ m.requests.filterMap m.requestDue) : now' ≤ d := by
  obtain ⟨least, hmin, hle⟩ := Lists.exists_min?_le
    (List.mem_append_left ((m.evictor.map (·.due)).toList) hd)
  exact Nat.le_trans (hdue least hmin) hle

/-- Time passes no deadline of a request that waits for an execution. -/
theorem le_deadline (hdue : ∀ d, m.due = some d → now' ≤ d) {q : Pending} (hq : q ∈ m.requests)
    (hplace : q.execution = some place) (hreply : q.reply = none) : now' ≤ q.deadline := by
  have hmem : ∀ {d : Nat}, m.requestDue q = some d → now' ≤ d := fun hd =>
    le_of_due hdue (List.mem_append_right _ (List.mem_filterMap.2 ⟨q, hq, hd⟩))
  simp only [requestDue, hreply, hplace, Option.isSome_none, Bool.false_eq_true, if_false,
    Option.map_some, Option.some.injEq] at hmem
  refine Nat.le_trans (hmem rfl) ?_
  split
  · exact Nat.zero_le _
  · exact Nat.le_refl _

namespace OneRun

theorem new (server : Server) (config : ExecutionConfig) (handlers : Handlers) (ids : IdSupply) :
    OneRun handlers server view run now (.new server config handlers ids) where
  follows := by
    intro place e he
    cases he
  handler := by
    intro place e he
    cases he
  heard := by
    intro q hq
    cases hq

/-- A response has the kind that the command asked for. -/
theorem kind (h : OneRun handlers server view run now m) {e : Execution} {r : Response}
    (he : m.executions[place]? = some e) (hresult : e.result? = some (.ok r)) :
    r.kind = e.request.kind := by
  obtain ⟨hstarts, houtcome, -⟩ := (h.follows place e he).of_result hresult
  obtain ⟨inFlight, hrun⟩ := h.handler place e he hstarts
  have hanswers := Execution.eq_answers houtcome.symm
  rw [hrun] at hanswers
  exact Handlers.kind_of_run hanswers

/-- Executions may change as long as each of them stands as it has to. -/
theorem of_mapIdx {f : Nat → Execution → Execution} {requests : List Pending}
    (hfollows : ∀ i e, m.executions[i]? = some e → (f i e).Follows (run i) i now)
    (hhandler : ∀ i e, m.executions[i]? = some e → (f i e).starts = 1 →
      ∃ inFlight, run i = handlers.run ⟨(f i e).request, server, (view (f i e).started).served,
        (view (f i e).started).index, some inFlight, (view (f i e).started).uptime⟩)
    (hheard : ∀ q ∈ requests, ∀ i, q.execution = some i →
      ∃ e, m.executions[i]? = some e ∧ (f i e).Heard (run i) now q.deadline q.reply) :
    OneRun handlers server view run now
      { m with executions := m.executions.mapIdx f, requests := requests } where
  follows := by
    intro i e he
    rw [List.getElem?_mapIdx, Option.map_eq_some_iff] at he
    obtain ⟨e₀, he₀, rfl⟩ := he
    exact hfollows i e₀ he₀
  handler := by
    intro i e he hstarts
    rw [List.getElem?_mapIdx, Option.map_eq_some_iff] at he
    obtain ⟨e₀, he₀, rfl⟩ := he
    exact hhandler i e₀ he₀ hstarts
  heard := by
    intro q hq i hi
    obtain ⟨e, he, hheard⟩ := hheard q hq i hi
    exact ⟨f i e, by rw [List.getElem?_mapIdx, he]; rfl, hheard⟩

/-- Executions may enter and leave the table. -/
theorem relist (h : OneRun handlers server view run now m) {listed : Nat → Execution → Bool}
    {requests : List Pending}
    (hheard : ∀ q ∈ requests, ∀ place, q.execution = some place →
      ∃ e, m.executions[place]? = some e ∧ e.Heard (run place) now q.deadline q.reply) :
    OneRun handlers server view run now { m with
      executions := m.executions.mapIdx fun i e => { e with listed := listed i e }
      requests := requests } :=
  of_mapIdx h.follows h.handler hheard

/-- What a request is told now is true. -/
theorem heard_respond (h : OneRun handlers server view run now m) {q : Pending}
    (hplace : q.execution = some place)
    (hq : ∃ e, m.executions[place]? = some e ∧ e.Heard (run place) now q.deadline q.reply) :
    ∃ e, m.executions[place]? = some e ∧
      e.Heard (run place) now (m.respond now q).deadline (m.respond now q).reply := by
  obtain ⟨e, he, hheard⟩ := hq
  refine ⟨e, he, ?_⟩
  rw [respond]
  cases hreply : q.reply with
  | some reply =>
    rw [Option.isSome_some, if_pos rfl]
    exact hheard
  | none =>
    rw [Option.isSome_none, if_neg Bool.false_ne_true]
    simp only [replyTo, awaited?, hplace, Option.bind_some, he]
    cases hresult : e.result? with
    | some result =>
      cases result with
      | ok r => exact ⟨hresult, h.kind he hresult⟩
      | error message => exact hresult
    | none =>
      simp only
      split
      · rename_i hle
        exact ⟨rfl, hle, Nat.le_trans hle ((h.follows place e he).le_of_unfinished hresult)⟩
      · rw [hreply] at hheard
        exact hheard

theorem answer (h : OneRun handlers server view run now m) :
    OneRun handlers server view run now (m.answer now) := by
  rw [answer_eq]
  refine h.relist fun q hq place hplace => ?_
  obtain ⟨q₀, hq₀, rfl⟩ := List.mem_map.1 hq
  have hplace₀ : q₀.execution = some place := by
    rw [← hplace, respond]
    split <;> rfl
  exact h.heard_respond hplace₀ (h.heard q₀ hq₀ place hplace₀)

/-- When handlers start, it is settled how they run. -/
theorem startAccepted (h : OneRun handlers server view run now m)
    (haccounts : Accounts handlers server trace m) :
    OneRun handlers server view (m.runsFrom (view now) run) now
      (m.startAccepted (view now) now) := by
  rw [ExecutionManager.startAccepted, map_eq_mapIdx]
  refine of_mapIdx (fun i e he => ?_) (fun i e he hstarts => ?_) fun q hq i hi => ?_
  · rw [runsFrom_of_get he]
    exact (h.follows i e he).begin
  · rw [runsFrom_of_get he, Execution.begin_request, Execution.begin_started]
    by_cases hzero : e.starts = 0
    · rw [if_pos hzero, ExecutionManager.run, haccounts.handlers_eq, haccounts.server_eq,
        (h.follows i e he).started_eq hzero]
      exact ⟨_, rfl⟩
    · rw [(h.follows i e he).begin_eq_self hzero] at hstarts
      rw [if_neg hzero]
      exact h.handler i e he hstarts
  · obtain ⟨e, he, hheard⟩ := h.heard q hq i hi
    rw [runsFrom_of_get he]
    exact ⟨e, he, hheard.begin (h.follows i e he)⟩

theorem endRunning (h : OneRun handlers server view run now m) :
    OneRun handlers server view run now (m.endRunning now) := by
  refine of_mapIdx (fun i e he => (h.follows i e he).finish) (fun i e he hstarts => ?_)
    fun q hq i hi => ?_
  · rw [Execution.finish_request, Execution.finish_started]
    refine h.handler i e he ?_
    rw [← hstarts, Execution.finish]
    split
    · split <;> rfl
    · rfl
  · obtain ⟨e, he, hheard⟩ := h.heard q hq i hi
    exact ⟨e, he, hheard.finish⟩

theorem fire (h : OneRun handlers server view run now m)
    (haccounts : Accounts handlers server trace m) (hev : m.evictor = none) :
    Accounts handlers server trace (m.fire (view now) now) ∧
      ∃ run, OneRun handlers server view run now (m.fire (view now) now) :=
  fire_induction
    (P := fun m => Accounts handlers server trace m ∧ ∃ run, OneRun handlers server view run now m)
    hev ⟨haccounts, run, h⟩
    (fun _ ⟨haccounts, _, h⟩ => ⟨haccounts.startAccepted, _, h.startAccepted haccounts⟩)
    (fun _ ⟨haccounts, _, h⟩ => ⟨haccounts.endRunning, _, h.endRunning⟩)
    fun _ ⟨haccounts, _, h⟩ => ⟨haccounts.answer, _, h.answer⟩

theorem pass (h : OneRun handlers server view run now m) (hle : now ≤ now')
    (hdue : ∀ d, m.due = some d → now' ≤ d) : OneRun handlers server view run now' m where
  follows := fun place e he => (h.follows place e he).later hle fun d hd =>
    le_of_due hdue (List.mem_append_left _
      (List.mem_filterMap.2 ⟨e, List.mem_of_getElem? he, hd⟩))
  handler := h.handler
  heard := by
    intro q hq place hplace
    obtain ⟨e, he, hheard⟩ := h.heard q hq place hplace
    exact ⟨e, he, hheard.later hle fun hreply => le_deadline hdue hq hplace hreply⟩

theorem await (h : OneRun handlers server view run now m) (hplace : place < m.executions.length) :
    OneRun handlers server view run now (m.await now place).2 := by
  rw [await_eq]
  refine h.relist fun q hq i hi => ?_
  rcases List.mem_append.1 hq with hq | hq
  · exact h.heard q hq i hi
  · -- the request that comes in is told nothing, or what is true
    obtain rfl := List.mem_singleton.1 hq
    have hexecution : (m.respond now ⟨some place, now + m.wait, none⟩).execution = some place := rfl
    obtain rfl := Option.some.inj (hexecution.symm.trans hi)
    exact h.heard_respond rfl
      ⟨_, List.getElem?_eq_getElem hplace, Nat.le_add_right now m.wait⟩

theorem answered (h : OneRun handlers server view run now m) (reply : CommandReply) :
    OneRun handlers server view run now (m.answered reply).2 where
  follows := h.follows
  handler := h.handler
  heard := by
    intro q hq place hplace
    rcases List.mem_append.1 hq with hq | hq
    · exact h.heard q hq place hplace
    · rw [List.mem_singleton.1 hq] at hplace
      cases hplace

theorem accepting (h : OneRun handlers server view run now m) (request : ExecuteRequest) :
    OneRun handlers server view run now (m.accepting now request) where
  follows := by
    intro i e he
    rcases Lists.getElem?_concat he with he | ⟨-, rfl⟩
    · exact h.follows i e he
    · exact ⟨rfl, rfl⟩
  handler := by
    intro i e he hstarts
    rcases Lists.getElem?_concat he with he | ⟨-, rfl⟩
    · exact h.handler i e he hstarts
    · cases hstarts
  heard := by
    intro q hq i hi
    obtain ⟨e, he, hheard⟩ := h.heard q hq i hi
    exact ⟨e, Lists.getElem?_of_prefix (List.prefix_append _ _) he, hheard⟩

theorem perform (h : OneRun handlers server view run now m) (d : Deed) :
    OneRun handlers server view run now (d.perform now m) := by
  refine Deed.keeps_perform (fun request _ _ => (h.accepting request).await ?_)
    (fun _ _ _ hfind => h.await (List.findIdx?_eq_some_iff_getElem.1 hfind).1)
    (fun _ _ => h.answered _) fun _ => ?_
  · rw [ExecutionManager.accepting, List.length_append]
    exact Nat.lt_succ_self _
  · rw [evict_eq]
    exact h.relist h.heard

end OneRun

/-- Whatever a run comes to follows from one run of a handler for each command that was accepted. -/
theorem oneRun_of_run {u : Timed ExecutionManager}
    (h : Run (machine view) Deed.perform ⟨start, .new server config handlers ⟨origin, given⟩⟩
      trace u) :
    Accounts handlers server trace u.state ∧
      ∃ run, OneRun handlers server view run u.now u.state :=
  (h.invariant (I := fun trace u => Orderly config origin given u.now u.state ∧
      Accounts handlers server trace u.state ∧
        ∃ run, OneRun handlers server view run u.now u.state)
    ⟨.new server handlers start, .new server config handlers _,
      fun _ => ⟨0, .fails ""⟩, .new server config handlers _⟩
    (fun _ _ _ ⟨horderly, haccounts, _, h⟩ _ _ =>
      ⟨horderly.fire, h.fire haccounts horderly.evictor⟩)
    (fun _ _ _ ⟨horderly, haccounts, _, h⟩ hle hdue =>
      ⟨horderly.later hle, haccounts, _, h.pass hle hdue⟩)
    fun _ _ d ⟨horderly, haccounts, _, h⟩ =>
      ⟨horderly.perform d, haccounts.perform d, _, h.perform d⟩).2

end ExecutionManager

end ScatterSearch
