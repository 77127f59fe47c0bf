import ScatterSearch.Proofs.Execution.OneRun

/-!
# Who is told an outcome

What becomes of the requests that come to a node, and what all of them together are told.

* `Keeps`: what a request waits for, and what it was told, is never changed;
* `Received` says what becomes of a request, by what it finds when it comes.

`one_run_one_outcome` puts this together with what follows from the run of each handler. What is not
said of an execution but of its id, is that it is unknown: it is as soon as somebody was told the
outcome, `unknown_after_outcome`.
-/

namespace ScatterSearch

namespace ExecutionManager

variable {view : Nat → NodeView} {server : Server} {config : ExecutionConfig} {handlers : Handlers}
  {origin given start now place : Nat} {trace : List (Nat × Deed)} {m m' : ExecutionManager}
  {d : Deed}

/-! ## Nothing is taken back -/

/-- A manager remembers what requests wait for, how long, and what they were told. -/
def Keeps (m m' : ExecutionManager) : Prop :=
  ∀ (ticket : Nat) (q : Pending), m.requests[ticket]? = some q →
    ∃ q', m'.requests[ticket]? = some q' ∧ q'.execution = q.execution ∧
      q'.deadline = q.deadline ∧ (q.reply.isSome = true → q' = q)

namespace Keeps

theorem refl (m : ExecutionManager) : Keeps m m := fun _ q hq => ⟨q, hq, rfl, rfl, fun _ => rfl⟩

theorem trans {m'' : ExecutionManager} (h : Keeps m m') (h' : Keeps m' m'') : Keeps m m'' := by
  intro ticket q hq
  obtain ⟨q', hq', hexecution, hdeadline, hreply⟩ := h ticket q hq
  obtain ⟨q'', hq'', hexecution', hdeadline', hreply'⟩ := h' ticket q' hq'
  refine ⟨q'', hq'', hexecution'.trans hexecution, hdeadline'.trans hdeadline, fun hsome => ?_⟩
  obtain rfl := hreply hsome
  exact hreply' hsome

theorem append {more : List Pending} (hm : m'.requests = m.requests ++ more) : Keeps m m' :=
  fun _ q hq => ⟨q, by rw [hm]; exact Lists.getElem?_of_prefix (List.prefix_append _ _) hq, rfl,
    rfl, fun _ => rfl⟩

theorem answer (m : ExecutionManager) (now : Nat) : Keeps m (m.answer now) := by
  intro ticket q hq
  rw [answer_eq]
  refine ⟨m.respond now q, by rw [List.getElem?_map, hq]; rfl, ?_⟩
  rw [respond]
  split
  · exact ⟨rfl, rfl, fun _ => rfl⟩
  · rename_i hnone
    exact ⟨rfl, rfl, fun hsome => absurd hsome hnone⟩

theorem fire {view : NodeView} (hev : m.evictor = none) : Keeps m (m.fire view now) :=
  fire_induction hev (refl m) (fun _ h => h) (fun _ h => h) fun _ h => h.trans (answer _ _)

theorem await (m : ExecutionManager) (now place : Nat) : Keeps m (m.await now place).2 := by
  rw [await_eq]
  exact append rfl

theorem perform (m : ExecutionManager) (now : Nat) (d : Deed) : Keeps m (d.perform now m) :=
  Deed.keeps_perform (fun request _ _ => await (m.accepting now request) now _)
    (fun _ place _ _ => await m now place) (fun _ _ => append rfl) fun _ => refl m

theorem of_run {t u : Timed ExecutionManager} (horderly : Orderly config origin given t.now t.state)
    (h : Run (machine view) Deed.perform t trace u) : Keeps t.state u.state :=
  (h.invariant
    (I := fun _ u => Orderly config origin given u.now u.state ∧ Keeps t.state u.state)
    ⟨horderly, refl _⟩ (fun _ _ _ h _ _ => ⟨h.1.fire, h.2.trans (fire h.1.evictor)⟩)
    (fun _ _ _ h hle _ => ⟨h.1.later hle, h.2⟩)
    fun _ _ d h => ⟨h.1.perform d, h.2.trans (perform _ _ d)⟩).2

end Keeps

/-! ## What becomes of a request -/

/-- A request waits for the execution at a place, up to a deadline. -/
def Waits (m : ExecutionManager) (ticket place deadline : Nat) : Prop :=
  ∃ reply, m.requests[ticket]? = some ⟨some place, deadline, reply⟩

/-- A request waits for nothing, and was told that it failed. -/
def Refused (m : ExecutionManager) (ticket : Nat) (message : String) : Prop :=
  m.requests[ticket]? = some ⟨none, 0, some (.failed message)⟩

/-- What becomes of what is done to a manager at an instant; later on the manager is `m'`. The
request of a command waits for an execution of its own. One that comes back waits for the execution
with its id if this is in the table. Both wait no longer than `wait`. All others are refused. -/
def Received (handlers : Handlers) (wait now : Nat) (m m' : ExecutionManager) : Deed → Prop
  | .execute request =>
    (handlers.has request.command = true →
      (∃ e, m'.executions[m.executions.length]? = some e ∧ e.started = now ∧ e.request = request) ∧
      m'.Waits m.requests.length m.executions.length (now + wait)) ∧
    (handlers.has request.command = false →
      m'.Refused m.requests.length (Handlers.unknownMessage request.command))
  | .reconnect id =>
    (∀ place e, m.executions[place]? = some e → e.id = id → e.listed = true →
      (∃ e', m'.executions[place]? = some e' ∧ e'.id = id) ∧
      m'.Waits m.requests.length place (now + wait)) ∧
    ((∀ e ∈ m.executions, e.id = id → e.listed = false) →
      m'.Refused m.requests.length ("Unknown execution: " ++ id.text))
  | .sweep => True

/-- A request that came in waits for as long as the manager says. -/
theorem Keeps.waits (h : Keeps (m.await now place).2 m') :
    m'.Waits m.requests.length place (now + m.wait) := by
  rw [await_eq] at h
  obtain ⟨q, hq, hexecution, hdeadline, -⟩ := h _ _ List.getElem?_concat_length
  refine ⟨q.reply, ?_⟩
  rw [hq, Option.some.injEq]
  rcases q with ⟨execution, deadline, reply⟩
  have hwaits : (m.respond now ⟨some place, now + m.wait, none⟩).execution = some place ∧
      (m.respond now ⟨some place, now + m.wait, none⟩).deadline = now + m.wait := ⟨rfl, rfl⟩
  rw [Pending.mk.injEq]
  exact ⟨hexecution.trans hwaits.1, hdeadline.trans hwaits.2, rfl⟩

theorem Keeps.refused {message : String} (h : Keeps (m.answered (.failed message)).2 m') :
    m'.Refused m.requests.length message := by
  obtain ⟨q, hq, -, -, hsame⟩ := h _ _ List.getElem?_concat_length
  rw [Refused, hq, hsame rfl]

theorem received_of_run {u v : Timed ExecutionManager} {before after : List (Nat × Deed)}
    (hbefore : Run (machine view) Deed.perform
      ⟨start, .new server config handlers ⟨origin, given⟩⟩ before u)
    (hafter : Run (machine view) Deed.perform ⟨u.now, d.perform u.now u.state⟩ after v) :
    Received handlers config.wait.toNat u.now u.state v.state d := by
  have horderly : Orderly config origin given u.now u.state := .of_run hbefore
  have hrun := (hbefore.act d).trans hafter
  have horderly' : Orderly config origin given v.now v.state := .of_run hrun
  have hkeeps : Keeps (d.perform u.now u.state) v.state :=
    .of_run (t := ⟨u.now, _⟩) (horderly.perform d) hafter
  have hwait : u.state.wait = config.wait.toNat := by rw [wait, horderly.config_eq]
  obtain ⟨haccounts, -⟩ := oneRun_of_run hbefore
  obtain ⟨haccounts', run, hone⟩ := oneRun_of_run hrun
  cases d with
  | execute request =>
    rw [Deed.perform, execute_eq, haccounts.handlers_eq] at hkeeps
    constructor
    · intro hhas
      rw [if_pos hhas] at hkeeps
      refine ⟨?_, hwait ▸ hkeeps.waits⟩
      -- the execution stands in its place among all accepted commands
      have hplace : (v.state.executions.map fun e => (e.started, e.request))[
          u.state.executions.length]? = some (u.now, request) := by
        have hlength : u.state.executions.length = (accepted handlers before).length := by
          rw [← haccounts.executions_eq, List.length_map]
        have hnew : accepted handlers [(u.now, .execute request)] = [(u.now, request)] := by
          simp [accepted, hhas]
        rw [haccounts'.executions_eq, accepted_append, accepted_append, hnew, hlength,
          List.append_assoc, List.getElem?_append_right (Nat.le_refl _), Nat.sub_self]
        rfl
      rw [List.getElem?_map, Option.map_eq_some_iff] at hplace
      obtain ⟨e, he, heq⟩ := hplace
      exact ⟨e, he, (Prod.mk.inj heq).1, (Prod.mk.inj heq).2⟩
    · intro hhas
      rw [hhas, if_neg Bool.false_ne_true] at hkeeps
      exact hkeeps.refused
  | reconnect id =>
    rw [Deed.perform, reconnect] at hkeeps
    constructor
    · rintro place e he rfl hlisted
      rw [horderly.find?_eq he, hlisted, if_pos rfl] at hkeeps
      have hwaits := hkeeps.waits
      obtain ⟨reply, hq⟩ := hwaits
      obtain ⟨e', he', -⟩ := hone.heard _ (List.mem_of_getElem? hq) place rfl
      refine ⟨⟨e', he', ?_⟩, reply, hwait ▸ hq⟩
      rw [horderly'.id_eq place e' he', horderly.id_eq place e he]
    · intro hunlisted
      have hnone : u.state.find? id = none := by
        rw [find?, List.findIdx?_eq_none_iff]
        intro e he
        by_cases hid : e.id = id
        · rw [hunlisted e he hid, Bool.false_and]
        · simp [hid]
      rw [hnone] at hkeeps
      exact hkeeps.refused
  | sweep => trivial

/-! ## What is told -/

/-- All runs of a manager, whoever comes at whatever instants. There is one execution for each
command that was accepted, and none for anything else; their ids are different, and they are in the
table until they have ended. The handler of each is started once, and what becomes of it follows
from this run, as does all that those were told who wait for it (`OneRun`). What each request waits
for, and until when, is given by the instant and the table it finds; it is refused if it names no
command of the node, or no execution in the table (`Received`). -/
theorem one_run_one_outcome {v : Timed ExecutionManager}
    (hrun : Run (machine view) Deed.perform
      ⟨start, .new server config handlers ⟨origin, given⟩⟩ trace v) :
    v.state.executions.map (fun e => (e.started, e.request)) = accepted handlers trace ∧
    (v.state.executions.map (·.id)).Nodup ∧
    (∀ e ∈ v.state.executions, e.listed = false → e.isFinished = true) ∧
    (∃ run, OneRun handlers server view run v.now v.state) ∧
    ∀ before u d after,
      Run (machine view) Deed.perform ⟨start, .new server config handlers ⟨origin, given⟩⟩
        before u →
      Run (machine view) Deed.perform ⟨u.now, d.perform u.now u.state⟩ after v →
      Received handlers config.wait.toNat u.now u.state v.state d := by
  obtain ⟨haccounts, hone⟩ := oneRun_of_run hrun
  have horderly : Orderly config origin given v.now v.state := .of_run hrun
  refine ⟨haccounts.executions_eq, horderly.nodup_ids, fun e he hunlisted => ?_, hone,
    fun _ _ _ _ hbefore hafter => received_of_run hbefore hafter⟩
  rw [← Bool.not_eq_false]
  intro hrunning
  rw [Registered.of_run hrun e he hrunning] at hunlisted
  cases hunlisted

/-- The id of the execution. -/
def slowId : ExecutionId := ⟨IdSupply.name 0 0⟩

/-- The node when somebody has come back for its execution, just before this ends. -/
def slowAwaited : ExecutionManager := (Deed.reconnect slowId).perform 200 slowAboutToEnd

/-- The node when two have come back for its execution. -/
def slowShared : ExecutionManager := (Deed.reconnect slowId).perform 200 slowAwaited

/-- Two who wait for one execution are told the same outcome, of a handler that ran once. -/
theorem slow_shared_outcome :
    let m := slowShared.fire (bareView 200) 200
    m.executions.map (fun e => (e.started, e.request)) = [(0, slowRequest)] ∧
      m.executions.map (·.starts) = [1] ∧
      (∃ run, OneRun slowNode.handlers slowNode.server bareView run 200 m) ∧
      m.Waits 2 0 210 ∧
      m.reply? 1 = some (.complete (.serverValue (.nat 1))) ∧
      m.reply? 2 = some (.complete (.serverValue (.nat 1))) := by
  have hfirst : Run (machine bareView) Deed.perform ⟨0, slowNode⟩
      [(0, Deed.execute slowRequest), (200, Deed.reconnect slowId)] ⟨200, slowAwaited⟩ :=
    run_slowAboutToEnd.act (Deed.reconnect slowId)
  have hsecond : Run (machine bareView) Deed.perform ⟨200, slowShared⟩ []
      ⟨200, slowShared.fire (bareView 200) 200⟩ :=
    Run.start.fire (show slowShared.due = some 200 by decide +kernel) (Nat.le_refl 200)
  obtain ⟨hexecutions, -, -, hone, hreceived⟩ :=
    one_run_one_outcome ((hfirst.act (Deed.reconnect slowId)).trans hsecond)
  obtain ⟨-, hwaits⟩ :=
    (hreceived _ _ (Deed.reconnect slowId) [] hfirst hsecond).1 0 _ rfl rfl rfl
  exact ⟨hexecutions, rfl, hone, hwaits, rfl, rfl⟩

/-- An outcome is told to those only who came for it before or when it was told: whoever comes back
later with the id is told that there is no such execution. -/
theorem unknown_after_outcome :
    ¬ ∀ (before after : List (Nat × Deed)) (u v : Timed ExecutionManager) (id : ExecutionId)
      (reply reply' : CommandReply),
      Run (machine bareView) Deed.perform ⟨0, slowNode⟩ before u →
      Run (machine bareView) Deed.perform ⟨u.now, (Deed.reconnect id).perform u.now u.state⟩
        after v →
      v.state.reply? u.state.requests.length = some reply → settles reply = true →
      v.state.comeBack v.now id = some reply' → settles reply' = true → reply' = reply := by
  intro h
  have hrun : Run (machine bareView) Deed.perform ⟨0, slowNode⟩ [(0, Deed.execute slowRequest)]
      ⟨200, slowEnded⟩ :=
    run_slowAboutToEnd.fireAt (show (machine bareView).due slowAboutToEnd = some 200 from rfl)
  have hreply := h _ [] _ _ slowId _ _ hrun Run.start rfl rfl rfl rfl
  cases hreply

end ExecutionManager

end ScatterSearch
