import ScatterSearch.Proofs.Execution.Table

/-!
# How long results stay for nobody

Once evictions have begun, the evictor sweeps once in every retention. A sweep takes out of the
table what has ended and was started a retention ago. So whatever nobody comes for leaves the table
with the first sweep after both, and that is at most one more retention away
(`ExecutionManager.gone_after_next_sweep`).

* `Spares` is what a turn may do to executions that have ended when it is not the evictor's: they
  may leave the table, and nothing else becomes of them;
* `Sweeping` says that the evictor goes on, and its next sweep is at most one period away. Whatever
  turns keep, and sweeps too, is kept along with it (`sweeping_of_run`);
* `Leaving` is what is kept of one execution from its end on: while it is in the table, the next
  sweep comes by a certain instant. A sweep that leaves it in the table came within a retention of
  its start, so the one after it comes within a period of that.
-/

namespace ScatterSearch

namespace ExecutionManager

/-- What a turn does at an instant. -/
abbrev Turn.act (view : Nat → NodeView) (turn : Turn) (now : Nat) :
    ExecutionManager → ExecutionManager := turn.perform (view now) now

/-- Executions that have ended stay as they are but for the table, which they may leave. The evictor
is left alone. -/
structure Spares (m m' : ExecutionManager) : Prop where
  config_eq : m'.config = m.config
  evictor_eq : m'.evictor = m.evictor
  ended : ∀ (place : Nat) (e : Execution), m.executions[place]? = some e → e.isFinished = true →
    ∃ listed : Bool, m'.executions[place]? = some { e with listed } ∧
      (listed = true → e.listed = true)

/-- The evictor goes on, and its next sweep, at `due`, is at most a period away; `P` is what else is
known of the manager and that sweep. -/
def Sweeping (period : Nat) (P : Nat → ExecutionManager → Prop) (u : Timed ExecutionManager) :
    Prop :=
  ∃ due, u.state.evictor = some ⟨period, due⟩ ∧ u.now ≤ due ∧ due ≤ u.now + period ∧
    P due u.state

/-- An execution that has ended as `e` is out of the table, or the next sweep, at `due`, comes by
`latest`. -/
def Leaving (e : Execution) (place latest due : Nat) (m : ExecutionManager) : Prop :=
  ∃ listed : Bool, m.executions[place]? = some { e with listed } ∧
    (listed = true → due ≤ latest)

variable {view : Nat → NodeView} {m m' m'' : ExecutionManager} {now place : Nat} {e : Execution}

/-! ## What turns do to executions that have ended -/

namespace Spares

theorem refl (m : ExecutionManager) : m.Spares m :=
  ⟨rfl, rfl, fun _ e he _ => ⟨e.listed, he, id⟩⟩

theorem trans (h : m.Spares m') (h' : m'.Spares m'') : m.Spares m'' := by
  refine ⟨h'.config_eq.trans h.config_eq, h'.evictor_eq.trans h.evictor_eq,
    fun place e he hended => ?_⟩
  obtain ⟨listed, he', hlisted⟩ := h.ended place e he hended
  obtain ⟨listed', he'', hlisted'⟩ := h'.ended place { e with listed } he' hended
  exact ⟨listed', he'', fun hin => hlisted (hlisted' hin)⟩

end Spares

/-- Executions change in place, and those that have ended do so only by leaving the table. -/
theorem spares_mapIdx {f : Nat → Execution → Execution} {requests : List Pending}
    (hf : ∀ i e, e.isFinished = true →
      ∃ listed : Bool, f i e = { e with listed } ∧ (listed = true → e.listed = true)) :
    m.Spares { m with executions := m.executions.mapIdx f, requests } := by
  refine ⟨rfl, rfl, fun place e he hended => ?_⟩
  obtain ⟨listed, hfe, hlisted⟩ := hf place e hended
  exact ⟨listed, by rw [List.getElem?_mapIdx, he, Option.map_some, hfe], hlisted⟩

/-- Some leave the table. -/
theorem spares_relist {stays : Nat → Execution → Bool} {requests : List Pending} :
    m.Spares { m with
      executions := m.executions.mapIdx fun i e => { e with listed := e.listed && stays i e }
      requests } :=
  spares_mapIdx fun i e _ => ⟨e.listed && stays i e, rfl, fun hin => (Bool.and_eq_true_iff.1 hin).1⟩

/-- What happens to executions that go on spares those that have ended. -/
theorem spares_change {f : Execution → Execution} (hf : ∀ e, e.isFinished = true → f e = e)
    (place : Nat) : m.Spares (m.change place f) := by
  rw [change, modify_eq_mapIdx]
  refine spares_mapIdx fun i e hended => ⟨e.listed, ?_, id⟩
  split
  · exact hf e hended
  · rfl

theorem spares_await (place : Nat) : m.Spares (m.await now place).2 := by
  rw [await_eq]
  exact spares_relist

theorem spares_accepting (request : ExecuteRequest) : m.Spares (m.accepting now request) := by
  refine ⟨rfl, rfl, fun place e he _ => ⟨e.listed, ?_, id⟩⟩
  rw [accepting, List.getElem?_append_left (List.getElem?_eq_some_iff.1 he).1, he]

theorem spares_evict : m.Spares (m.evict now).2 := by
  rw [evict_eq]
  exact spares_mapIdx fun i e _ => ⟨_, rfl, fun hin => (Bool.and_eq_true_iff.1 hin).2⟩

/-- No turn but a tick of the evictor, or its start, counts for the evictor. -/
theorem spares_perform {turn : Turn} (hstart : turn ≠ .start) (htick : turn ≠ .tick)
    (view : NodeView) : m.Spares (turn.perform view now m) := by
  cases turn with
  | deed d =>
    exact Deed.keeps_perform (fun request _ _ => (spares_accepting request).trans (spares_await _))
      (fun _ place _ _ => spares_await place) (fun _ _ => { Spares.refl m with })
      fun _ => spares_evict
  | abandon ticket => exact { Spares.refl m with }
  | start => exact absurd rfl hstart
  | begin place => exact spares_change (fun _ => Execution.begin_eq_self) place
  | finish place => exact spares_change (fun _ => Execution.finish_eq_self) place
  | answer ticket =>
    rcases answerOne_cases m now ticket with hsame | ⟨q, -, hone⟩
    · rw [Turn.perform, hsame]
      exact .refl m
    · rw [Turn.perform, hone]
      exact spares_relist
  | tick => exact absurd rfl htick

/-- All that comes at an instant before the evictor. -/
theorem spares_before_evictor (view : NodeView) :
    m.Spares ((((m.startAccepted view now).answer now).endRunning now).answer now) := by
  have starts : m.Spares (m.startAccepted view now) := by
    rw [startAccepted, map_eq_mapIdx]
    exact spares_mapIdx fun i e hended => ⟨e.listed, Execution.begin_eq_self hended, id⟩
  have ends (m : ExecutionManager) : m.Spares (m.endRunning now) :=
    spares_mapIdx fun i e hended => ⟨e.listed, Execution.finish_eq_self hended, id⟩
  have answers (m : ExecutionManager) : m.Spares (m.answer now) := by
    rw [answer_eq]
    exact spares_relist
  exact ((starts.trans (answers _)).trans (ends _)).trans (answers _)

/-! ## What the evictor does -/

/-- The evictor does nothing, or sweeps when it is due and is due again a period later. -/
theorem fireEvictor_cases {period due : Nat} (hevictor : m.evictor = some ⟨period, due⟩)
    (hnow : now ≤ due) :
    m.fireEvictor now = m ∧ now < due ∨ now = due ∧
      m.fireEvictor now = { (m.evict now).2 with evictor := some ⟨period, due + period⟩ } := by
  rcases Nat.lt_or_ge now due with hlt | hge
  · left
    refine ⟨?_, hlt⟩
    rw [fireEvictor, hevictor]
    exact if_neg (Nat.not_le_of_lt hlt)
  · right
    obtain rfl := Nat.le_antisymm hnow hge
    refine ⟨rfl, ?_⟩
    have hprompt : ¬ now + Ticker.tolerance < now := Nat.not_lt.2 (Nat.le_add_right _ _)
    simp only [fireEvictor, hevictor, Ticker.take, Nat.le_refl, if_true, if_neg hprompt]

namespace Sweeping

variable {period : Nat} {P : Nat → ExecutionManager → Prop} {u : Timed ExecutionManager}

theorem spares (h : Sweeping period P u)
    (hkeeps : ∀ due m m', m.Spares m' → P due m → P due m')
    (hspares : u.state.Spares m') : Sweeping period P ⟨u.now, m'⟩ := by
  obtain ⟨due, hevictor, hnow, hdue, h⟩ := h
  exact ⟨due, hspares.evictor_eq.trans hevictor, hnow, hdue, hkeeps due _ _ hspares h⟩

theorem fireEvictor (h : Sweeping period P u)
    (hkeeps : ∀ due m t, P due m → P (due + period) { (m.evict due).2 with evictor := t }) :
    Sweeping period P ⟨u.now, u.state.fireEvictor u.now⟩ := by
  obtain ⟨due, hevictor, hnow, hdue, h⟩ := h
  rcases fireEvictor_cases hevictor hnow with ⟨hsame, -⟩ | ⟨heq, hswept⟩
  · rw [hsame]
    exact ⟨due, hevictor, hnow, hdue, h⟩
  · rw [hswept, heq]
    exact ⟨due + period, rfl, Nat.le_add_right _ _, Nat.le_refl _, hkeeps due _ _ h⟩

/-- Time does not pass the next sweep. -/
theorem pass (h : Sweeping period P u) (hle : u.now ≤ now)
    (hdue : ∀ due, (machine view).due u.state = some due → now ≤ due) :
    Sweeping period P ⟨now, u.state⟩ := by
  obtain ⟨due, hevictor, -, hbound, h⟩ := h
  obtain ⟨first, hfirst, hle'⟩ :
      ∃ first, (machine view).due u.state = some first ∧ first ≤ due := by
    refine Lists.exists_min?_le (List.mem_append_right _ ?_)
    rw [hevictor]
    exact List.mem_singleton.2 rfl
  exact ⟨due, hevictor, Nat.le_trans (hdue first hfirst) hle',
    Nat.le_trans hbound (Nat.add_le_add_right hle _), h⟩

end Sweeping

/-- While nobody lets evictions begin anew, the evictor goes on. What all turns keep, and every
sweep together with the time to the next one, is kept with it. -/
theorem sweeping_of_run {period : Nat} {P : Nat → ExecutionManager → Prop}
    {t u : Timed ExecutionManager} {trace : List (Nat × Turn)}
    (h : Run (machine view) (Turn.act view) t trace u) (hsweeping : Sweeping period P t)
    (hon : ∀ a ∈ trace, a.2 ≠ .start)
    (hspares : ∀ due m m', m.Spares m' → P due m → P due m')
    (hsweep : ∀ due m t, P due m → P (due + period) { (m.evict due).2 with evictor := t }) :
    Sweeping period P u := by
  induction h with
  | start => exact hsweeping
  | fire _ _ _ ih =>
    exact ((ih hon).spares hspares (spares_before_evictor _)).fireEvictor hsweep
  | pass _ hle hdue ih => exact (ih hon).pass hle hdue
  | @act trace u turn _ ih =>
    have hbefore := ih fun a ha => hon a (List.mem_append_left _ ha)
    have hstart : turn ≠ .start := hon _ (List.mem_append_right _ (List.mem_singleton.2 rfl))
    by_cases htick : turn = .tick
    · subst htick
      exact hbefore.fireEvictor hsweep
    · exact hbefore.spares hspares (spares_perform hstart htick _)

/-! ## Executions that have ended -/

/-- An execution that is about to leave is so still. -/
theorem Leaving.spares {latest due : Nat} (h : m.Leaving e place latest due)
    (hended : e.isFinished = true) (hspares : m.Spares m') : m'.Leaving e place latest due := by
  obtain ⟨listed, he, hlatest⟩ := h
  obtain ⟨listed', he', hlisted⟩ := hspares.ended place { e with listed } he hended
  exact ⟨listed', he', fun hin => hlatest (hlisted hin)⟩

/-- What a sweep leaves in the table was started less than a retention ago, so the next sweep comes
in time. -/
theorem Leaving.evict {latest due period : Nat} (h : m.Leaving e place latest due)
    (hended : e.isFinished = true) (hlatest : e.started + m.retention + period ≤ latest) :
    (m.evict due).2.Leaving e place latest (due + period) := by
  obtain ⟨listed, he, -⟩ := h
  refine ⟨!isStale m.retention due { e with listed } && listed, ?_, fun hin => ?_⟩
  · rw [evict_eq, List.getElem?_mapIdx, he, Option.map_some]
  · obtain ⟨hfresh, rfl⟩ := Bool.and_eq_true_iff.1 hin
    have hend : ({ e with listed := true } : Execution).isFinished = true := hended
    rw [isStale, hend, Bool.and_true, Bool.true_and, Bool.not_eq_true', decide_eq_false_iff_not]
      at hfresh
    have hyoung : ¬ m.retention ≤ due - e.started := hfresh
    omega

/-! ## Runs -/

/-- In a run the configuration stays. -/
theorem config_of_run {t u : Timed ExecutionManager} {trace : List (Nat × Turn)}
    (h : Run (machine view) (Turn.act view) t trace u) : u.state.config = t.state.config := by
  have evictor (m : ExecutionManager) (now : Nat) : (m.fireEvictor now).config = m.config := by
    rw [fireEvictor]
    split
    · split <;> rfl
    · rfl
  refine h.invariant (I := fun _ u => u.state.config = t.state.config) rfl ?_ ?_ ?_
  · intro _ u _ h _ _
    exact ((evictor _ _).trans (spares_before_evictor _).config_eq).trans h
  · intro _ u _ h _ _
    exact h
  · intro _ u turn h
    refine Eq.trans ?_ h
    by_cases hstart : turn = .start
    · rw [hstart]
      rfl
    · by_cases htick : turn = .tick
      · rw [htick]
        exact evictor u.state u.now
      · exact (spares_perform hstart htick _).config_eq

/-- An execution that is at its place and out of the table is not in the table: its id is that of no
other execution. -/
theorem notMem_table {origin given : Nat} (h : Numbered origin given m)
    (he : m.executions[place]? = some { e with listed := false }) : e.id ∉ m.table := by
  rw [mem_table]
  rintro ⟨place', e', he', hlisted, hid⟩
  obtain rfl := h.place_eq he' he hid
  obtain rfl := Option.some.inj (he'.symm.trans he)
  cases hlisted

/-- Let evictions begin at some time in the life of a manager, and not begin anew after that. When
an execution has ended, then, whether or not anybody has come for its result, it is in the table no
longer than until both its end and the retention after its start are past for one more retention,
which is the time between sweeps; a retention of zero counts as a millisecond there. Commands,
reconnects, sweeps by hand and requests that are given up may come at any instants, and handlers
take any time, also past any number of sweeps. -/
theorem gone_after_next_sweep {server : Server} {config : ExecutionConfig} {handlers : Handlers}
    {origin given begin : Nat} {w v u : Timed ExecutionManager}
    {before meanwhile after : List (Nat × Turn)}
    (hbefore : Run (machine view) (Turn.act view)
      ⟨begin, .new server config handlers ⟨origin, given⟩⟩ before w)
    (hv : Run (machine view) (Turn.act view) ⟨w.now, w.state.start w.now⟩ meanwhile v)
    (he : v.state.executions[place]? = some e) (hended : e.isFinished = true)
    (hu : Run (machine view) (Turn.act view) v after u)
    (hon : ∀ a ∈ meanwhile ++ after, a.2 ≠ .start)
    (hlate : max v.now (e.started + config.retention.toNat) + max config.retention.toNat 1 <
      u.now) : e.id ∉ u.state.table := by
  have hconfig : w.state.config = config := config_of_run hbefore
  have hperiod : w.state.retention = config.retention.toNat := by rw [retention, hconfig]
  -- the evictor goes on until the end of the execution, whatever else is known
  have hstart : Sweeping (max config.retention.toNat 1) (fun _ m => m.config = config)
      ⟨w.now, w.state.start w.now⟩ := by
    refine ⟨w.now + max config.retention.toNat 1, ?_, Nat.le_add_right _ _, Nat.le_refl _, hconfig⟩
    rw [start, hperiod]
    rfl
  obtain ⟨due, hevictor, hnow, hdue, hconfig_v⟩ := sweeping_of_run hv hstart
    (fun a ha => hon a (List.mem_append_left _ ha)) (fun _ _ _ hs h => hs.config_eq.trans h)
    fun _ _ _ h => h
  -- from there on the execution is about to leave
  have hleaving := sweeping_of_run
    (P := fun due m => m.config = config ∧ m.Leaving e place
      (max v.now (e.started + config.retention.toNat) + max config.retention.toNat 1) due) hu
    ⟨due, hevictor, hnow, hdue, hconfig_v, e.listed, he, fun _ => by omega⟩
    (fun a ha => hon a (List.mem_append_right _ ha))
    (fun _ _ _ hs h => ⟨hs.config_eq.trans h.1, h.2.spares hended hs⟩) ?_
  · obtain ⟨due', -, hnow', -, -, listed, he', hlatest⟩ := hleaving
    have hout : listed = false := by
      rw [← Bool.not_eq_true]
      intro hin
      have := hlatest hin
      omega
    subst hout
    obtain ⟨turns, -, hturns⟩ :=
      exists_turns_of_run (((hbefore.act Turn.start).trans hv).trans hu)
    have hfiled : Filed handlers server origin given turns u.state := hturns ▸ .after view turns
    exact notMem_table hfiled.toNumbered he'
  · intro due m t h
    refine ⟨h.1, Leaving.evict h.2 hended ?_⟩
    rw [retention, h.1]
    omega

/-- A node that sweeps every hundred milliseconds, when its command, given at the fifth, has just
ended: five milliseconds after a sweep. -/
def sweptEnded : ExecutionManager :=
  let given := ((slowNode.start 0).execute 5 slowRequest).2
  let told := (given.fire (bareView 5) 5).fire (bareView 15) 15
  ((told.fire (bareView 100) 100).fire (bareView 200) 200).fire (bareView 205) 205

/-- The sweep after the end takes the result out of the table. -/
theorem slow_gone_after_next_sweep : ⟨IdSupply.name 0 0⟩ ∈ sweptEnded.table ∧
    ⟨IdSupply.name 0 0⟩ ∉ (sweptEnded.fire (bareView 300) 300).table := by
  have hgiven : Run (machine bareView) (Turn.act bareView) ⟨0, slowNode.start 0⟩
      [(5, Turn.deed (.execute slowRequest))]
      ⟨5, ((slowNode.start 0).execute 5 slowRequest).2⟩ := by
    have hfifth : Run (machine bareView) (Turn.act bareView) ⟨0, slowNode.start 0⟩ []
        ⟨5, slowNode.start 0⟩ := by
      refine Run.start.pass (by decide) fun due hdue => ?_
      obtain rfl : 100 = due := Option.some.inj hdue
      decide
    exact hfifth.act (Turn.deed (.execute slowRequest))
  have hended : Run (machine bareView) (Turn.act bareView) ⟨0, slowNode.start 0⟩
      [(5, Turn.deed (.execute slowRequest))] ⟨205, sweptEnded⟩ :=
    ((((hgiven.fireAt (show _ = some 0 from rfl)).fireAt (show _ = some 15 from rfl)).fireAt
      (show _ = some 100 from rfl)).fireAt (show _ = some 200 from rfl)).fireAt
        (show _ = some 205 from rfl)
  have hswept : Run (machine bareView) (Turn.act bareView) ⟨205, sweptEnded⟩ []
      ⟨306, sweptEnded.fire (bareView 300) 300⟩ := by
    refine (Run.start.fireAt (show _ = some 300 from rfl)).pass (by decide) fun due hdue => ?_
    obtain rfl : 400 = due := Option.some.inj hdue
    decide
  refine ⟨List.mem_singleton.2 rfl, ?_⟩
  have hexecution : sweptEnded.executions[0]? =
      some { slowExecution (.ended (.ok (.serverValue (.nat 1)))) with started := 5 } := rfl
  exact gone_after_next_sweep Run.start hended hexecution rfl hswept (by simp) (by decide)

end ExecutionManager

end ScatterSearch
