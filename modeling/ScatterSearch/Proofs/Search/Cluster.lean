import ScatterSearch.Proofs.Search.Index
import ScatterSearch.Proofs.Search.Merging

/-!
# Clusters

The nodes of a cluster, seen from one of them that coordinates searches, and all that others do with
them: documents are indexed, searches and reads are started, dropped and cancelled, layouts and
queries change, and nodes are asked for other things (`Coordinator.Deed`).

Whatever was done, every node has the index of the documents that it was given, and calls that are
made from now on are answered with it (`Coordinator.Prepared`). To give a document to a node is to
begin anew: nothing is promised of the calls and executions that there are.
-/

namespace ScatterSearch

/-! ## Documents -/

namespace Host

/-- Gives a document to a node. -/
def file (f : Filing) (h : Host) : Host := { h with index := h.index.index f.shard f.id f.text }

end Host

/-- What is expected of nodes, after one of them with `since` executions was given a document. -/
def Standard.file (S : Nat → Standard) (place since : Nat) (f : Filing) : Nat → Standard :=
  fun p => if p = place then
    { S p with since, index := (S p).index.index f.shard f.id f.text }
  else S p

/-- How many executions there are at the node at a place. -/
def Network.executionsAt (n : Network) (place : Nat) : Nat :=
  ((n.hosts[place]?).map (·.manager.executions.length)).getD 0

theorem Network.Faithful.file {S : Nat → Standard} {n : Network} (hf : n.Faithful S) (place : Nat)
    (f : Filing) : ({ n with hosts := n.hosts.modify place (Host.file f) } : Network).Faithful
      (Standard.file S place (n.executionsAt place) f) := by
  intro p h' hh'
  rw [List.getElem?_modify, Option.map_eq_map, Option.map_eq_some_iff] at hh'
  obtain ⟨h, hh, rfl⟩ := hh'
  have hhost := hf p h hh
  by_cases hp : place = p
  · subst hp
    rw [Standard.file, if_pos rfl, if_pos rfl, executionsAt, hh]
    refine ⟨hhost.handlers_eq, ?_, hhost.admits, hhost.manager.renew _⟩
    rw [← hhost.index_eq]
    rfl
  · rw [Standard.file, if_neg (Ne.symm hp)]
    simpa [hp] using hhost

/-- Of the calls that there are nothing more is said. -/
theorem Outbound.Faithful.renew {S S' : Nat → Standard} {first : Nat} {o : Outbound}
    (hf : o.Faithful S first) {network : Network} (h : network.Faithful S') :
    Faithful S' o.workers.calls.length { o with network } where
  network := h
  first_le := Nat.le_refl _
  waits := by
    intro place ticket hplace hget
    obtain ⟨terms, request, horder, -⟩ :=
      hf.waits place ticket (Nat.le_trans hf.first_le hplace) hget
    have hlt : place < o.orders.length := (List.getElem?_eq_some_iff.1 horder).1
    rw [orders, List.length_map] at hlt
    -- only calls that there are wait
    exact absurd hlt (Nat.not_lt_of_le hplace)
  responses := fun place c hplace hc =>
    absurd (List.getElem?_eq_some_iff.1 hc).1 (Nat.not_lt_of_le hplace)

/-! ## What others do -/

namespace Coordinator

/-- What others do with a cluster. -/
inductive Deed where
  | search (table : String) (query : QueryDescriptor)
  | drop (place : Nat)
  /-- changes what is known of the queries -/
  | statuses (change : StatusMonitor → StatusMonitor)
  | read (kind : CommandKind) (allOrNothing : Bool) (c : Command) (value : Decoder Json)
  | cancel (handle : CallHandle)
  | layouts (layout : Layout)
  /-- asks something else of the node at a place -/
  | node (place : Nat) (d : ExecutionManager.Deed)
  /-- starts the sweeps of the node at a place -/
  | start (place : Nat)
  /-- ends all executions of the node at a place -/
  | shutdown (place : Nat)
  /-- gives a document to the node at a place -/
  | index (place : Nat) (f : Filing)

/-- Changes the node at a place. -/
def changeHost (c : Coordinator) (place : Nat) (f : Host → Host) : Coordinator :=
  c.setNetwork { c.network with hosts := c.network.hosts.modify place f }

/-- What becomes of a cluster when somebody does something. -/
def Deed.perform : Deed → Nat → Coordinator → Coordinator
  | .search table query, now, c => (c.search now table query).2
  | .drop place, now, c => c.drop now place
  | .statuses change, _, c => { c with statuses := change c.statuses }
  | .read kind allOrNothing command value, _, c =>
    c.setExecutor (c.executor.read kind allOrNothing command value).2
  | .cancel handle, _, c => c.setExecutor (c.executor.cancel handle)
  | .layouts layout, _, c => c.setLayouts layout
  | .node place d, now, c =>
    c.changeHost place fun h => { h with manager := d.perform now h.manager }
  | .start place, now, c => c.changeHost place fun h => { h with manager := h.manager.start now }
  | .shutdown place, _, c => c.changeHost place fun h => { h with manager := h.manager.shutdown }
  | .index place f, _, c => c.changeHost place (Host.file f)

/-- The document that is given to the node at a place. -/
def Deed.filing? (place : Nat) : Deed → Option Filing
  | .index p f => if p = place then some f else none
  | _ => none

/-- Whether nodes may keep to their standards when something is done: they are given no documents,
and a layout only if their standards admit what they serve by it. -/
def Deed.Respects (S : Nat → Standard) (d : Deed) : Prop :=
  (∀ place, d.filing? place = none) ∧
    ∀ layout, d = .layouts layout → ∀ place server, (S place).admits server (layout.served server)

theorem respects_of_tolerant {S : Nat → Standard} (hS : ∀ place, (S place).Tolerant) {d : Deed}
    (hd : ∀ place, d.filing? place = none) : d.Respects S :=
  ⟨hd, fun _ _ place _ => hS place _ _⟩

/-- The documents that were given to the node at a place, in order. -/
def filings (trace : List (Nat × Deed)) (place : Nat) : List Filing :=
  trace.filterMap fun a => a.2.filing? place

variable {S : Nat → Standard} {first now : Nat} {c : Coordinator}

section

variable {place : Nat} {s : Search} {m m' : Merge SearchResults}

/-! ## A search that is gone -/

theorem getElem?_setStage (hs : c.searches[place]? = some s) (stage : SearchStage) :
    (c.setStage place stage).searches[place]? = some { s with stage } := by
  rw [setStage, List.getElem?_modify, hs]
  simp

theorem getElem?_setStage_of_ne {p : Nat} (hp : p ≠ place) (stage : SearchStage) :
    (c.setStage p stage).searches[place]? = c.searches[place]? :=
  List.getElem?_modify_ne _ _ hp

/-- Nobody waits for a search that is over. -/
theorem drop_of_over (hs : c.searches[place]? = some s) (hover : ∀ m, s.stage ≠ .merging m)
    (now : Nat) : c.drop now place = c := by
  simp only [drop, hs]

/-- What it is for a search that goes on to be dropped. -/
theorem drop_eq (hs : c.searches[place]? = some s) (hstage : s.stage = .merging m) (now : Nat) :
    c.drop now place = (c.setStage place .dropped).finishQuery now s := by
  simp only [drop, hs, hstage]

theorem executor_drop (now place : Nat) (c : Coordinator) :
    (c.drop now place).executor = c.executor := by
  rw [drop]
  split
  · split <;> rfl
  · rfl

theorem searches_drop (c : Coordinator) (now place : Nat) :
    (c.drop now place).searches = c.searches ∨
      (c.drop now place).searches = (c.setStage place .dropped).searches := by
  rw [drop]
  split
  · split
    · exact .inr rfl
    · exact .inl rfl
  · exact .inl rfl

theorem getElem?_drop_of_ne {p : Nat} (hp : p ≠ place) (now : Nat) :
    (c.drop now p).searches[place]? = c.searches[place]? := by
  rcases searches_drop c now p with hsame | hdropped
  · rw [hsame]
  · rw [hdropped, getElem?_setStage_of_ne hp]

/-! ## One look -/

/-- The look of a search that goes on. -/
def look (c : Coordinator) (now : Nat) (s : Search) (m : Merge SearchResults) :
    MergeProgress SearchResults :=
  m.poll .search now ((c.registry.status? s.status).bind (·.cancelReason)) (c.ready s.handles)

/-- A search that has not ended takes what is there. -/
theorem pollSearch_waiting (hs : c.searches[place]? = some s) (hstage : s.stage = .merging m)
    (hlook : c.look now s m = .waiting m') :
    pollSearch now c place = { c with searches := c.searches.set place { s with
      handles := s.handles.filter fun h => !c.executor.isFinished h
      stage := .merging m' } } := by
  rw [look] at hlook
  simp only [pollSearch, hs, hstage, hlook]

/-- A search that ends stops its calls, has its response, and finishes its query. -/
theorem pollSearch_ended (hs : c.searches[place]? = some s) (hstage : s.stage = .merging m)
    {result : Except ClusterError (MergeOutcome SearchResults)}
    (hlook : c.look now s m = .ended result) :
    pollSearch now c place =
      ((c.stopCalls (s.handles.filter fun h => !c.executor.isFinished h)).setStage place
        (.ended (result.map s.response))).finishQuery now s := by
  rw [look] at hlook
  simp only [pollSearch, hs, hstage, hlook]

/-- A search whose merge panics is gone. -/
theorem pollSearch_panicked (hs : c.searches[place]? = some s) (hstage : s.stage = .merging m)
    (hlook : c.look now s m = .panicked) : pollSearch now c place = c.drop now place := by
  rw [look] at hlook
  simp only [pollSearch, hs, hstage, hlook]

/-- A search that is over does not look. -/
theorem pollSearch_of_over (hs : c.searches[place]? = some s)
    (hover : ∀ m, s.stage ≠ .merging m) (now : Nat) : pollSearch now c place = c := by
  simp only [pollSearch, hs]

/-- What a look of a search can do. -/
theorem pollSearch_cases (now : Nat) (c : Coordinator) (place : Nat) :
    pollSearch now c place = c ∨ pollSearch now c place = c.drop now place ∨
    (∃ s m m', c.searches[place]? = some s ∧ s.stage = .merging m ∧
      c.look now s m = .waiting m' ∧
      pollSearch now c place = { c with searches := c.searches.set place { s with
        handles := s.handles.filter fun h => !c.executor.isFinished h
        stage := .merging m' } }) ∨
    ∃ s m result, c.searches[place]? = some s ∧ s.stage = .merging m ∧
      c.look now s m = .ended result ∧
      pollSearch now c place =
        ((c.stopCalls (s.handles.filter fun h => !c.executor.isFinished h)).setStage place
          (.ended (result.map s.response))).finishQuery now s := by
  cases hs : c.searches[place]? with
  | none =>
    left
    simp only [pollSearch, hs]
  | some s =>
    cases hstage : s.stage with
    | merging m =>
      right
      cases hlook : c.look now s m with
      | waiting m' =>
        exact .inr (.inl ⟨s, m, m', rfl, hstage, hlook, pollSearch_waiting hs hstage hlook⟩)
      | ended result =>
        exact .inr (.inr ⟨s, m, result, rfl, hstage, hlook, pollSearch_ended hs hstage hlook⟩)
      | panicked => exact .inl (pollSearch_panicked hs hstage hlook)
    | ended => exact .inl (pollSearch_of_over hs (by simp [hstage]) now)
    | dropped => exact .inl (pollSearch_of_over hs (by simp [hstage]) now)

/-- A search that looks leaves the calls alone, or stops those that it waits for. -/
theorem executor_pollSearch (now : Nat) (c : Coordinator) (place : Nat) :
    (pollSearch now c place).executor = c.executor ∨
    ∃ s, c.searches[place]? = some s ∧ (pollSearch now c place).executor =
      (c.stopCalls (s.handles.filter fun h => !c.executor.isFinished h)).executor := by
  rcases pollSearch_cases now c place with
    hover | hgone | ⟨s, m, m', -, -, -, hwaiting⟩ | ⟨s, m, result, hs, -, -, hended⟩
  · exact .inl (by rw [hover])
  · exact .inl (by rw [hgone, executor_drop])
  · exact .inl (by rw [hwaiting])
  · exact .inr ⟨s, hs, by rw [hended]; rfl⟩

/-- What every look keeps is kept when all searches look. -/
theorem keeps_pollAll {P : Coordinator → Prop} (hlook : ∀ c place, P c → P (pollSearch now c place))
    (h : P c) : P (c.pollAll now) :=
  List.foldlRecOn _ _ h fun c hc place _ => hlook c place hc

end

/-! ## Calls go on -/

/-- What was ordered stays so when calls are told to stop. -/
theorem later_stopCalls (hf : c.executor.outbound.Faithful S first) (handles : List CallHandle) :
    Outbound.Later S first c.executor.outbound (c.stopCalls handles).executor.outbound :=
  (Executor.later_stop hf handles).outbound

theorem later_pollSearch (hf : c.executor.outbound.Faithful S first) (now place : Nat) :
    Outbound.Later S first c.executor.outbound
      (pollSearch now c place).executor.outbound := by
  rcases executor_pollSearch now c place with hsame | ⟨s, -, hstopped⟩
  · rw [hsame]
    exact .refl hf
  · rw [hstopped]
    exact later_stopCalls hf _

theorem later_pollAll (hf : c.executor.outbound.Faithful S first) (now : Nat) :
    Outbound.Later S first c.executor.outbound (c.pollAll now).executor.outbound :=
  keeps_pollAll (P := fun c' => Outbound.Later S first c.executor.outbound c'.executor.outbound)
    (fun _ place h => h.trans (later_pollSearch h.faithful now place)) (.refl hf)

/-- What happens by itself at an instant, before the searches look. -/
def settle (now : Nat) (c : Coordinator) : Coordinator :=
  if c.searchDue.any (· ≤ now) then c
  else { c with
    executor := Clock.settle Executor.machine now c.executor
    statuses := if c.statuses.due.any (· ≤ now) then c.statuses.fire now else c.statuses }

/-- A turn of a coordinator is one of its parts, and then the looks of all searches. -/
theorem fire_eq_settle (now : Nat) (c : Coordinator) : c.fire now = (c.settle now).pollAll now := by
  rw [fire, settle]
  split <;> rfl

/-- What was ordered stays so at a turn of the parts. -/
theorem later_settle (hf : c.executor.outbound.Faithful S first) (now : Nat) :
    Outbound.Later S first c.executor.outbound (c.settle now).executor.outbound := by
  rw [settle]
  split
  · exact .refl hf
  · exact (Executor.later_settle hf).outbound

/-- What was ordered stays so at a turn of the coordinator. -/
theorem later_fire (hf : c.executor.outbound.Faithful S first) (now : Nat) :
    Outbound.Later S first c.executor.outbound (c.fire now).executor.outbound := by
  have hsettle := later_settle hf now
  rw [fire_eq_settle]
  exact hsettle.trans (later_pollAll hsettle.faithful now)

/-- What the scattering of a search comes to. -/
def scattered (c : Coordinator) (table : String) (query : QueryDescriptor) :
    Except ClusterError (List CallHandle) × Executor :=
  c.executor.startWithin (some query.maxQueryTime.toNat) .indexRead
    (searchCommand table query.query)

/-- A search that was scattered, before it looks for the first time. -/
def launched (c : Coordinator) (now : Nat) (table : String) (query : QueryDescriptor)
    (args : SearchArguments) (handles : List CallHandle) : Coordinator :=
  let c' := c.setRegistry (c.registry.register now table query)
  (c'.setExecutor (c.scattered table query).2).push {
    table, query, handles
    limit := args.limit.toNat
    status := c.registry.records.length
    stage := .merging (.start .search ⟨query.minimumResults, query.maxQueryTime.toNat⟩
      query.query.render handles.length now) }

/-- A search is named by its place. -/
theorem search_fst (c : Coordinator) (now : Nat) (table : String) (query : QueryDescriptor) :
    (c.search now table query).1 = c.searches.length := by
  rw [search]
  split
  · rfl
  · dsimp only
    split <;> rfl

/-- A search is refused, fails to be scattered, or is launched and looks. -/
theorem search_cases (c : Coordinator) (now : Nat) (table : String) (query : QueryDescriptor) :
    (∃ (s : Search) (e : ClusterError),
      (c.search now table query).2.searches =
        c.searches ++ [{ s with stage := .ended (.error e) }] ∧
      ((c.search now table query).2.executor = c.executor ∨
        (c.search now table query).2.executor = (c.scattered table query).2)) ∨
    ∃ args handles, (Wire.decode : Decoder SearchArguments).run query.query = .ok args ∧
      (c.scattered table query).1 = .ok handles ∧
      (c.search now table query).2 =
        pollSearch now (c.launched now table query args handles) c.searches.length := by
  cases hargs : (Wire.decode : Decoder SearchArguments).run query.query with
  | error e =>
    refine .inl ⟨⟨table, query, 0, c.registry.records.length, [], .dropped⟩,
      .rejected Builtin.searchCommand e.message, ?_, .inl ?_⟩
    · simp only [search, hargs]
      rfl
    · simp only [search, hargs]
      rfl
  | ok args =>
    cases hhandles : (c.scattered table query).1 with
    | error e =>
      have hscattered := hhandles
      rw [scattered, searchCommand] at hscattered
      refine .inl ⟨⟨table, query, 0, c.registry.records.length, [], .dropped⟩, e, ?_, .inr ?_⟩
      · simp only [search, hargs, setRegistry, hscattered]
        rfl
      · simp only [search, hargs, setRegistry, hscattered]
        rfl
    | ok handles =>
      refine .inr ⟨args, handles, rfl, rfl, ?_⟩
      rw [scattered, searchCommand] at hhandles
      simp only [search, hargs, setRegistry, hhandles]
      rfl

/-- What was ordered stays so when a search is scattered. -/
theorem later_scattered (hf : c.executor.outbound.Faithful S first) (table : String)
    (query : QueryDescriptor) :
    Outbound.Later S first c.executor.outbound (c.scattered table query).2.outbound :=
  (Executor.later_startWithin hf .indexRead (searchCommand table query.query)).outbound

theorem later_search (hf : c.executor.outbound.Faithful S first) (now : Nat) (table : String)
    (query : QueryDescriptor) : Outbound.Later S first c.executor.outbound
      (c.search now table query).2.executor.outbound := by
  have hstart := later_scattered hf table query
  rcases search_cases c now table query with
    ⟨-, -, -, hsame | hscattered⟩ | ⟨args, handles, -, -, hlaunched⟩
  · rw [hsame]
    exact .refl hf
  · rw [hscattered]
    exact hstart
  · rw [hlaunched]
    have hfaithful : (c.launched now table query args handles).executor.outbound.Faithful S first :=
      hstart.faithful
    exact hstart.trans (later_pollSearch hfaithful now _)

theorem later_drop (hf : c.executor.outbound.Faithful S first) (now place : Nat) :
    Outbound.Later S first c.executor.outbound (c.drop now place).executor.outbound := by
  rw [drop]
  split
  · split <;> exact .refl hf
  · exact .refl hf

/-- The nodes change, and keep what they are asked for. -/
theorem later_hosts (hf : c.executor.outbound.Faithful S first) {f : Nat → Host → Host}
    (hfaithful : ∀ (place : Nat) (h : Host), h.Faithful (S place) →
      (f place h).Faithful (S place) ∧ h.manager.Extends (f place h).manager) :
    Outbound.Later S first c.executor.outbound
      (c.setNetwork { c.network with hosts := c.network.hosts.mapIdx f }).executor.outbound := by
  refine hf.later_of_network (hf.network.later_of_hosts (fun place h' hh' => ?_) ?_)
  · rw [List.getElem?_mapIdx, Option.map_eq_some_iff] at hh'
    obtain ⟨h, hh, rfl⟩ := hh'
    exact ⟨h, hh, fun hhost => (hfaithful place h hhost).1,
      (hfaithful place h (hf.network place h hh)).2⟩
  · exact List.length_mapIdx

theorem later_changeHost (hf : c.executor.outbound.Faithful S first) (place : Nat)
    {f : Host → Host} (hfaithful : ∀ h : Host, h.Faithful (S place) →
      (f h).Faithful (S place) ∧ h.manager.Extends (f h).manager) :
    Outbound.Later S first c.executor.outbound (c.changeHost place f).executor.outbound := by
  rw [changeHost, ExecutionManager.modify_eq_mapIdx]
  refine later_hosts hf fun p h hhost => ?_
  split
  · rename_i heq
    subst heq
    exact hfaithful h hhost
  · exact ⟨hhost, .refl _⟩

/-- Whatever others do, if it lets the nodes keep to their standards, the calls go on. -/
theorem later_perform (hf : c.executor.outbound.Faithful S first) (now : Nat) {d : Deed}
    (hd : d.Respects S) :
    Outbound.Later S first c.executor.outbound (d.perform now c).executor.outbound := by
  cases d with
  | search table query => exact later_search hf now table query
  | drop place => exact later_drop hf now place
  | statuses change => exact .refl hf
  | read kind allOrNothing command value =>
    exact (Executor.later_read hf kind allOrNothing command value).outbound
  | cancel handle => exact (Executor.later_cancel hf handle).outbound
  | layouts layout =>
    refine hf.later_of_network (hf.network.later_of_hosts (fun place h' hh' => ?_) ?_)
    · obtain ⟨h, hh, rfl⟩ := Option.map_eq_some_iff.1 (List.getElem?_map.symm.trans hh')
      exact ⟨h, hh, fun hhost => { hhost with admits := hd.2 layout rfl place _ }, .refl _⟩
    · exact List.length_map _
  | node place d =>
    refine later_changeHost hf place fun h hhost => ?_
    have hextends := ExecutionManager.extends_perform h.manager now d
    exact ⟨hhost.set (hhost.manager.perform d) hextends, hextends⟩
  | start place =>
    refine later_changeHost hf place fun h hhost => ?_
    have hextends := ExecutionManager.extends_start h.manager now
    exact ⟨hhost.set hhost.manager.start hextends, hextends⟩
  | shutdown place =>
    refine later_changeHost hf place fun h hhost => ?_
    have hextends := ExecutionManager.extends_shutdown h.manager
    exact ⟨hhost.set hhost.manager.shutdown hextends, hextends⟩
  | index place f =>
    have hnone := hd.1 place
    rw [Deed.filing?, if_pos rfl] at hnone
    cases hnone

/-- What was ordered stays so in every run that respects the standards of the nodes. -/
theorem later_of_run {t u : Timed Coordinator} {trace : List (Nat × Deed)}
    (hf : t.state.executor.outbound.Faithful S first) (h : Run machine Deed.perform t trace u)
    (hdeeds : ∀ d ∈ trace, d.2.Respects S) :
    Outbound.Later S first t.state.executor.outbound u.state.executor.outbound := by
  induction h with
  | start => exact .refl hf
  | fire _ _ _ ih => exact (ih hdeeds).trans (later_fire (ih hdeeds).faithful _)
  | pass _ _ _ ih => exact ih hdeeds
  | act d _ ih =>
    have hlater := ih fun d' hd' => hdeeds d' (List.mem_append_left _ hd')
    refine hlater.trans (later_perform hlater.faithful _ ?_)
    exact hdeeds _ (List.mem_append_right _ (List.mem_singleton_self _))

end Coordinator

/-! ## Clusters -/

/-- What a node of a cluster is started with. -/
structure Member where
  server : Server
  config : ExecutionConfig
  /-- the handlers beside that of searches -/
  handlers : Handlers
  layout : Layout
  ids : IdSupply

/-- The node at rest. -/
def Member.host (m : Member) : Host :=
  ⟨.new m.server m.config (m.handlers.register Builtin.searchCommand Builtin.search) m.ids,
    m.layout, .empty⟩

/-- What a cluster is started with: its nodes, how they are reached, and what the coordinator knows.
-/
structure Cluster where
  members : List Member
  routes : Assoc Server Route
  elsewhere : Server → Remote
  layout : Layout
  config : ExecutorConfig
  statuses : StatusMonitor

namespace Cluster

/-- The cluster at rest, without documents. -/
def start (c : Cluster) : Coordinator :=
  .new (.new c.layout c.config (.new (c.members.map Member.host) c.routes c.elsewhere)) c.statuses

/-- What is expected of the nodes at first. -/
def standards (c : Cluster) (place : Nat) : Standard where
  since := 0
  handlers := Handlers.register (((c.members[place]?).map (·.handlers)).getD [])
    Builtin.searchCommand Builtin.search
  index := .empty
  admits := fun _ _ => True

/-- At the start all nodes are faithful. -/
theorem faithful_start (c : Cluster) : c.start.executor.outbound.Faithful c.standards 0 where
  network := by
    intro place h hh
    obtain ⟨m, hm, rfl⟩ := Option.map_eq_some_iff.1 (List.getElem?_map.symm.trans hh)
    refine ⟨?_, rfl, trivial, ?_⟩
    · rw [standards, hm]
      rfl
    · refine ⟨⟨m.ids.origin, m.ids.given, rfl, ?_⟩, Nat.le_refl _, ?_, ?_, ?_⟩
      · intro place e he
        cases he
      · intro place e he
        cases he
      · intro place e he
        cases he
      · intro q hq
        cases hq
  first_le := Nat.le_refl _
  waits := by
    intro place ticket _ hget
    cases hget
  responses := by
    intro place c _ hc
    cases hc

end Cluster

namespace Coordinator

variable {S : Nat → Standard} {first now start : Nat} {c : Coordinator} {trace : List (Nat × Deed)}

/-- Every node can search, and has the index of the documents that it was given. -/
structure Prepared (S : Nat → Standard) (first : Nat) (trace : List (Nat × Deed))
    (c : Coordinator) : Prop where
  faithful : c.executor.outbound.Faithful S first
  searches : ∀ place, (S place).Searches
  index_eq : ∀ place, (S place).index = .ofFilings (filings trace place)
  tolerant : ∀ place, (S place).Tolerant

/-- At the start nothing has been filed. -/
theorem prepared_start (cluster : Cluster) : Prepared cluster.standards 0 [] cluster.start where
  faithful := cluster.faithful_start
  searches := fun _ => Assoc.get?_put_self
  index_eq := fun _ => rfl
  tolerant := fun _ _ _ => trivial

/-- Nodes are prepared as long as nothing is filed. -/
theorem Prepared.later (h : Prepared S first trace c) {c' : Coordinator}
    (hlater : Outbound.Later S first c.executor.outbound c'.executor.outbound) :
    Prepared S first trace c' :=
  ⟨hlater.faithful, h.searches, h.index_eq, h.tolerant⟩

/-- A deed files at most one more document. -/
theorem filings_concat (d : Deed) (place : Nat) :
    filings (trace ++ [(now, d)]) place = filings trace place ++ (d.filing? place).toList := by
  rw [filings, List.filterMap_append, filings]
  cases hfiling : d.filing? place <;> simp [hfiling]

/-- Nothing that others do keeps the nodes from searching; what they are given is in their indexes.
-/
theorem Prepared.perform (h : Prepared S first trace c) (d : Deed) :
    ∃ S first, Prepared S first (trace ++ [(now, d)]) (d.perform now c) := by
  -- as long as no document is given to a node, the same calls are answered as before
  by_cases hd : ∀ place, d.filing? place = none
  · have hlater := h.later (later_perform h.faithful now (respects_of_tolerant h.tolerant hd))
    refine ⟨S, first, hlater.faithful, h.searches, fun place => ?_, h.tolerant⟩
    rw [filings_concat, hd place, h.index_eq]
    exact congrArg _ (List.append_nil _).symm
  · cases d with
    | index p f =>
      refine ⟨Standard.file S p (c.network.executionsAt p) f,
        c.executor.outbound.workers.calls.length,
        h.faithful.renew (h.faithful.network.file p f), fun place => ?_, fun place => ?_,
        fun place => ?_⟩
      · rw [Standard.file]
        split <;> exact h.searches place
      · rw [filings_concat, Deed.filing?, Standard.file]
        by_cases hplace : place = p
        · subst hplace
          rw [if_pos rfl, if_pos rfl, h.index_eq, Option.toList_some, ShardIndex.ofFilings,
            ShardIndex.ofFilings, List.foldl_concat]
        · rw [if_neg hplace, if_neg (Ne.symm hplace), h.index_eq, Option.toList_none,
            List.append_nil]
      · rw [Standard.file]
        split <;> exact h.tolerant place
    | _ => exact absurd (fun _ => rfl) hd

/-- In every run the indexes are those of what was filed. -/
theorem prepared_of_run {cluster : Cluster} {s : Timed Coordinator}
    (h : Run machine Deed.perform ⟨start, cluster.start⟩ trace s) :
    ∃ S first, Prepared S first trace s.state := by
  refine h.invariant (I := fun trace s => ∃ S first, Prepared S first trace s.state) ?_ ?_ ?_ ?_
  · exact ⟨_, _, prepared_start cluster⟩
  · rintro trace u due ⟨S, first, hprepared⟩ - -
    exact ⟨S, first, hprepared.later (later_fire hprepared.faithful u.now)⟩
  · rintro trace u now hprepared - -
    exact hprepared
  · rintro trace u d ⟨S, first, hprepared⟩
    exact hprepared.perform d

end Coordinator

end ScatterSearch
