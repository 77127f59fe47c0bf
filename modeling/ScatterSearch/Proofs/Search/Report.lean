import ScatterSearch.Proofs.Decode.Reads
import ScatterSearch.Proofs.Search.Executor
import ScatterSearch.Scatter.Report

/-!
# Reports on the shards of a table

A node that is asked which server serves each shard of a table asks the servers that serve them by
its own layout, and each of these answers by its own one. Once all of them have answered, the report
has every shard of the table once: with the name of its node, if that serves it, and else among the
failures (`Coordinator.shard_report_truthful`).

A command that the limits refuse, and a table that nobody serves, cost no call and are answered with
an empty report.
-/

namespace ScatterSearch

/-! ## Keys -/

/-- Within a table the keys of shards differ, whatever their names are. -/
theorem Shard.eq_of_text {s s' : Shard} (htable : s.table = s'.table) (h : s.text = s'.text) :
    s = s' := by
  obtain ⟨table, shard⟩ := s
  obtain ⟨table', shard'⟩ := s'
  obtain rfl : table = table' := htable
  have hshard : shard = shard' := by
    simpa [Shard.text, String.append_assoc] using h
  rw [hshard]

/-- All targets of what came back are shards of a table. -/
def Gathered.IsOf (g : Gathered Json) (shards : List Shard) : Prop :=
  (g.values.map (·.1) ++ g.failures.map (·.1)).Perm (shards.map .shard)

namespace ClusterReport

/-- The keys of a report, those of values first. -/
def keys (r : ClusterReport) : List String := r.values.map (·.1) ++ r.failures.map (·.1)

variable {g : Gathered Json} {shards : List Shard} {table : String} {s : Shard}

/-- A report has an entry for every outcome. -/
theorem keys_ofGathered (g : Gathered Json) :
    (ofGathered g).keys = (g.values.map (·.1) ++ g.failures.map (·.1)).map Target.text := by
  simp [keys, ofGathered, Function.comp_def]

theorem keys_perm (hg : g.IsOf shards) : (ofGathered g).keys.Perm (shards.map Shard.text) := by
  have hkeys := hg.map Target.text
  rw [List.map_map] at hkeys
  rw [keys_ofGathered]
  exact hkeys

theorem nodup_keys (hg : g.IsOf shards) (hshards : shards.Nodup)
    (htable : ∀ s ∈ shards, s.table = table) : (ofGathered g).keys.Nodup := by
  refine (keys_perm hg).nodup_iff.2 (hshards.map_on fun s hs s' hs' heq => ?_)
  exact Shard.eq_of_text ((htable s hs).trans (htable s' hs').symm) heq

/-- What has the key of a shard of the table came back for this shard. -/
theorem eq_of_target (hg : g.IsOf shards) (htable : ∀ s ∈ shards, s.table = table)
    (hs : s.table = table) {t : Target}
    (ht : t ∈ g.values.map (·.1) ++ g.failures.map (·.1)) (htext : t.text = s.text) :
    t = .shard s := by
  obtain ⟨s', hs', rfl⟩ := List.mem_map.1 (hg.mem_iff.1 ht)
  rw [Shard.eq_of_text ((htable s' hs').trans hs.symm) htext]

/-- The values of a report are those that were gathered. -/
theorem mem_values (hg : g.IsOf shards) (htable : ∀ s ∈ shards, s.table = table)
    (hs : s.table = table) {v : Json} :
    (s.text, v) ∈ (ofGathered g).values ↔ (.shard s, v) ∈ g.values := by
  rw [ofGathered, List.mem_map]
  constructor
  · rintro ⟨⟨t, v'⟩, hmem, heq⟩
    obtain ⟨htext, rfl⟩ := Prod.mk.inj heq
    obtain rfl := eq_of_target hg htable hs
      (List.mem_append_left _ (List.mem_map_of_mem hmem)) htext
    exact hmem
  · exact fun hmem => ⟨_, hmem, rfl⟩

/-- The failures of a report are those that were gathered, by their messages. -/
theorem mem_failures (hg : g.IsOf shards) (htable : ∀ s ∈ shards, s.table = table)
    (hs : s.table = table) {m : String} :
    (s.text, m) ∈ (ofGathered g).failures ↔ ∃ e, (.shard s, e) ∈ g.failures ∧ e.message = m := by
  rw [ofGathered, List.mem_map]
  constructor
  · rintro ⟨⟨t, e⟩, hmem, heq⟩
    obtain ⟨htext, rfl⟩ := Prod.mk.inj heq
    obtain rfl := eq_of_target hg htable hs
      (List.mem_append_right _ (List.mem_map_of_mem hmem)) htext
    exact ⟨e, hmem, rfl⟩
  · rintro ⟨e, hmem, rfl⟩
    exact ⟨_, hmem, rfl⟩

end ClusterReport

/-! ## What a node answers -/

/-- What a node is asked about the given shards. -/
def shardRequest (shards : List Shard) : ExecuteRequest :=
  ⟨Builtin.shardLayoutCommand, .indexRead, .null, shards⟩

/-- What a node answers that is asked about the given shards. -/
def Host.shardResponse (h : Host) (shards : List Shard) : Response :=
  .shardValues ((shards.filter h.serves).map fun s => (s, .str h.server.name))

/-- What is expected of a node is that it stays as it is, and has the handler that says which shards
it serves. -/
structure Standard.Pins (node : Standard) (h : Host) : Prop where
  handler : node.handlers.get? Builtin.shardLayoutCommand = some Builtin.shardLayout
  stays : ∀ server served, node.admits server served →
    server = h.server ∧ served = h.layout.served h.server

theorem Standard.Pins.response_eq {node : Standard} {h : Host} (hnode : node.Pins h)
    {shards : List Shard} {r : Response}
    (hholds : node.Holds (shardRequest shards) (.answers r)) : r = h.shardResponse shards := by
  obtain ⟨v, hv, -, hadmits, houtcome⟩ := hholds.handled hnode.handler
  obtain ⟨hserver, hserved⟩ := hnode.stays _ _ hadmits
  have hanswers : (Builtin.shardLayout v).outcome = .answers (h.shardResponse shards) := by
    rw [Builtin.shardLayout, Handler.instant, hserver, hserved, hv]
    rfl
  rw [hanswers] at houtcome
  exact Outcome.answers.inj houtcome

/-- The failure of a shard that a node was asked for and does not serve. -/
def unserved (server : Server) (s : Shard) : ClusterError :=
  .remoteCall server.name ("no value returned for shard [" ++ s.text ++ "]")

/-- What the answer of a node means for a shard that it was asked for. -/
theorem outcome_shardResponse (h : Host) {shards : List Shard} {s : Shard} (hs : s ∈ shards)
    (server : Server) :
    (Target.shard s).outcome server Decoder.any (.ok (h.shardResponse shards)) =
      if h.serves s then .ok (.str h.server.name) else .error (unserved server s) := by
  have houtcome : (Target.shard s).outcome server Decoder.any (.ok (h.shardResponse shards)) =
      ((Target.shard s).pick server (h.shardResponse shards)).bind Decoder.any.ofPayload := rfl
  rw [houtcome, Host.shardResponse, Target.pick_shardValues]
  cases hserves : h.serves s with
  | true =>
    rw [lastFor_entries (fun _ => Json.str h.server.name) (List.mem_filter.2 ⟨hs, hserves⟩)]
    exact (Decoder.Reads.any _).ofPayload_eq
  | false =>
    have hnone : Response.lastFor s ((shards.filter h.serves).map fun s =>
        (s, Json.str h.server.name)) = none := by
      refine Option.eq_none_iff_forall_ne_some.2 fun j hj => ?_
      obtain ⟨before, after, heq, -⟩ := Response.lastFor_eq_some_iff.1 hj
      have hmem : (s, j) ∈ (shards.filter h.serves).map fun s => (s, Json.str h.server.name) := by
        rw [heq]
        exact List.mem_append_right _ List.mem_cons_self
      obtain ⟨s', hs', hpair⟩ := List.mem_map.1 hmem
      obtain ⟨rfl, -⟩ := Prod.mk.inj hpair
      rw [(List.mem_filter.1 hs').2] at hserves
      cases hserves
    rw [hnone]
    rfl

/-! ## What a report says -/

/-- A node that stands for a server. -/
def Network.IsNode (n : Network) (server : Server) (h : Host) : Prop :=
  ∃ place latency, n.route server = .host place latency ∧ n.hosts[place]? = some h

/-- A report on a table of a layout is as the nodes have it. -/
structure ClusterReport.Truthful (l : Layout) (n : Network) (table : String) (r : ClusterReport) :
    Prop where
  command_eq : r.command = Builtin.shardLayoutCommand
  /-- it has the shards of the table -/
  keys_perm : r.keys.Perm ((l.tableShards table).map Shard.text)
  /-- each of them once -/
  nodup_keys : r.keys.Nodup
  /-- those with values that their nodes serve -/
  value_iff : ∀ server h, n.IsNode server h → ∀ s ∈ l.served server, s.table = table →
    ∀ v, (s.text, v) ∈ r.values ↔ h.serves s = true ∧ v = .str h.server.name
  /-- and those with failures that they do not serve -/
  failure_iff : ∀ server h, n.IsNode server h → ∀ s ∈ l.served server, s.table = table →
    ∀ m, (s.text, m) ∈ r.failures ↔ h.serves s = false ∧ m = (unserved server s).message

namespace Executor

/-- All calls that are in `asked`, but were not there before, have brought a response. -/
def Delivered (x asked y : Executor) : Prop :=
  ∀ place, x.outbound.workers.calls.length ≤ place →
    place < asked.outbound.workers.calls.length →
    ∃ r, y.outbound.workers.result? place = some (.ok r)

/-- Whoever waits for the report of the read at a place gets this one with its code: at the next
turn, which is due at once, if not before. -/
structure Reported (y : Timed Executor) (place code : Nat) (report : ClusterReport) : Prop where
  told : ((y.state.fire y.now).gathered? place).map ClusterReport.answer = some (code, report)
  due : y.state.gathered? place = none → machine.due y.state = some 0
  already : ∀ result, y.state.gathered? place = some result →
    ClusterReport.answer result = (code, report)

variable {x : Executor} {y : Timed Executor} {table : String} {place now : Nat}
  {trace : List (Nat × Deed)} {result : Except ClusterError (Gathered Json)} {S : Nat → Standard}

/-- What was gathered is reported. -/
theorem reported_of_gather {r : ReadOperation} (hreads : Reads place r y.state)
    (hgather : y.state.gather? r = some result) :
    Reported y place (ClusterReport.answer result).1 (ClusterReport.answer result).2 := by
  obtain ⟨hreturns, hdue⟩ := hreads.returns hgather y.now
  refine ⟨by rw [hreturns]; rfl, hdue, fun result' hresult' => ?_⟩
  obtain rfl := Option.some.inj ((hreads.gather? hresult').symm.trans hgather)
  rfl

/-- The command that asks for a report. -/
def shardCommand (table : String) : Command :=
  ((CommandParts.named Builtin.shardLayoutCommand).table table).command

theorem selects_shardCommand {s : Shard} : (shardCommand table).Selects s ↔ s.table = table := by
  change selects [table] [] s = true ↔ _
  simp [selects_iff]

/-- The shards of the table are selected. -/
theorem selected_perm (hvalid : x.layout.Valid) (hdisjoint : x.layout.Disjoint) :
    ((shardCommand table).selected x.layout).Perm (x.layout.tableShards table) := by
  have hnodup : (x.layout.tableShards table).Nodup := Lists.nodup_eraseDups _
  refine (List.perm_ext_iff_of_nodup (Command.nodup_selected hvalid hdisjoint) hnodup).2
    fun s => ?_
  rw [Command.mem_selected, selects_shardCommand, mem_tableShards]
  constructor
  · rintro ⟨⟨server, hs⟩, htable⟩
    exact ⟨server, Layout.mem_servers hs, hs, htable⟩
  · rintro ⟨server, -, hs, htable⟩
    exact ⟨⟨server, hs⟩, htable⟩

/-! ### Requests that are refused -/

/-- A request that is refused makes no call, and the report on it is empty. -/
theorem refused_of_plan {e : ClusterError}
    (hplan : (shardCommand table).plan .indexRead x.limits x.layout = .error e)
    (hrun : Run machine Deed.perform ⟨now, (x.readShardReport table).2⟩ trace y) :
    (x.readShardReport table).2.outbound = x.outbound ∧
      Reported y (x.readShardReport table).1 (ClusterReport.statusOf e) .empty := by
  have hstart := startWithin_error x.budget hplan
  have hreads := Reads.of_run hrun (reads_read .indexRead false (shardCommand table) .any)
  rw [start, hstart] at hreads
  exact ⟨congrArg (·.2.outbound) hstart, reported_of_gather hreads rfl⟩

/-! ### Requests that are answered -/

/-- The calls of a request for a report. -/
def shardCalls (l : Layout) (table : String) : List PlannedCall :=
  (shardCommand table).calls .indexRead .null l

/-- What has come back in `y` for a request that was made in `x`. -/
def shardGathered (x : Executor) (table : String) (y : Executor) : Gathered Json :=
  .ofOutcomes Builtin.shardLayoutCommand <|
    (handed x.budget (shardCalls x.layout table) x.outbound).filterMap
      fun h => (y.outcome? .any h).map (h.target, ·)

variable {earlier later : List PlannedCall} {p : PlannedCall} {s : Shard} {server : Server}
  {h : Host}

theorem outbound_readShardReport
    (hplan : (shardCommand table).plan .indexRead x.limits x.layout =
      .ok (shardCalls x.layout table)) :
    (x.readShardReport table).2.outbound =
      (submitted x.budget (shardCalls x.layout table) x.outbound).2 :=
  congrArg (·.2.outbound) (startWithin_ok x.budget hplan)

/-- Each call of the request has brought a response. -/
theorem Delivered.result?_eq {y : Executor} (hdelivered : Delivered x (x.readShardReport table).2 y)
    (hplan : (shardCommand table).plan .indexRead x.limits x.layout =
      .ok (shardCalls x.layout table))
    (hcalls : shardCalls x.layout table = earlier ++ p :: later) :
    ∃ r, y.outbound.workers.result? (x.outbound.workers.calls.length + earlier.length) =
      some (.ok r) := by
  refine hdelivered _ (Nat.le_add_right _ _) ?_
  rw [outbound_readShardReport hplan, outbound_submitted, hcalls]
  simp [freshCalls]

theorem Delivered.isFinished {y : Executor} (hdelivered : Delivered x (x.readShardReport table).2 y)
    (hplan : (shardCommand table).plan .indexRead x.limits x.layout =
      .ok (shardCalls x.layout table)) :
    ∀ h ∈ handed x.budget (shardCalls x.layout table) x.outbound, y.isFinished h = true := by
  intro h hh
  obtain ⟨earlier, p, later, hcalls, -, -, hcall⟩ := get?_submitted.1 (mem_handed.1 hh)
  obtain ⟨r, hr⟩ := hdelivered.result?_eq hplan hcalls
  rw [Executor.isFinished, Workers.isFinished, hcall, hr]
  rfl

/-- Once all calls have ended, something has come back for each shard of the table. -/
theorem isOf_shardGathered (hvalid : x.layout.Valid) (hdisjoint : x.layout.Disjoint) {y : Executor}
    (hfinished : ∀ h ∈ handed x.budget (shardCalls x.layout table) x.outbound,
      y.isFinished h = true) :
    (shardGathered x table y).IsOf (x.layout.tableShards table) := by
  have hselected : ((handed x.budget (shardCalls x.layout table) x.outbound).map (·.target)).Perm
      (((shardCommand table).selected x.layout).map .shard) :=
    targets_perm_selected hvalid hdisjoint
  rw [← targets_outcomes Decoder.any hfinished] at hselected
  exact ((Gathered.targets_ofOutcomes _ _).trans hselected).trans
    ((selected_perm hvalid hdisjoint).map Target.shard)

/-- Among the calls there is one that asks the server of a shard for the shard. -/
theorem exists_shardCall (hserved : s ∈ x.layout.served server) (htable : s.table = table) :
    ∃ earlier p later, shardCalls x.layout table = earlier ++ p :: later ∧ p.server = server ∧
      s ∈ p.request.shards ∧ p.request = shardRequest p.request.shards := by
  have hselects : (shardCommand table).Selects s := selects_shardCommand.2 htable
  have hserver : server ∈ (shardCalls x.layout table).map (·.server) :=
    Command.mem_servers_calls.2 ⟨s, hserved, hselects⟩
  obtain ⟨p, hp, rfl⟩ := List.mem_map.1 hserver
  obtain ⟨earlier, later, hcalls⟩ := List.append_of_mem hp
  obtain ⟨hkind, hname, harguments, -, -⟩ := Command.mem_calls hp
  refine ⟨earlier, p, later, hcalls, rfl, (Command.mem_shards hp).2 ⟨hserved, hselects⟩, ?_⟩
  obtain ⟨server, command, kind, arguments, shards⟩ := p
  obtain rfl := hkind
  obtain rfl := hname
  obtain rfl := harguments
  rfl

/-- The calls that were made since `x` are to nodes that have the handler and stay as they are. -/
structure Trusts (S : Nat → Standard) (x y : Executor) : Prop where
  faithful : y.outbound.Faithful S x.outbound.workers.calls.length
  route_eq : y.outbound.network.route = x.outbound.network.route
  pins : ∀ (place : Nat) h, x.outbound.network.hosts[place]? = some h → (S place).Pins h

/-- A response that a call to a node brought is what the node answers about the shards that it was
asked for. -/
theorem Trusts.eq_shardResponse {y : Executor} (ht : Trusts S x y) {task : Nat} {call : Call}
    {shards : List Shard} {r : Response} (hnode : x.outbound.network.IsNode call.terms.server h)
    (htask : x.outbound.workers.calls.length ≤ task)
    (hcall : y.outbound.workers.calls[task]? = some call)
    (hrequest : call.request = shardRequest shards)
    (hresult : y.outbound.workers.result? task = some (.ok r)) : r = h.shardResponse shards := by
  obtain ⟨place, latency, hhost, hh⟩ := hnode
  have horder : y.outbound.orders[task]? = some (call.terms, shardRequest shards) := by
    rw [Outbound.orders, List.getElem?_map, hcall, Option.map_some, hrequest]
  have hholds := ht.faithful.returns htask hresult horder place latency
    (by rw [ht.route_eq]; exact hhost)
  exact (ht.pins place h hh).response_eq hholds

/-- What has come back for a shard is as its node has it. -/
theorem mem_shardGathered (hvalid : x.layout.Valid) (hdisjoint : x.layout.Disjoint)
    (hplan : (shardCommand table).plan .indexRead x.limits x.layout =
      .ok (shardCalls x.layout table))
    (hrun : Run machine Deed.perform ⟨now, (x.readShardReport table).2⟩ trace y)
    (ht : Trusts S x y.state) (hdelivered : Delivered x (x.readShardReport table).2 y.state)
    (hnode : x.outbound.network.IsNode server h) (hserved : s ∈ x.layout.served server)
    (htable : s.table = table) :
    (∀ v, (.shard s, v) ∈ (shardGathered x table y.state).values ↔
      h.serves s = true ∧ v = .str h.server.name) ∧
    ∀ e, (.shard s, e) ∈ (shardGathered x table y.state).failures ↔
      h.serves s = false ∧ e = unserved server s := by
  obtain ⟨earlier, p, later, hcalls, rfl, hs, hrequest⟩ := exists_shardCall hserved htable
  obtain ⟨r, hr⟩ := hdelivered.result?_eq hplan hcalls
  have hfinished : y.state.outbound.workers.isFinished
      (x.outbound.workers.calls.length + earlier.length) = true := by
    rw [Workers.isFinished, hr]
    rfl
  obtain ⟨call, how, hcall, hterms, hcallRequest, hend, hentry⟩ := entry_of_call .any hvalid
    hdisjoint hcalls hs (goesOn_submitted hplan hrun) hfinished
  have hresponse : r = h.shardResponse p.request.shards :=
    ht.eq_shardResponse (by rw [hterms]; exact hnode) (Nat.le_add_right _ _) hcall
      (hcallRequest.trans hrequest) hr
  have hreturned : how = .returned (.ok (h.shardResponse p.request.shards)) := by
    rw [Workers.result?_eq hcall, hend, hresponse] at hr
    cases how with
    | returned result => exact congrArg CallEnd.returned (Option.some.inj hr)
    | panicked message => cases hr
    | aborted => cases hr
  subst hreturned
  have houtcome := outcome_shardResponse h hs p.server
  have hvalue : ∀ v, (.shard s, v) ∈ (shardGathered x table y.state).values ↔
      (Target.shard s).outcome p.server Decoder.any (.ok (h.shardResponse p.request.shards)) =
        .ok v := by
    intro v
    refine (hentry.value_iff v).trans ?_
    rw [Target.outcome_eq_ok_iff]
    simp only [CallEnd.returned.injEq]
  have hfailure : ∀ e, (.shard s, e) ∈ (shardGathered x table y.state).failures ↔
      (Target.shard s).outcome p.server Decoder.any (.ok (h.shardResponse p.request.shards)) =
        .error e := hentry.failure_iff
  constructor
  · intro v
    rw [hvalue, houtcome]
    cases h.serves s <;> simp [eq_comm]
  · intro e
    rw [hfailure, houtcome]
    cases h.serves s <;> simp [eq_comm]

/-- Once all calls have been delivered, the report is as the nodes have it. -/
theorem truthful_of_delivered (hvalid : x.layout.Valid) (hdisjoint : x.layout.Disjoint)
    (hplan : (shardCommand table).plan .indexRead x.limits x.layout =
      .ok (shardCalls x.layout table))
    (hrun : Run machine Deed.perform ⟨now, (x.readShardReport table).2⟩ trace y)
    (ht : Trusts S x y.state) (hdelivered : Delivered x (x.readShardReport table).2 y.state) :
    ∃ report, Reported y (x.readShardReport table).1 200 report ∧
      report.Truthful x.layout x.outbound.network table := by
  have hfinished := hdelivered.isFinished hplan
  have hstart : (x.start .indexRead (shardCommand table)).1 =
      .ok (handed x.budget (shardCalls x.layout table) x.outbound) :=
    congrArg Prod.fst (startWithin_ok x.budget hplan)
  have hreads := Reads.of_run hrun (reads_read .indexRead false (shardCommand table) .any)
  have hreported : Reported y (x.readShardReport table).1 200
      (.ofGathered (shardGathered x table y.state)) :=
    reported_of_gather hreads ((gather?_eq_some hstart).2 ⟨hfinished, rfl⟩)
  have hof := isOf_shardGathered hvalid hdisjoint hfinished
  have htable : ∀ s ∈ x.layout.tableShards table, s.table = table := by
    intro s hs
    obtain ⟨-, -, -, htable⟩ := mem_tableShards.1 hs
    exact htable
  refine ⟨_, hreported, rfl, ClusterReport.keys_perm hof,
    ClusterReport.nodup_keys hof (Lists.nodup_eraseDups _) htable,
    fun server h hnode s hserved hs v => ?_, fun server h hnode s hserved hs m => ?_⟩
  · rw [ClusterReport.mem_values hof htable hs]
    exact (mem_shardGathered hvalid hdisjoint hplan hrun ht hdelivered hnode hserved hs).1 v
  · rw [ClusterReport.mem_failures hof htable hs]
    simp only [(mem_shardGathered hvalid hdisjoint hplan hrun ht hdelivered hnode hserved hs).2]
    constructor
    · rintro ⟨e, ⟨hserves, rfl⟩, rfl⟩
      exact ⟨hserves, rfl⟩
    · rintro ⟨hserves, rfl⟩
      exact ⟨_, ⟨hserves, rfl⟩, rfl⟩

end Executor

/-! ## Reports of a cluster -/

/-- What is expected of nodes that stay as they are in a network. -/
def Standard.pin (S : Nat → Standard) (n : Network) : Nat → Standard := fun place =>
  { S place with
    since := n.executionsAt place
    admits := fun server served => ∀ h, n.hosts[place]? = some h →
      server = h.server ∧ served = h.layout.served h.server }

theorem Network.Faithful.pin {S : Nat → Standard} {n : Network} (hf : n.Faithful S) :
    n.Faithful (Standard.pin S n) := by
  intro place h hh
  have hhost := hf place h hh
  refine ⟨hhost.handlers_eq, hhost.index_eq, fun h' hh' => ?_, ?_⟩
  · obtain rfl := Option.some.inj (hh.symm.trans hh')
    exact ⟨rfl, rfl⟩
  · rw [Standard.pin, executionsAt, hh]
    exact hhost.manager.renew _

/-- A node can say which shards it serves. -/
def Host.ReportsShards (h : Host) : Prop :=
  h.manager.handlers.get? Builtin.shardLayoutCommand = some Builtin.shardLayout

theorem Network.Faithful.pins_pin {S : Nat → Standard} {n : Network} (hf : n.Faithful S)
    {place : Nat} {h : Host} (hh : n.hosts[place]? = some h) (hreports : h.ReportsShards) :
    (Standard.pin S n place).Pins h where
  handler := by
    rw [Host.ReportsShards, (hf place h hh).handlers_eq] at hreports
    exact hreports
  stays := fun _ _ hadmits => hadmits h hh

namespace Coordinator

variable {cluster : Cluster} {s u : Timed Coordinator} {before after : List (Nat × Deed)}
  {start : Nat} {table : String}

/-- A deed gives neither documents nor layouts to nodes. -/
def Deed.SparesNodes (d : Deed) : Prop :=
  (∀ place, d.filing? place = none) ∧ ∀ layout, d ≠ .layouts layout

/-- A request for a report on a table is made. -/
def requestReport (c : Coordinator) (table : String) : Coordinator :=
  c.setExecutor (c.executor.readShardReport table).2

/-- An executor may trust the calls that it makes from any state of a cluster on, as long as neither
documents nor layouts are given to nodes. -/
theorem trusts_of_run (hbefore : Run machine Deed.perform ⟨start, cluster.start⟩ before s)
    (hreports : ∀ h ∈ s.state.network.hosts, h.ReportsShards)
    (hafter : Run machine Deed.perform ⟨s.now, s.state.requestReport table⟩ after u)
    (hspares : ∀ d ∈ after, d.2.SparesNodes) :
    ∃ S, Executor.Trusts S s.state.executor u.state.executor := by
  obtain ⟨S, first, hprepared⟩ := prepared_of_run hbefore
  have hnetwork := hprepared.faithful.network
  have hstart := hprepared.faithful.renew hnetwork.pin
  have hasked := (Executor.later_read hstart .indexRead false (Executor.shardCommand table)
    .any).outbound
  have hlater := hasked.trans (later_of_run hasked.faithful hafter fun d hd =>
    ⟨(hspares d hd).1, fun layout hlayout => absurd hlayout ((hspares d hd).2 layout)⟩)
  exact ⟨_, hlater.faithful, hlater.route_eq, fun place h hh =>
    hnetwork.pins_pin hh (hreports h (List.mem_of_getElem? hh))⟩

/-- A node is asked which server serves each shard of a table. If the limits refuse the command, or
nobody serves the table by the node's layout, no call is made, and the report is empty. Else, by the
turn after all calls were delivered, the report is as the nodes have it: whatever they serve by
their own layouts, whatever was done before, and whatever is done meanwhile, except that documents
or layouts are given to nodes. -/
theorem shard_report_truthful (hbefore : Run machine Deed.perform ⟨start, cluster.start⟩ before s)
    (hreports : ∀ h ∈ s.state.network.hosts, h.ReportsShards)
    (hvalid : s.state.executor.layout.Valid) (hdisjoint : s.state.executor.layout.Disjoint)
    (hafter : Run machine Deed.perform ⟨s.now, s.state.requestReport table⟩ after u)
    (hspares : ∀ d ∈ after, d.2.SparesNodes) :
    let x := s.state.executor
    let asked := (s.state.requestReport table).executor
    let reported := Executor.Reported ⟨u.now, u.state.executor⟩ (x.readShardReport table).1
    (∀ e, x.limits.check Builtin.shardLayoutCommand .null = .error e →
      asked.outbound = x.outbound ∧ reported 400 .empty) ∧
    (x.limits.check Builtin.shardLayoutCommand .null = .ok () →
      (table ∉ x.layout.tables → asked.outbound = x.outbound ∧ reported 404 .empty) ∧
      (table ∈ x.layout.tables → x.Delivered asked u.state.executor →
        ∃ report, reported 200 report ∧ report.Truthful x.layout x.outbound.network table)) := by
  intro x asked reported
  obtain ⟨trace, hrun⟩ := executor_run hafter
  have htables : ∀ t, t ∈ (Executor.shardCommand table).tables ↔ t = table := by
    intro t
    change t ∈ [table] ↔ _
    exact List.mem_singleton
  refine ⟨fun e hcheck => ?_, fun hcheck => ⟨fun hunknown => ?_, fun hknown hdelivered => ?_⟩⟩
  · obtain ⟨reason, rfl⟩ := CommandLimits.rejected_of_check hcheck
    exact Executor.refused_of_plan (Command.plan_of_check_error rfl hcheck) hrun
  · have harguments : (Executor.shardCommand table).arguments = .ok .null := rfl
    obtain ⟨missing, -, -, hplan⟩ := Command.plan_of_missing .indexRead harguments hcheck
      ((htables table).2 rfl) hunknown
    exact Executor.refused_of_plan hplan hrun
  · have hplan : (Executor.shardCommand table).plan .indexRead x.limits x.layout =
        .ok (Executor.shardCalls x.layout table) :=
      Command.plan_of_known rfl hcheck fun t ht => (htables t).1 ht ▸ hknown
    obtain ⟨S, htrusts⟩ := trusts_of_run hbefore hreports hafter hspares
    exact Executor.truthful_of_delivered hvalid hdisjoint hplan hrun htrusts hdelivered

/-- Two nodes that are asked for one shard each. The second one does not know of its shard. -/
def divided : Cluster where
  members := [
    ⟨⟨"a"⟩, ⟨10, 100⟩, Builtin.handlers, .ofAssignments [(⟨"a"⟩, [⟨"t/x", "0"⟩])], .new 0⟩,
    ⟨⟨"b"⟩, ⟨10, 100⟩, Builtin.handlers, .empty, .new 1⟩]
  routes := [(⟨"a"⟩, .host 0 0), (⟨"b"⟩, .host 1 7)]
  elsewhere := fun _ => .unreachable 0 (.internal "no such server")
  layout := .ofAssignments [(⟨"a"⟩, [⟨"t/x", "0"⟩]), (⟨"b"⟩, [⟨"t/x", "1/2"⟩])]
  config := .default
  statuses := .new 0 0

/-- The cluster once the report on the table is there. -/
def dividedReported : Nat × Coordinator :=
  Clock.await machine (fun c => (c.executor.gathered? 0).isSome) 30 0
    (divided.start.requestReport "t/x")

/-- The first shard has a value, and the second one a failure. -/
theorem divided_reported : ∃ report,
    Executor.Reported ⟨dividedReported.1, dividedReported.2.executor⟩ 0 200 report ∧
    report.Truthful divided.start.executor.layout divided.start.network "t/x" ∧
    ("t/x/0", .str "a") ∈ report.values ∧
    ("t/x/1/2", (unserved ⟨"b"⟩ ⟨"t/x", "1/2"⟩).message) ∈ report.failures := by
  have hreports : ∀ h ∈ divided.start.network.hosts, h.ReportsShards := by
    intro h hh
    obtain ⟨m, hm, rfl⟩ := List.mem_map.1 hh
    rcases List.mem_pair.1 hm with rfl | rfl <;> rfl
  have hvalid : divided.start.executor.layout.Valid := Layout.valid_ofAssignments _
  have hdisjoint : divided.start.executor.layout.Disjoint :=
    Layout.disjoint_of_servers (by decide +kernel)
  have hafter : Run machine Deed.perform ⟨0, divided.start.requestReport "t/x"⟩ []
      ⟨dividedReported.1, dividedReported.2⟩ := Run.await _ 30 0 _
  have hdelivered : divided.start.executor.Delivered (divided.start.requestReport "t/x").executor
      dividedReported.2.executor := by
    have hresults : ∀ place < 2, ((dividedReported.2.executor.outbound.workers.result? place).bind
        (·.toOption)).isSome = true := by decide +kernel
    have hcalls :
        (divided.start.requestReport "t/x").executor.outbound.workers.calls.length = 2 := by
      decide +kernel
    intro place _ hplace
    obtain ⟨r, hr⟩ := Option.isSome_iff_exists.1 (hresults place (hcalls ▸ hplace))
    obtain ⟨result, hresult, hok⟩ := Option.bind_eq_some_iff.1 hr
    cases result with
    | error e => cases hok
    | ok r' => exact ⟨r', hresult⟩
  obtain ⟨-, hadmitted⟩ :=
    shard_report_truthful Run.start hreports hvalid hdisjoint hafter fun _ hd => nomatch hd
  obtain ⟨report, hreported, htruthful⟩ :=
    (hadmitted (by decide +kernel)).2 (by decide +kernel) hdelivered
  refine ⟨report, hreported, htruthful, ?_, ?_⟩
  · exact (htruthful.value_iff ⟨"a"⟩ _ ⟨0, 0, rfl, rfl⟩ ⟨"t/x", "0"⟩ (by decide +kernel) rfl _).2
      ⟨by decide +kernel, rfl⟩
  · exact (htruthful.failure_iff ⟨"b"⟩ _ ⟨1, 7, rfl, rfl⟩ ⟨"t/x", "1/2"⟩ (by decide +kernel) rfl
      _).2 ⟨by decide +kernel, rfl⟩

/-- A cluster without nodes, whose coordinator takes no more than three bytes of arguments. -/
def strict : Cluster := { divided with members := [], layout := .empty, config := ⟨2, none, 3⟩ }

/-- It refuses the request for a table that nobody serves before it looks for the table. -/
theorem strict_refuses_request : "t" ∉ strict.start.executor.layout.tables ∧
    (((strict.start.requestReport "t").executor.fire 0).gathered? 0).map ClusterReport.answer =
      some (400, .empty) :=
  ⟨by decide +kernel, rfl⟩

end Coordinator

end ScatterSearch
