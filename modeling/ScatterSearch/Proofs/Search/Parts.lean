import ScatterSearch.Execution.Builtin
import ScatterSearch.Proofs.Scatter.Handles
import ScatterSearch.Proofs.Scatter.Outcomes
import ScatterSearch.Proofs.Scatter.Plan
import ScatterSearch.Proofs.Search.Hits
import ScatterSearch.Search.Coordinator

/-!
# The parts of a search

A search asks every server of its table for the shards that it serves, and takes each shard's part
out of the server's response. The part of a shard is what a search of the shard in that server's
index gives (`CallHandle.IsFor.outcome_eq`), whichever other shards the response is about.

`CallHandle.IsFor` is what a search knows of a handle, and `Standard.Searches` is what is asked of a
node.
-/

namespace ScatterSearch

/-! ## Plans -/

/-- The command that a search scatters. -/
def searchCommand (table : String) (arguments : Json) : Command :=
  (((CommandParts.named Builtin.searchCommand).table table).withArgs arguments).command

/-- What a search asks a server for the given shards. -/
def searchRequest (arguments : Json) (shards : List Shard) : ExecuteRequest :=
  ⟨Builtin.searchCommand, .indexRead, arguments, shards⟩

variable {l : Layout} {limits : CommandLimits} {table : String} {arguments : Json}
  {planned : List PlannedCall}

theorem selects_search {s : Shard} :
    (searchCommand table arguments).Selects s ↔ s.table = table := by
  change selects [table] [] s = true ↔ _
  simp [selects_iff]

/-- A search plans for all of its table. -/
theorem plan_search (h : (searchCommand table arguments).plan .indexRead limits l = .ok planned) :
    planned = (searchCommand table arguments).calls .indexRead arguments l := by
  obtain ⟨arguments', harguments, hplanned⟩ := Command.calls_of_plan h
  have hsame : (searchCommand table arguments).arguments = .ok arguments := rfl
  rw [hplanned, Except.ok.inj (harguments.symm.trans hsame)]

theorem mem_tableShards {s : Shard} : s ∈ l.tableShards table ↔
    ∃ server ∈ l.servers, s ∈ l.served server ∧ s.table = table := by
  simp only [Layout.tableShards, List.mem_eraseDups, List.mem_filter, List.mem_flatMap,
    decide_eq_true_eq]
  exact ⟨fun ⟨⟨server, hserver, hs⟩, htable⟩ => ⟨server, hserver, hs, htable⟩,
    fun ⟨server, hserver, hs, htable⟩ => ⟨⟨server, hserver, hs⟩, htable⟩⟩

/-- The targets of a search's plan are the shards that servers of the layout serve. -/
theorem mem_targets_plan
    (h : (searchCommand table arguments).plan .indexRead limits l = .ok planned)
    {p : PlannedCall} (hp : p ∈ planned) {t : Target} :
    t ∈ Executor.targets p ↔
      ∃ s shards, t = .shard s ∧ p.request = searchRequest arguments shards ∧ s ∈ shards ∧
        p.server ∈ l.servers ∧ s ∈ l.served p.server ∧ s.table = table := by
  rw [plan_search h] at hp
  obtain ⟨hkind, hcommand, harguments, -, -⟩ := Command.mem_calls hp
  have hrequest : p.request = searchRequest arguments p.request.shards := by
    rw [searchRequest, ← hkind, ← harguments]
    exact congrArg (ExecuteRequest.mk · _ _ _) hcommand
  have htargets : Executor.targets p = p.request.shards.map .shard := by
    rw [Executor.targets, hkind]
  rw [htargets, List.mem_map]
  constructor
  · rintro ⟨s, hs, rfl⟩
    obtain ⟨hserved, hselects⟩ := (Command.mem_shards hp).1 hs
    exact ⟨s, _, rfl, hrequest, hs, Layout.mem_servers hserved, hserved,
      selects_search.1 hselects⟩
  · rintro ⟨s, shards, rfl, hrequest', hs, -⟩
    rw [hrequest']
    exact ⟨s, hs, rfl⟩

/-- Every shard of the table is planned for. -/
theorem exists_plan (h : (searchCommand table arguments).plan .indexRead limits l = .ok planned)
    {s : Shard} (hs : s ∈ l.tableShards table) : ∃ p ∈ planned, .shard s ∈ Executor.targets p := by
  obtain ⟨server, hserver, hserved, htable⟩ := mem_tableShards.1 hs
  have hserver : server ∈ planned.map (·.server) := by
    rw [plan_search h]
    exact Command.mem_servers_calls.2 ⟨s, hserved, selects_search.2 htable⟩
  obtain ⟨p, hp, rfl⟩ := List.mem_map.1 hserver
  have hcall := hp
  rw [plan_search h] at hcall
  have hshard : s ∈ p.request.shards :=
    (Command.mem_shards hcall).2 ⟨hserved, selects_search.2 htable⟩
  obtain ⟨hkind, -⟩ := Command.mem_calls hcall
  refine ⟨p, hp, ?_⟩
  rw [Executor.targets, hkind]
  exact List.mem_map_of_mem hshard

/-! ## Handles -/

/-- A handle for a shard: its call, none of the first ones, asked a server of the layout that serves
the shard to search it. -/
structure CallHandle.IsFor (l : Layout) (arguments : Json) (first : Nat) (o : Outbound) (s : Shard)
    (h : CallHandle) : Prop where
  target : h.target = .shard s
  first_le : first ≤ h.call
  call : ∃ terms shards, o.orders[h.call]? = some (terms, searchRequest arguments shards) ∧
    s ∈ shards ∧ terms.server ∈ l.servers ∧ s ∈ l.served terms.server

variable {S : Nat → Standard} {first : Nat} {o o' : Outbound} {x : Executor}
  {budget : Option Nat} {handles : List CallHandle}

theorem CallHandle.IsFor.mono (horders : o.orders <+: o'.orders) {s : Shard} {h : CallHandle}
    (hfor : h.IsFor l arguments first o s) : h.IsFor l arguments first o' s := by
  obtain ⟨terms, shards, horder, hrest⟩ := hfor.call
  exact ⟨hfor.target, hfor.first_le, terms, shards, Lists.getElem?_of_prefix horders horder, hrest⟩

/-- A search that is scattered has a handle for each shard of the table. -/
theorem handles_search (hf : x.outbound.Faithful S first)
    (h : (x.startWithin budget .indexRead (searchCommand table arguments)).1 = .ok handles) :
    (∀ h ∈ handles, ∃ s, h.IsFor x.layout arguments first
      (x.startWithin budget .indexRead (searchCommand table arguments)).2.outbound s) ∧
    (handles.map (·.target)).Perm ((x.layout.tableShards table).map .shard) := by
  obtain ⟨planned, hands, hplan, hhands, rfl⟩ := Executor.hands_startWithin hf h
  have htargets : (hands.map fun hand => (⟨hand.1, hand.2⟩ : CallHandle)).map (·.target) =
      hands.keys := List.map_map
  refine ⟨fun h hh => ?_, ?_⟩
  · obtain ⟨⟨t, call⟩, hmem, rfl⟩ := List.mem_map.1 hh
    obtain ⟨hfirst, p, hp, ht, horder⟩ := hhands.calls t call (Assoc.get?_of_mem hhands.nodup hmem)
    obtain ⟨s, shards, rfl, hrequest, hs, hserver, hserved, -⟩ := (mem_targets_plan hplan hp).1 ht
    rw [hrequest] at horder
    exact ⟨s, rfl, hfirst, _, shards, horder, hs, hserver, hserved⟩
  · rw [htargets]
    have hshards : (x.layout.tableShards table).Nodup := Lists.nodup_eraseDups _
    -- both lists have each shard once, so it is enough that they have the same
    refine (List.perm_ext_iff_of_nodup hhands.nodup ?_).2 fun t => ?_
    · exact hshards.map fun _ _ => Target.shard.inj
    · rw [hhands.keys, List.mem_map]
      constructor
      · rintro ⟨p, hp, ht⟩
        obtain ⟨s, shards, rfl, -, -, hserver, hserved, htable⟩ := (mem_targets_plan hplan hp).1 ht
        exact ⟨s, mem_tableShards.2 ⟨p.server, hserver, hserved, htable⟩, rfl⟩
      · rintro ⟨s, hs, rfl⟩
        exact exists_plan hplan hs

/-! ## Responses -/

variable {node : Standard} {args : SearchArguments} {shards : List Shard} {r : Response}

/-- Whether a node has the handler of searches. -/
def Standard.Searches (node : Standard) : Prop :=
  node.handlers.get? Builtin.searchCommand = some Builtin.search

/-- A node answers a search with what its index has for each shard. -/
theorem response_search (hnode : node.Searches)
    (hargs : (Wire.decode : Decoder SearchArguments).run arguments = .ok args)
    (h : node.Holds (searchRequest arguments shards) (.answers r)) :
    r = .shardValues
      (shards.map fun s => (s, encode (node.index.search s args.text args.limit))) := by
  obtain ⟨v, hv, hindex, -, houtcome⟩ := h.handled hnode
  have hpayload : (Wire.decode : Decoder SearchArguments).ofPayload v.request.arguments =
      .ok args := by
    rw [hv, Decoder.ofPayload]
    exact congrArg (Except.mapError ClusterError.ofDecode) hargs
  have hsearch : (Builtin.search v).outcome = .answers (.shardValues (shards.map fun s =>
      (s, encode (node.index.search s args.text args.limit)))) := by
    rw [Builtin.search, Handler.instant, hpayload, hindex, hv]
    rfl
  rw [hsearch] at houtcome
  exact Outcome.answers.inj houtcome

theorem find?_entries {ν : Type} (f : Shard → ν) {s : Shard} (hs : s ∈ shards) :
    (shards.map fun s => (s, f s)).find? (·.1 = s) = some (s, f s) := by
  induction shards with
  | nil => cases hs
  | cons s' shards ih =>
    rw [List.map_cons, List.find?_cons]
    by_cases heq : s' = s
    · simp [heq]
    · rw [decide_eq_false heq]
      exact ih ((List.mem_cons.1 hs).resolve_left (Ne.symm heq))

theorem lastFor_entries {ν : Type} (f : Shard → ν) {s : Shard} (hs : s ∈ shards) :
    Response.lastFor s (shards.map fun s => (s, f s)) = some (f s) := by
  rw [Response.lastFor, ← List.map_reverse, find?_entries f (List.mem_reverse.2 hs)]
  rfl

/-- A shard's value is taken out of the response, whatever else is in it. -/
theorem pick_shard (f : Shard → Json) {s : Shard} (hs : s ∈ shards) (server : Server) :
    (Target.shard s).pick server (.shardValues (shards.map fun s => (s, f s))) = .ok (f s) := by
  rw [Target.pick_shardValues, lastFor_entries f hs]

/-- What a handle of a shard brings, if it brings anything, is what a search of the shard gives on
the node that the layout has for it. -/
theorem CallHandle.IsFor.outcome_eq {h : CallHandle} {s : Shard}
    (hfor : h.IsFor l arguments first x.outbound s) (hf : x.outbound.Faithful S first)
    (hargs : (Wire.decode : Decoder SearchArguments).run arguments = .ok args)
    {place : Nat} (hplace : ∀ server ∈ l.servers, s ∈ l.served server →
      ∃ latency, x.outbound.network.route server = .host place latency)
    (hnode : (S place).Searches) {part : ShardHits}
    (hpart : x.outcome? Wire.decode h = some (.ok part)) :
    part = (S place).index.search s args.text args.limit := by
  obtain ⟨terms, shards, horder, hs, hserver, hserved⟩ := hfor.call
  obtain ⟨c, hc, hpart⟩ := Option.bind_eq_some_iff.1 hpart
  obtain ⟨called, hcalled, hpart⟩ := Option.bind_eq_some_iff.1 hpart
  have houtcome := Option.some.inj hpart
  rw [hfor.target] at houtcome
  cases called with
  | error e => cases houtcome
  | ok r =>
    obtain ⟨latency, hroute⟩ := hplace terms.server hserver hserved
    have hanswers := hf.returns hfor.first_le hcalled horder place latency hroute
    obtain rfl := response_search hnode hargs hanswers
    have hread : Target.outcome (.shard s) c.terms.server Wire.decode (.ok (.shardValues
        (shards.map fun s => (s, encode ((S place).index.search s args.text args.limit))))) =
          .ok ((S place).index.search s args.text args.limit) := by
      rw [Target.outcome]
      change (do
        let v ← (Target.shard s).pick c.terms.server (.shardValues (shards.map fun s =>
          (s, encode ((S place).index.search s args.text args.limit))))
        Wire.decode.ofPayload v) = _
      rw [pick_shard (fun s => encode ((S place).index.search s args.text args.limit)) hs]
      exact (ShardHits.reads _).ofPayload_eq
    rw [hread] at houtcome
    exact (Except.ok.inj houtcome).symm

/-- A handle brings something once its call has ended. -/
theorem isSome_outcome? (x : Executor) (h : CallHandle) :
    (x.outcome? (Wire.decode : Decoder ShardHits) h).isSome = x.isFinished h := by
  cases hresult : x.outbound.workers.result? h.call with
  | none =>
    rw [Executor.outcome?, Executor.isFinished, Workers.isFinished, hresult]
    cases x.outbound.workers.calls[h.call]? <;> rfl
  | some called =>
    obtain ⟨c, hc, -⟩ := Option.bind_eq_some_iff.1 hresult
    rw [Executor.outcome?, Executor.isFinished, Workers.isFinished, hresult, hc]
    rfl

end ScatterSearch
