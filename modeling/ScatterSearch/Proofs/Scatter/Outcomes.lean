import ScatterSearch.Proofs.Scatter.FanOut
import ScatterSearch.Proofs.Scatter.Ownership

/-!
# Outcomes by shard

One response is shared by all shards of a server. A shard has a value exactly if the response has
per-shard values of which the last one for the shard is of the right shape
(`Target.outcome_eq_ok_iff`); whatever else the server did is a failure of each of its shards.

`Executor.reports_of_run` puts this together with what becomes of reads: where no shard is on two
servers, an index read reports every selected shard once, each by the end of its own server's call,
and not before all calls have ended.
-/

namespace ScatterSearch

/-! ## One response -/

/-- Among entries the last one for a shard. -/
def LastEntry (values : List (Shard × Json)) (s : Shard) (j : Json) : Prop :=
  ∃ before after, values = before ++ (s, j) :: after ∧ ∀ entry ∈ after, entry.1 ≠ s

namespace Response

variable {values : List (Shard × Json)} {s : Shard} {j : Json} {target : String}

theorem lastFor_eq_some_iff : lastFor s values = some j ↔ LastEntry values s j := by
  rw [lastFor, Option.map_eq_some_iff]
  constructor
  · rintro ⟨⟨s', j'⟩, hfind, rfl⟩
    obtain ⟨hs, before, after, hreverse, hbefore⟩ := List.find?_eq_some_iff_append.1 hfind
    obtain rfl := of_decide_eq_true hs
    refine ⟨after.reverse, before.reverse, ?_, fun entry hentry => ?_⟩
    · rw [← values.reverse_reverse, hreverse]
      simp
    · simpa using hbefore entry (List.mem_reverse.1 hentry)
  · rintro ⟨before, after, rfl, hafter⟩
    refine ⟨(s, j), List.find?_eq_some_iff_append.2 ⟨by simp, after.reverse, before.reverse,
      by simp, fun entry hentry => ?_⟩, rfl⟩
    simpa using hafter entry (List.mem_reverse.1 hentry)

/-- What is found for a shard among the values of a response is its last value there. -/
theorem find?_shardValues : (((values.map (·.1)).eraseDups.filterMap fun s' =>
      (lastFor s' values).map (s', ·)).find? (·.1 = s)).map (·.2) = lastFor s values := by
  have hmem : ∀ entry : Shard × Json, entry ∈ ((values.map (·.1)).eraseDups.filterMap fun s' =>
      (lastFor s' values).map (s', ·)) ↔ lastFor entry.1 values = some entry.2 := by
    rintro ⟨s', j'⟩
    simp only [List.mem_filterMap, List.mem_eraseDups, Option.map_eq_some_iff, Prod.mk.injEq]
    constructor
    · rintro ⟨s'', -, j'', hlast, rfl, rfl⟩
      exact hlast
    · intro hlast
      obtain ⟨before, after, rfl, -⟩ := lastFor_eq_some_iff.1 hlast
      exact ⟨s', by simp, j', hlast, rfl, rfl⟩
  cases hfind : ((values.map (·.1)).eraseDups.filterMap fun s' =>
      (lastFor s' values).map (s', ·)).find? (·.1 = s) with
  | some entry =>
    have hentry := (hmem entry).1 (List.mem_of_find?_eq_some hfind)
    have hs : entry.1 = s := by simpa using List.find?_some hfind
    rw [Option.map_some, ← hentry, hs]
  | none =>
    cases hlast : lastFor s values with
    | none => rfl
    | some j =>
      have hnone := List.find?_eq_none.1 hfind (s, j) ((hmem (s, j)).2 hlast)
      simp at hnone

end Response

namespace Target

variable {ν : Type} {s : Shard} {server : Server} {value : Decoder ν} {v : ν}
  {called : Except ClusterError Response}

theorem pick_shardValues {values : List (Shard × Json)} :
    (shard s).pick server (.shardValues values) = match Response.lastFor s values with
      | some j => .ok j
      | none =>
        .error (.remoteCall server.name ("no value returned for shard [" ++ s.text ++ "]")) := by
  rw [← Response.find?_shardValues, pick, Response.toShardValues]
  simp only [bind, Except.bind]
  split
  · rename_i hfind
    rw [hfind]
    rfl
  · rename_i hfind
    rw [hfind]
    rfl

/-- A shard has a value exactly if the call brought values of which the last one for the shard is of
the right shape. -/
theorem outcome_eq_ok_iff : (shard s).outcome server value called = .ok v ↔
    ∃ values j, called = .ok (.shardValues values) ∧ LastEntry values s j ∧
      value.ofPayload j = .ok v := by
  cases called with
  | error e =>
    constructor
    · intro h
      cases h
    · rintro ⟨values, j, h, -⟩
      cases h
  | ok response =>
    cases response with
    | serverValue j =>
      constructor
      · intro h
        cases h
      · rintro ⟨values, j, h, -⟩
        cases h
    | shardValues values =>
      have houtcome : (shard s).outcome server value (.ok (.shardValues values)) =
          ((shard s).pick server (.shardValues values)).bind value.ofPayload := rfl
      rw [houtcome, pick_shardValues]
      cases hlast : Response.lastFor s values with
      | none =>
        constructor
        · intro h
          cases h
        · rintro ⟨values', j, hvalues, hentry, -⟩
          cases hvalues
          rw [Response.lastFor_eq_some_iff.2 hentry] at hlast
          cases hlast
      | some j =>
        constructor
        · intro h
          exact ⟨values, j, rfl, Response.lastFor_eq_some_iff.1 hlast, h⟩
        · rintro ⟨values', j', hvalues, hentry, hpayload⟩
          cases hvalues
          rw [Response.lastFor_eq_some_iff.2 hentry] at hlast
          cases hlast
          exact hpayload

end Target

/-! ## Many outcomes -/

namespace Gathered

variable {ν : Type} {command : String} {outcomes : List (Target × Except ClusterError ν)}
  {t : Target}

theorem mem_values {v : ν} :
    (t, v) ∈ (ofOutcomes command outcomes).values ↔ (t, .ok v) ∈ outcomes := by
  rw [ofOutcomes, List.mem_filterMap]
  constructor
  · rintro ⟨⟨t', o⟩, hmem, heq⟩
    cases o <;> cases heq
    exact hmem
  · intro hmem
    exact ⟨_, hmem, rfl⟩

theorem mem_failures {e : ClusterError} :
    (t, e) ∈ (ofOutcomes command outcomes).failures ↔ (t, .error e) ∈ outcomes := by
  rw [ofOutcomes, List.mem_filterMap]
  constructor
  · rintro ⟨⟨t', o⟩, hmem, heq⟩
    cases o <;> cases heq
    exact hmem
  · intro hmem
    exact ⟨_, hmem, rfl⟩

/-- Each outcome is a value or a failure. -/
theorem targets_ofOutcomes (command : String)
    (outcomes : List (Target × Except ClusterError ν)) :
    ((ofOutcomes command outcomes).values.map (·.1) ++
    (ofOutcomes command outcomes).failures.map (·.1)).Perm (outcomes.map (·.1)) := by
  induction outcomes with
  | nil => exact .refl _
  | cons outcome outcomes ih =>
    obtain ⟨t, o⟩ := outcome
    cases o with
    | ok v => exact ih.cons t
    | error e => exact List.perm_middle.trans (ih.cons t)

/-- All or nothing: the values if nothing failed, else how much failed and the first failure. -/
theorem toResult_eq (g : Gathered ν) :
    (g.failures = [] → g.toResult = .ok g.values) ∧
    (g.failures ≠ [] → ∃ first ∈ g.failures, g.toResult = .error
      (.aggregate g.command g.failures.length (g.values.length + g.failures.length) first.2)) := by
  constructor
  · intro hnone
    rw [toResult, firstFailure?, hnone]
    rfl
  · intro hsome
    obtain ⟨first, rest, hfailures⟩ := List.exists_cons_of_ne_nil hsome
    refine ⟨first, hfailures ▸ List.mem_cons_self, ?_⟩
    rw [toResult, firstFailure?, hfailures, Nat.add_comm]
    rfl

end Gathered

/-! ## Reads -/

namespace Executor

variable {x y : Executor} {c : Command} {value : Decoder Json} {planned earlier later :
  List PlannedCall} {p : PlannedCall} {s : Shard} {handles : List CallHandle} {t : Target}
  {g : Gathered Json} {arguments : Json} {result : Except ClusterError (Gathered Json)}
  {allOrNothing : Bool} {now : Nat} {trace : List (Nat × Deed)} {u : Timed Executor}

/-- A target has the outcome that is told through its handle. -/
theorem mem_outcomes {outcome : Except ClusterError Json} :
    (t, outcome) ∈ handles.filterMap (fun h => (y.outcome? value h).map (h.target, ·)) ↔
      ∃ h ∈ handles, h.target = t ∧ y.outcome? value h = some outcome := by
  simp only [List.mem_filterMap, Option.map_eq_some_iff, Prod.mk.injEq]
  constructor
  · rintro ⟨h, hh, o, ho, rfl, rfl⟩
    exact ⟨h, hh, rfl, ho⟩
  · rintro ⟨h, hh, rfl, ho⟩
    exact ⟨h, hh, outcome, ho, rfl, rfl⟩

/-- Once all calls have ended, each target has one outcome. -/
theorem targets_outcomes (value : Decoder Json) (hfinished : ∀ h ∈ handles, y.isFinished h = true) :
    (handles.filterMap fun h => (y.outcome? value h).map (h.target, ·)).map (·.1) =
      handles.map (·.target) := by
  induction handles with
  | nil => rfl
  | cons h handles ih =>
    obtain ⟨outcome, houtcome⟩ := Option.isSome_iff_exists.1
      ((isFinished_iff value).1 (hfinished h List.mem_cons_self))
    rw [List.filterMap_cons, houtcome]
    exact congrArg (h.target :: ·) (ih fun h' hh' => hfinished h' (List.mem_cons_of_mem _ hh'))

/-- The handle of a shard, where no shard is on two servers, is for the one call that carries it. -/
theorem mem_handed_shard (hvalid : x.layout.Valid) (hdisjoint : x.layout.Disjoint)
    (hcalls : c.calls .indexRead arguments x.layout = earlier ++ p :: later)
    (hs : s ∈ p.request.shards) {call : Nat} :
    ⟨.shard s, call⟩ ∈ handed x.budget (c.calls .indexRead arguments x.layout) x.outbound ↔
      call = x.outbound.workers.calls.length + earlier.length := by
  have htargets : ∀ q ∈ p :: later, (.shard s ∈ targets q ↔ s ∈ q.request.shards) := by
    intro q hq
    have hmem : q ∈ c.calls .indexRead arguments x.layout :=
      hcalls ▸ List.mem_append_right _ hq
    rw [targets, (Command.mem_calls hmem).1,
      List.mem_map_of_injective fun _ _ h => Target.shard.inj h]
  have hget : (submitted x.budget (c.calls .indexRead arguments x.layout) x.outbound).1.get?
      (.shard s) = some (x.outbound.workers.calls.length + earlier.length) := by
    refine get?_submitted.2 ⟨earlier, p, later, hcalls, (htargets p List.mem_cons_self).2 hs,
      fun q hq => ?_, rfl⟩
    exact mt (htargets q (List.mem_cons_of_mem _ hq)).1
      (Command.notMem_later hvalid hdisjoint hcalls hs q hq)
  rw [mem_handed]
  constructor
  · intro hcall
    exact Option.some.inj (hcall.symm.trans hget)
  · rintro rfl
    exact hget

/-- Where no shard is on two servers, there are handles for the selected shards, once for each. -/
theorem targets_perm_selected (hvalid : x.layout.Valid) (hdisjoint : x.layout.Disjoint) :
    ((handed x.budget (c.calls .indexRead arguments x.layout) x.outbound).map (·.target)).Perm
      ((c.selected x.layout).map .shard) := by
  refine (List.perm_ext_iff_of_nodup (targets_handed ▸ nodup_submitted) ?_).2 fun t => ?_
  · exact (Command.nodup_selected hvalid hdisjoint).map fun _ _ h => Target.shard.inj h
  · rw [targets_handed, mem_keys_submitted, exists_target_iff, List.mem_map]
    cases t with
    | server server => simp [Command.Expects]
    | shard s => simp [Command.Expects, Command.mem_selected, and_comm]

/-- What an index read reports of a shard by the end of the call that carries it. -/
structure Entry (value : Decoder Json) (task : Nat) (server : Server) (how : CallEnd) (s : Shard)
    (g : Gathered Json) : Prop where
  /-- a value, if there are per-shard values of which the last one for the shard is well-formed -/
  value_iff : ∀ v, (.shard s, v) ∈ g.values ↔ ∃ values j,
    how = .returned (.ok (.shardValues values)) ∧ LastEntry values s j ∧ value.ofPayload j = .ok v
  /-- else a failure, which follows from the end of the call -/
  failure_iff : ∀ e, (.shard s, e) ∈ g.failures ↔
    (Target.shard s).outcome server value (how.toResult server task) = .error e

/-- What an index read reports, where no shard is on two servers. -/
structure Reports (x : Executor) (c : Command) (value : Decoder Json) (calls : Nat) (y : Executor)
    (g : Gathered Json) : Prop where
  /-- every selected shard has one entry, and nothing else has one -/
  entries : (g.values.map (·.1) ++ g.failures.map (·.1)).Perm ((c.selected x.layout).map .shard)
  /-- a shard's entry is by the end of one call of this very read: the one that asks the server of
  the shard for all of its selected shards -/
  own : ∀ server, ∀ s ∈ x.layout.served server, c.Selects s →
    ∃ place < calls, ∃ arguments call how, c.arguments = .ok arguments ∧
      y.outbound.workers.calls[x.outbound.workers.calls.length + place]? = some call ∧
      call.terms = ⟨server, x.budget⟩ ∧
      call.request = ⟨c.name, .indexRead, arguments,
        (x.layout.served server).filter (selects c.tables (c.shardsWithin c.tables))⟩ ∧
      call.end? = some how ∧
      Entry value (x.outbound.workers.calls.length + place) server how s g
  /-- all calls have ended -/
  ended : ∀ i < calls, y.outbound.workers.isFinished (x.outbound.workers.calls.length + i) = true
  /-- all values, if nothing failed -/
  whole : g.failures = [] → g.toResult = .ok g.values
  /-- else how many of the selected shards failed, and the first failure -/
  broken : g.failures ≠ [] → ∃ first ∈ g.failures, g.toResult = .error
    (.aggregate c.name g.failures.length (c.selected x.layout).length first.2)

/-- Once all calls of a read have ended, a shard's entry is by the call that carries the shard. -/
theorem entry_of_call (value : Decoder Json) (hvalid : x.layout.Valid)
    (hdisjoint : x.layout.Disjoint)
    (hcalls : c.calls .indexRead arguments x.layout = earlier ++ p :: later)
    (hs : s ∈ p.request.shards)
    (hon : (submitted x.budget (c.calls .indexRead arguments x.layout) x.outbound).2.workers.GoesOn
      y.outbound.workers)
    (hfinished : y.outbound.workers.isFinished
      (x.outbound.workers.calls.length + earlier.length) = true) :
    ∃ call how, y.outbound.workers.calls[x.outbound.workers.calls.length + earlier.length]? =
        some call ∧
      call.terms = ⟨p.server, x.budget⟩ ∧ call.request = p.request ∧ call.end? = some how ∧
      Entry value (x.outbound.workers.calls.length + earlier.length) p.server how s
        (.ofOutcomes c.name <|
          (handed x.budget (c.calls .indexRead arguments x.layout) x.outbound).filterMap
            fun h => (y.outcome? value h).map (h.target, ·)) := by
  obtain ⟨call, hcall, hgoes⟩ := hon _ _ (getElem?_submitted x.budget x.outbound hcalls)
  rw [Workers.isFinished, Workers.result?_eq hcall, Option.isSome_map] at hfinished
  obtain ⟨how, hend⟩ := Option.isSome_iff_exists.1 hfinished
  have houtcome : ∀ outcome, (.shard s, outcome) ∈
      (handed x.budget (c.calls .indexRead arguments x.layout) x.outbound).filterMap
        (fun h => (y.outcome? value h).map (h.target, ·)) ↔
      (Target.shard s).outcome p.server value
        (how.toResult p.server (x.outbound.workers.calls.length + earlier.length)) = outcome := by
    intro outcome
    rw [mem_outcomes]
    constructor
    · rintro ⟨⟨t, task⟩, hh, rfl, ho⟩
      obtain rfl := (mem_handed_shard hvalid hdisjoint hcalls hs).1 hh
      obtain ⟨call', how', hcall', hend', rfl⟩ := outcome?_eq_some.1 ho
      obtain rfl := Option.some.inj (hcall.symm.trans hcall')
      obtain rfl := Option.some.inj (hend.symm.trans hend')
      rw [hgoes.terms_eq]
      rfl
    · rintro rfl
      refine ⟨_, (mem_handed_shard hvalid hdisjoint hcalls hs).2 rfl, rfl, ?_⟩
      exact outcome?_eq_some.2 ⟨call, how, hcall, hend, by rw [hgoes.terms_eq]; rfl⟩
  refine ⟨call, how, hcall, hgoes.terms_eq, hgoes.request_eq, hend, fun v => ?_, fun e => ?_⟩
  · rw [Gathered.mem_values, houtcome, Target.outcome_eq_ok_iff]
    -- what was returned is what those who wait are told
    have hreturned : ∀ r, how.toResult p.server
        (x.outbound.workers.calls.length + earlier.length) = .ok r ↔ how = .returned (.ok r) := by
      intro r
      cases how <;> simp [CallEnd.toResult]
    simp only [hreturned]
  · rw [Gathered.mem_failures, houtcome]

/-! ## Runs -/

/-- Calls that were submitted go on. -/
theorem goesOn_submitted (hplan : c.plan .indexRead x.limits x.layout = .ok planned)
    (hrun : Run machine Deed.perform ⟨now, (x.read .indexRead allOrNothing c value).2⟩ trace u) :
    (submitted x.budget planned x.outbound).2.workers.GoesOn u.state.outbound.workers := by
  have hread : (x.read .indexRead allOrNothing c value).2.outbound =
      (submitted x.budget planned x.outbound).2 :=
    congrArg (·.2.outbound) (startWithin_ok x.budget hplan)
  rw [← hread]
  exact (goesOn_of_run hrun).calls

/-- What comes back for a read that could be started is told by its handles, all of whose calls have
ended. -/
theorem gathered_of_run (hplan : c.plan .indexRead x.limits x.layout = .ok planned)
    (hrun : Run machine Deed.perform ⟨now, (x.read .indexRead allOrNothing c value).2⟩ trace u)
    (hresult : u.state.gathered? x.reads.length = some result) :
    (∀ h ∈ handed x.budget planned x.outbound, u.state.isFinished h = true) ∧
      result = .ok (.ofOutcomes c.name ((handed x.budget planned x.outbound).filterMap
        fun h => (u.state.outcome? value h).map (h.target, ·))) := by
  have hreads := Reads.of_run hrun (reads_read .indexRead allOrNothing c value)
  exact (gather?_eq_some (congrArg Prod.fst (startWithin_ok x.budget hplan))).1
    (hreads.gather? hresult)

/-- A read that has ended reports all its calls. -/
theorem reports_of_run (hvalid : x.layout.Valid) (hdisjoint : x.layout.Disjoint)
    (hplan : c.plan .indexRead x.limits x.layout = .ok planned)
    (hrun : Run machine Deed.perform ⟨now, (x.read .indexRead allOrNothing c value).2⟩ trace u)
    (hresult : u.state.gathered? x.reads.length = some result) :
    ∃ g, result = .ok g ∧ Reports x c value planned.length u.state g := by
  obtain ⟨hfinished, rfl⟩ := gathered_of_run hplan hrun hresult
  obtain ⟨arguments, harguments, rfl⟩ := Command.calls_of_plan hplan
  have hended : ∀ i < (c.calls .indexRead arguments x.layout).length,
      u.state.outbound.workers.isFinished (x.outbound.workers.calls.length + i) = true := by
    intro i hi
    obtain ⟨h, hh, hcall⟩ := owned_of_disjoint x.budget x.outbound hvalid hdisjoint rfl
      hi
    rw [← hcall]
    exact hfinished h hh
  have hpartition := (Gathered.targets_ofOutcomes c.name _).trans
    ((targets_outcomes value hfinished).symm ▸ targets_perm_selected hvalid hdisjoint)
  refine ⟨_, rfl, hpartition, fun server s hserved hselected => ?_, hended, ?_, ?_⟩
  · obtain ⟨p, hp, rfl⟩ := List.mem_map.1
      (Command.mem_servers_calls.2 ⟨s, hserved, hselected⟩)
    obtain ⟨earlier, later, hcalls⟩ := List.append_of_mem hp
    have hs := (Command.mem_shards hp).2 ⟨hserved, hselected⟩
    have hplace : earlier.length < (c.calls .indexRead arguments x.layout).length := by
      rw [hcalls]
      simp
    obtain ⟨call, how, hcall, hterms, hrequest, hend, hentry⟩ := entry_of_call value hvalid
      hdisjoint hcalls hs (goesOn_submitted hplan hrun) (hended _ hplace)
    exact ⟨_, hplace, arguments, call, how, harguments, hcall, hterms,
      hrequest.trans (Command.request_of_mem hp), hend, hentry⟩
  · exact (Gathered.toResult_eq _).1
  · intro hsome
    obtain ⟨first, hfirst, htotal⟩ := (Gathered.toResult_eq _).2 hsome
    refine ⟨first, hfirst, ?_⟩
    have hlength := hpartition.length_eq
    rw [List.length_append, List.length_map, List.length_map, List.length_map] at hlength
    rw [htotal, hlength]
    rfl

/-- Once all calls of a read have ended, the read ends at the next turn, which is due at once. -/
theorem returns_of_run (hplan : c.plan .indexRead x.limits x.layout = .ok planned)
    (hrun : Run machine Deed.perform ⟨now, (x.read .indexRead allOrNothing c value).2⟩ trace u)
    (hended : ∀ i < planned.length,
      u.state.outbound.workers.isFinished (x.outbound.workers.calls.length + i) = true) :
    ((u.state.fire u.now).gathered? x.reads.length).isSome = true ∧
      (u.state.gathered? x.reads.length = none → machine.due u.state = some 0) := by
  have hreads := Reads.of_run hrun (reads_read .indexRead allOrNothing c value)
  have hfinished : ∀ h ∈ handed x.budget planned x.outbound, u.state.isFinished h = true := by
    intro h hh
    obtain ⟨earlier, p, later, rfl, -, -, hcall⟩ := get?_submitted.1 (mem_handed.1 hh)
    rw [isFinished, hcall]
    exact hended _ (by simp)
  obtain ⟨hreturns, hdue⟩ := hreads.returns
    ((gather?_eq_some (congrArg Prod.fst (startWithin_ok x.budget hplan))).2 ⟨hfinished, rfl⟩) u.now
  exact ⟨by rw [hreturns]; rfl, hdue⟩

end Executor

end ScatterSearch
