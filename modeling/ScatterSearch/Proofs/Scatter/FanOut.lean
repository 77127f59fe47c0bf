import ScatterSearch.Proofs.Scatter.Plan
import ScatterSearch.Proofs.Scatter.Submission

/-!
# Fan-out

A read of a built command goes to exactly the servers that serve something it selects, asks each of
them once, for exactly its selected shards, and hands out one handle for each value that is expected
(`Executor.FansOut`). A command that is refused, or that selects nothing, calls nobody: its limits
are looked at first, then its tables.
-/

namespace ScatterSearch

open CommandParts

/-- Whether a read by steps expects a value of a target: of each selected shard that is served, or
of each server that serves one. -/
def Layout.Expects (l : Layout) (steps : List Step) : CommandKind → Target → Prop
  | .indexRead, .shard s => Selects steps s ∧ ∃ server, s ∈ l.served server
  | .serverRead, .server server => ∃ s ∈ l.served server, Selects steps s
  | _, _ => False

/-- The same of a command, however it came about. -/
def Command.Expects (c : Command) (l : Layout) : CommandKind → Target → Prop
  | .indexRead, .shard s => c.Selects s ∧ ∃ server, s ∈ l.served server
  | .serverRead, .server server => ∃ s ∈ l.served server, c.Selects s
  | _, _ => False

theorem expects_built {l : Layout} {kind : CommandKind} {name : String} {steps : List Step}
    {t : Target} : (built name steps).command.Expects l kind t ↔ l.Expects steps kind t := by
  cases kind <;> cases t <;> simp [Command.Expects, Layout.Expects, selects_built]

namespace Executor

variable {x : Executor} {budget : Option Nat} {kind : CommandKind} {name : String}
  {steps : List Step} {planned : List PlannedCall} {c : Command} {arguments : Json} {l : Layout}
  {t : Target}

/-- The targets of the planned calls are those of which a value is expected. -/
theorem exists_target_iff :
    (∃ p ∈ c.calls kind arguments l, t ∈ targets p) ↔ c.Expects l kind t := by
  constructor
  · rintro ⟨p, hp, ht⟩
    rw [targets, (Command.mem_calls hp).1] at ht
    cases kind with
    | indexRead =>
      obtain ⟨s, hs, rfl⟩ := List.mem_map.1 ht
      obtain ⟨hserved, hselected⟩ := (Command.mem_shards hp).1 hs
      exact ⟨hselected, p.server, hserved⟩
    | serverRead =>
      obtain rfl := List.mem_singleton.1 ht
      exact Command.mem_servers_calls.1 (List.mem_map_of_mem hp)
  · -- there is a call to a server that serves a selected shard
    have hplanned : ∀ server, ∀ s ∈ l.served server, c.Selects s →
        ∃ p ∈ c.calls kind arguments l, p.server = server ∧ s ∈ p.request.shards := by
      intro server s hs hselected
      obtain ⟨p, hp, rfl⟩ := List.mem_map.1 (Command.mem_servers_calls.2 ⟨s, hs, hselected⟩)
      exact ⟨p, hp, rfl, (Command.mem_shards hp).2 ⟨hs, hselected⟩⟩
    intro ht
    cases kind with
    | indexRead =>
      cases t with
      | server server => cases ht
      | shard s =>
        obtain ⟨hselected, server, hs⟩ := ht
        obtain ⟨p, hp, -, hmem⟩ := hplanned server s hs hselected
        refine ⟨p, hp, ?_⟩
        rw [targets, (Command.mem_calls hp).1]
        exact List.mem_map_of_mem hmem
    | serverRead =>
      cases t with
      | shard s => cases ht
      | server server =>
        obtain ⟨s, hs, hselected⟩ := ht
        obtain ⟨p, hp, rfl, -⟩ := hplanned server s hs hselected
        refine ⟨p, hp, ?_⟩
        rw [targets, (Command.mem_calls hp).1]
        exact List.mem_singleton_self _

/-- An exact fan-out: `added` are the calls of a read, behind the first calls, and `handles` are for
them. -/
structure FansOut (l : Layout) (budget : Option Nat) (kind : CommandKind) (name : String)
    (steps : List Step) (first : Nat) (added : List Call) (handles : List CallHandle) : Prop where
  /-- no server is called twice -/
  once : (added.map (·.terms.server)).Nodup
  /-- a server is called exactly if it serves something selected -/
  called : ∀ server, server ∈ added.map (·.terms.server) ↔ ∃ s ∈ l.served server, Selects steps s
  /-- a call carries exactly what is selected of its server's shards -/
  carries : ∀ c ∈ added, ∃ server shards,
    c = .new ⟨server, budget⟩ ⟨name, kind, (built name steps).args, shards⟩ ∧ shards.Nodup ∧
      ∀ s, s ∈ shards ↔ s ∈ l.served server ∧ Selects steps s
  /-- no target has two handles -/
  distinct : (handles.map (·.target)).Nodup
  /-- a target has a handle exactly if a value is expected of it -/
  targets : ∀ t, t ∈ handles.map (·.target) ↔ l.Expects steps kind t
  /-- a handle is for an added call that carries its shard, or goes to its server -/
  calls : ∀ h ∈ handles, ∃ i c, h.call = first + i ∧ added[i]? = some c ∧
    match h.target with
    | .shard s => s ∈ c.request.shards
    | .server server => c.terms.server = server

theorem servers_freshCalls :
    (freshCalls budget planned).map (·.terms.server) = planned.map (·.server) := by
  rw [freshCalls, List.map_map]
  rfl

/-- What is planned for the steps of a command is an exact fan-out. -/
theorem fansOut_submitted (hvalid : x.layout.Valid)
    (hplanned : planned = (built name steps).command.calls kind (built name steps).args x.layout) :
    FansOut x.layout budget kind name steps x.outbound.workers.calls.length
      (freshCalls budget planned) (handed budget planned x.outbound) := by
  refine ⟨?once, fun server => ?called, fun c hc => ?carries, ?distinct, fun t => ?targets,
    fun h hh => ?calls⟩
  case once =>
    rw [servers_freshCalls, hplanned]
    exact Command.nodup_servers_calls hvalid
  case called =>
    rw [servers_freshCalls, hplanned, Command.mem_servers_calls]
    simp only [selects_built]
  case carries =>
    obtain ⟨p, hp, rfl⟩ := List.mem_map.1 hc
    rw [hplanned] at hp
    obtain ⟨hkind, hname, harguments, -⟩ := Command.mem_calls hp
    refine ⟨p.server, p.request.shards, ?_, Command.nodup_shards hvalid hp, fun s => ?_⟩
    · rw [← hkind, ← harguments]
      exact congrArg (Call.new ⟨p.server, budget⟩ <| ExecuteRequest.mk · _ _ _)
        (hname.trans name_built)
    · rw [Command.mem_shards hp, selects_built]
  case distinct =>
    rw [targets_handed]
    exact nodup_submitted
  case targets =>
    rw [targets_handed, mem_keys_submitted, hplanned, exists_target_iff, expects_built]
  case calls =>
    obtain ⟨earlier, p, later, hsplit, ht, -, hcall⟩ := get?_submitted.1 (mem_handed.1 hh)
    refine ⟨earlier.length, .new ⟨p.server, budget⟩ p.request, hcall, ?_, ?_⟩
    · rw [freshCalls, List.getElem?_map, hsplit]
      simp
    · rw [targets] at ht
      split at ht
      · obtain ⟨s, hs, hs'⟩ := List.mem_map.1 ht
        rw [← hs']
        exact hs
      · rw [List.mem_singleton.1 ht]
        rfl

/-- A read of a built command calls nobody if the command exceeds its limits, if one of its tables
is on no server, or if it selects nothing that is served; otherwise its fan-out is exact. -/
theorem start_fans_out (hvalid : x.layout.Valid) (budget : Option Nat) (kind : CommandKind)
    (name : String) (steps : List Step) :
    let c := built name steps
    let result := (x.startWithin budget kind c.command).1
    let outbound := (x.startWithin budget kind c.command).2.outbound
    (∀ e, x.limits.check name c.args = .error e →
      (∃ reason, e = .rejected name reason) ∧ result = .error e ∧ outbound = x.outbound) ∧
    (x.limits.check name c.args = .ok () →
      (∀ table, NamesTable steps table →
        (∀ server, ∀ s ∈ x.layout.served server, s.table ≠ table) →
        ∃ missing, NamesTable steps missing ∧
          (∀ server, ∀ s ∈ x.layout.served server, s.table ≠ missing) ∧
          result = .error (.tableNotFound missing) ∧ outbound = x.outbound) ∧
      ((∀ table, NamesTable steps table → ∃ server s, s ∈ x.layout.served server ∧
          s.table = table) →
        ((∀ server, ∀ s ∈ x.layout.served server, ¬ Selects steps s) →
          result = .ok [] ∧ outbound = x.outbound) ∧
        ∃ handles added, result = .ok handles ∧
          outbound = { x.outbound with workers := { x.outbound.workers with
            calls := x.outbound.workers.calls ++ added } } ∧
          FansOut x.layout budget kind name steps x.outbound.workers.calls.length added
            handles)) := by
  intro c result outbound
  have harguments : c.command.arguments = .ok c.args := rfl
  have hname : c.command.name = name := name_built
  have hmissing : ∀ table, table ∉ x.layout.tables ↔
      ∀ server, ∀ s ∈ x.layout.served server, s.table ≠ table := by
    intro table
    simp [Layout.mem_tables]
  refine ⟨fun e hcheck => ?_, fun hcheck => ⟨fun table htable hno => ?_, fun hknown => ?_⟩⟩
  · have hplan : c.command.plan kind x.limits x.layout = .error e :=
      Command.plan_of_check_error harguments (hname.symm ▸ hcheck)
    refine ⟨CommandLimits.rejected_of_check hcheck, ?_, ?_⟩
    · exact congrArg Prod.fst (startWithin_error budget hplan)
    · exact congrArg (·.2.outbound) (startWithin_error budget hplan)
  · obtain ⟨missing, hmem, hnot, hplan⟩ := Command.plan_of_missing kind harguments
      (hname.symm ▸ hcheck) (mem_tables_built.2 htable) ((hmissing table).2 hno)
    refine ⟨missing, mem_tables_built.1 hmem, (hmissing missing).1 hnot, ?_, ?_⟩
    · exact congrArg Prod.fst (startWithin_error budget hplan)
    · exact congrArg (·.2.outbound) (startWithin_error budget hplan)
  · have hplan : c.command.plan kind x.limits x.layout =
        .ok (c.command.calls kind c.args x.layout) :=
      Command.plan_of_known harguments (hname.symm ▸ hcheck) fun table htable =>
        Layout.mem_tables.2 (hknown table (mem_tables_built.1 htable))
    have hstart := startWithin_ok budget hplan
    refine ⟨fun hnone => ?_, _, _, congrArg Prod.fst hstart, ?_, fansOut_submitted hvalid rfl⟩
    · have hcalls : c.command.calls kind c.args x.layout = [] :=
        Command.calls_eq_nil fun server s hs => mt selects_built.1 (hnone server s hs)
      rw [hcalls] at hstart
      exact ⟨congrArg Prod.fst hstart, congrArg (·.2.outbound) hstart⟩
    · exact (congrArg (·.2.outbound) hstart).trans outbound_submitted

/-- Three servers: two of them share a shard, and one has none. -/
def trio : Executor :=
  .new
    (.ofAssignments [(⟨"a:1"⟩, [⟨"t", "0"⟩, ⟨"t", "1"⟩]), (⟨"b:1"⟩, [⟨"t", "1"⟩]), (⟨"c:1"⟩, [])])
    .default (.new [] [] fun _ => .unreachable 0 (.internal "no such server"))

/-- The shared shard is asked of both servers that have it, and of no other. -/
theorem trio_fans_out :
    trio.layout.Valid ∧ ∃ handles added,
      (trio.startWithin none .indexRead (built "count" [.shard ⟨"t", "1"⟩]).command).1 =
        .ok handles ∧
      FansOut trio.layout none .indexRead "count" [.shard ⟨"t", "1"⟩] 0 added handles ∧
      added.map (·.terms.server) = [⟨"a:1"⟩, ⟨"b:1"⟩] := by
  have hvalid : trio.layout.Valid := Layout.valid_ofAssignments _
  have hcheck : trio.limits.check "count" (built "count" [.shard ⟨"t", "1"⟩]).args = .ok () := by
    decide +kernel
  have hserved : (⟨"t", "1"⟩ : Shard) ∈ trio.layout.served ⟨"a:1"⟩ := by decide +kernel
  have hknown : ∀ table, NamesTable [.shard ⟨"t", "1"⟩] table →
      ∃ server s, s ∈ trio.layout.served server ∧ s.table = table := by
    rintro table (h | ⟨s, hs, rfl⟩)
    · cases List.mem_singleton.1 h
    · cases List.mem_singleton.1 hs
      exact ⟨_, _, hserved, rfl⟩
  obtain ⟨handles, added, hresult, houtbound, hexact⟩ :=
    (((start_fans_out hvalid none .indexRead "count" [.shard ⟨"t", "1"⟩]).2 hcheck).2 hknown).2
  refine ⟨hvalid, handles, added, hresult, hexact, ?_⟩
  have hcalls := congrArg (·.workers.calls.map (·.terms.server)) houtbound
  exact hcalls.symm.trans (by decide +kernel)

end Executor

end ScatterSearch
