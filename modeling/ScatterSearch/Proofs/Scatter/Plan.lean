import Mathlib.Data.List.Induction
import ScatterSearch.Proofs.Cluster.Layout
import ScatterSearch.Scatter.Plan

/-!
# What is planned

A command is refused because of its arguments, its limits or a table that nobody serves, in this
order; otherwise its plan has one call for each server that serves something selected
(`Command.plan_of_known`, `Command.mem_servers_calls`).

Plain commands are built by steps. What their steps select (`CommandParts.Selects`) is what the plan
goes by: since each shard that is named brings its table along, no shard is lost on the way
(`CommandParts.selects_built`).
-/

namespace ScatterSearch

namespace CommandLimits

variable {limits : CommandLimits} {name : String} {arguments : Json}

/-- A command that exceeds its limits is refused as such. -/
theorem rejected_of_check {e : ClusterError} (h : limits.check name arguments = .error e) :
    ∃ reason, e = .rejected name reason := by
  cases limits with
  | none => cases h
  | within maxArgumentBytes maxNameBytes =>
    simp only [check] at h
    split at h
    · exact ⟨_, (Except.error.inj h).symm⟩
    · split at h
      · exact ⟨_, (Except.error.inj h).symm⟩
      · cases h

end CommandLimits

namespace Command

variable {c : Command} {kind : CommandKind} {limits : CommandLimits} {l : Layout}
  {arguments : Json}

/-- Whether the command selects a shard. -/
def Selects (c : Command) (s : Shard) : Prop := selects c.tables (c.shardsWithin c.tables) s = true

/-- The calls of a command that nothing speaks against. -/
def calls (c : Command) (kind : CommandKind) (arguments : Json) (l : Layout) : List PlannedCall :=
  (c.selection l).assignments.map fun (server, shards) =>
    ⟨server, ⟨c.name, kind, arguments, shards⟩⟩

/-- The shards of a layout that the command selects. -/
def selected (c : Command) (l : Layout) : List Shard :=
  (l.servers.flatMap l.served).filter (selects c.tables (c.shardsWithin c.tables))

/-- The selected shards are those that are served and that the command selects. -/
theorem mem_selected {s : Shard} :
    s ∈ c.selected l ↔ (∃ server, s ∈ l.served server) ∧ c.Selects s := by
  rw [selected, List.mem_filter, List.mem_flatMap]
  constructor
  · rintro ⟨⟨server, -, hs⟩, hselected⟩
    exact ⟨⟨server, hs⟩, hselected⟩
  · rintro ⟨⟨server, hs⟩, hselected⟩
    exact ⟨⟨server, Layout.mem_servers hs, hs⟩, hselected⟩

theorem nodup_selected (hvalid : l.Valid) (hdisjoint : l.Disjoint) : (c.selected l).Nodup :=
  (Layout.nodup_shards hvalid hdisjoint).filter _

/-! ## What comes of a command -/

theorem plan_of_check_error (harguments : c.arguments = .ok arguments) {e : ClusterError}
    (h : limits.check c.name arguments = .error e) : c.plan kind limits l = .error e := by
  rw [plan, harguments]
  change (do limits.check c.name arguments; _) = _
  rw [h]
  rfl

/-- A command within its limits is refused if one of its tables is on no server. -/
theorem plan_of_missing (kind : CommandKind) (harguments : c.arguments = .ok arguments)
    (hcheck : limits.check c.name arguments = .ok ()) {table : String} (htable : table ∈ c.tables)
    (hmissing : table ∉ l.tables) :
    ∃ missing ∈ c.tables, missing ∉ l.tables ∧
      c.plan kind limits l = .error (.tableNotFound missing) := by
  obtain ⟨missing, hfind⟩ : ∃ missing, c.missingTable? l = some missing := by
    refine Option.isSome_iff_exists.1 (List.find?_isSome.2 ⟨table, htable, ?_⟩)
    simpa using hmissing
  refine ⟨missing, List.mem_of_find?_eq_some hfind, ?_, ?_⟩
  · simpa using List.find?_some hfind
  · rw [plan, harguments]
    change (do limits.check c.name arguments; _) = _
    rw [hcheck, hfind]
    rfl

theorem plan_of_known (harguments : c.arguments = .ok arguments)
    (hcheck : limits.check c.name arguments = .ok ()) (hknown : ∀ table ∈ c.tables,
      table ∈ l.tables) : c.plan kind limits l = .ok (c.calls kind arguments l) := by
  have hfind : c.missingTable? l = none :=
    List.find?_eq_none.2 fun table htable => by simpa using hknown table htable
  rw [plan, harguments]
  change (do limits.check c.name arguments; _) = _
  rw [hcheck, hfind]
  rfl

/-- Whatever is planned is the calls of a command that nothing speaks against. -/
theorem calls_of_plan {planned : List PlannedCall} (h : c.plan kind limits l = .ok planned) :
    ∃ arguments, c.arguments = .ok arguments ∧ planned = c.calls kind arguments l := by
  cases harguments : c.arguments with
  | error e =>
    rw [plan, harguments] at h
    cases h
  | ok arguments =>
    cases hcheck : limits.check c.name arguments with
    | error e =>
      rw [plan_of_check_error harguments hcheck] at h
      cases h
    | ok u =>
      by_cases hknown : ∀ table ∈ c.tables, table ∈ l.tables
      · rw [plan_of_known harguments hcheck hknown] at h
        exact ⟨arguments, rfl, (Except.ok.inj h).symm⟩
      · obtain ⟨table, htable⟩ := not_forall.1 hknown
        obtain ⟨htable, hmissing⟩ := Classical.not_imp.1 htable
        obtain ⟨missing, -, -, hplan⟩ :=
          plan_of_missing kind harguments hcheck htable hmissing
        rw [hplan] at h
        cases h

/-! ## The calls -/

/-- A call asks a server for exactly the selected shards that it serves, and for some. -/
theorem mem_calls {p : PlannedCall} (hp : p ∈ c.calls kind arguments l) :
    p.request.kind = kind ∧ p.request.command = c.name ∧ p.request.arguments = arguments ∧
      p.request.shards = (l.served p.server).filter (selects c.tables (c.shardsWithin c.tables)) ∧
      ∃ s ∈ l.served p.server, c.Selects s := by
  obtain ⟨⟨server, shards⟩, hmem, rfl⟩ := List.mem_map.1 hp
  obtain ⟨hsome, rfl⟩ := Snapshot.mem_capture.1 hmem
  exact ⟨rfl, rfl, rfl, rfl, hsome⟩

/-- What is asked by a call: all of its server's shards that are selected. -/
theorem request_of_mem {p : PlannedCall} (hp : p ∈ c.calls kind arguments l) :
    p.request = ⟨c.name, kind, arguments,
      (l.served p.server).filter (selects c.tables (c.shardsWithin c.tables))⟩ := by
  obtain ⟨⟨server, shards⟩, hmem, rfl⟩ := List.mem_map.1 hp
  obtain ⟨-, rfl⟩ := Snapshot.mem_capture.1 hmem
  rfl

/-- A call asks for the selected shards of its server. -/
theorem mem_shards {p : PlannedCall} (hp : p ∈ c.calls kind arguments l) {s : Shard} :
    s ∈ p.request.shards ↔ s ∈ l.served p.server ∧ c.Selects s := by
  rw [(mem_calls hp).2.2.2.1, List.mem_filter]
  rfl

/-- There is a call to each server that serves something selected, and to no other. -/
theorem mem_servers_calls {server : Server} :
    server ∈ (c.calls kind arguments l).map (·.server) ↔ ∃ s ∈ l.served server, c.Selects s := by
  constructor
  · intro h
    obtain ⟨p, hp, rfl⟩ := List.mem_map.1 h
    exact (mem_calls hp).2.2.2.2
  · intro h
    have hmem : (server, (l.served server).filter (selects c.tables (c.shardsWithin c.tables))) ∈
        (c.selection l).assignments := Snapshot.mem_capture.2 ⟨h, rfl⟩
    exact List.mem_map.2 ⟨_, List.mem_map_of_mem hmem, rfl⟩

/-- There is no second call to a server. -/
theorem nodup_servers_calls (hvalid : l.Valid) :
    ((c.calls kind arguments l).map (·.server)).Nodup := by
  have hservers : (c.calls kind arguments l).map (·.server) = (c.selection l).servers :=
    List.map_map
  rw [hservers, selection, Snapshot.servers_capture]
  exact hvalid.servers.filter _

/-- No server has two calls. -/
theorem place_eq_of_server_eq (hvalid : l.Valid) {i j : Nat} {p q : PlannedCall}
    (hp : (c.calls kind arguments l)[i]? = some p) (hq : (c.calls kind arguments l)[j]? = some q)
    (h : p.server = q.server) : i = j := by
  have hservers : ((c.calls kind arguments l).map (·.server)).Nodup := nodup_servers_calls hvalid
  have hlt : i < ((c.calls kind arguments l).map (·.server)).length := by
    rw [List.length_map]
    exact (List.getElem?_eq_some_iff.1 hp).1
  refine (List.getElem?_inj hlt hservers).1 ?_
  rw [List.getElem?_map, List.getElem?_map, hp, hq, Option.map_some, Option.map_some, h]

theorem nodup_shards (hvalid : l.Valid) {p : PlannedCall} (hp : p ∈ c.calls kind arguments l) :
    p.request.shards.Nodup := by
  rw [(mem_calls hp).2.2.2.1]
  exact (hvalid.served p.server).filter _

/-- Where no shard is on two servers, it is in one call only. -/
theorem notMem_later (hvalid : l.Valid) (hdisjoint : l.Disjoint) {p : PlannedCall}
    {earlier later : List PlannedCall} (hcalls : c.calls kind arguments l = earlier ++ p :: later)
    {s : Shard} (hs : s ∈ p.request.shards) : ∀ q ∈ later, s ∉ q.request.shards := by
  intro q hq hqs
  have hservers : ((c.calls kind arguments l).map (·.server)).Nodup := nodup_servers_calls hvalid
  rw [hcalls, List.map_append, List.map_cons] at hservers
  have hnot := (List.nodup_cons.1 (List.nodup_append.1 hservers).2.1).1
  have hmem : ∀ p' ∈ p :: later, p' ∈ c.calls kind arguments l := fun p' hp' =>
    hcalls ▸ List.mem_append_right _ hp'
  have hserved := ((mem_shards (hmem p List.mem_cons_self)).1 hs).1
  have hserved' := ((mem_shards (hmem q (List.mem_cons_of_mem _ hq))).1 hqs).1
  rw [hdisjoint _ _ s hserved hserved'] at hnot
  exact hnot (List.mem_map_of_mem hq)

/-- Where nothing is selected no call is planned. -/
theorem calls_eq_nil (h : ∀ server, ∀ s ∈ l.served server, ¬ c.Selects s) :
    c.calls kind arguments l = [] := by
  refine List.eq_nil_iff_forall_not_mem.2 fun p hp => ?_
  obtain ⟨s, hs, hselects⟩ := (mem_calls hp).2.2.2.2
  exact h p.server s hs hselects

end Command

/-! ## Commands that are built -/

namespace CommandParts

/-- A step in which a command is built. -/
inductive Step where
  | table (table : String)
  | shard (shard : Shard)
  | args (arguments : Json)

/-- The command after a step. -/
def take (p : CommandParts) : Step → CommandParts
  | .table t => p.table t
  | .shard s => p.shard s
  | .args arguments => p.withArgs arguments

/-- The command that steps build. -/
def built (name : String) (steps : List Step) : CommandParts := steps.foldl take (named name)

/-- Whether steps name a table: by itself, or by one of its shards. -/
def NamesTable (steps : List Step) (table : String) : Prop :=
  .table table ∈ steps ∨ ∃ s, .shard s ∈ steps ∧ s.table = table

/-- Whether steps select a shard: its table is named and, if any shards are named, so is it. -/
def Selects (steps : List Step) (s : Shard) : Prop :=
  NamesTable steps s.table ∧ ((∃ s', .shard s' ∈ steps) → .shard s ∈ steps)

variable {name : String} {steps : List Step}

theorem built_concat (step : Step) : built name (steps ++ [step]) = (built name steps).take step :=
  List.foldl_concat ..

theorem name_built : (built name steps).name = name := by
  induction steps using List.reverseRecOn with
  | nil => rfl
  | append_singleton steps step ih =>
    rw [built_concat]
    cases step <;> exact ih

/-- The tables of a command are those that were named in building it. -/
theorem mem_tables_built {table : String} :
    table ∈ (built name steps).tables ↔ NamesTable steps table := by
  induction steps using List.reverseRecOn with
  | nil => simp [built, named, NamesTable]
  | append_singleton steps step ih =>
    rw [built_concat]
    cases step with
    | table t =>
      rw [take, CommandParts.table, List.mem_insert_iff, ih]
      simp only [NamesTable, List.mem_append, List.mem_singleton, Step.table.injEq, reduceCtorEq,
        or_false]
      rw [or_right_comm, or_comm]
    | shard s =>
      rw [take, CommandParts.shard, List.mem_insert_iff, ih]
      simp only [NamesTable, List.mem_append, List.mem_singleton, Step.shard.injEq, reduceCtorEq,
        or_false, or_and_right, exists_or, exists_eq_left]
      rw [or_comm, or_assoc, eq_comm]
    | args arguments =>
      rw [take, withArgs, ih]
      simp [NamesTable]

theorem mem_shards_built {s : Shard} : s ∈ (built name steps).shards ↔ .shard s ∈ steps := by
  induction steps using List.reverseRecOn with
  | nil => simp [built, named]
  | append_singleton steps step ih =>
    rw [built_concat]
    cases step with
    | table t => simp [take, CommandParts.table, ih]
    | shard s' => simp [take, CommandParts.shard, List.mem_insert_iff, ih, or_comm]
    | args arguments => simp [take, withArgs, ih]

/-- No shard that was named is left out, since its table was named with it. -/
theorem shardsWithin_built :
    (built name steps).shardsWithin (built name steps).tables = (built name steps).shards := by
  refine List.filter_eq_self.2 fun s hs => ?_
  rw [List.contains_eq_mem, decide_eq_true_eq, mem_tables_built]
  exact .inr ⟨s, mem_shards_built.1 hs, rfl⟩

/-- A command selects what was named in building it. -/
theorem selects_built {s : Shard} : (built name steps).command.Selects s ↔ Selects steps s := by
  change selects (built name steps).tables
    ((built name steps).shardsWithin (built name steps).tables) s = true ↔ _
  rw [shardsWithin_built, selects_iff, mem_tables_built, Selects, mem_shards_built]
  refine and_congr_right fun _ => ?_
  rw [List.eq_nil_iff_forall_not_mem]
  simp only [mem_shards_built]
  constructor
  · rintro (hnone | hs) ⟨s', hs'⟩
    · exact absurd hs' (hnone s')
    · exact hs
  · intro h
    by_cases hsome : ∃ s', Step.shard s' ∈ steps
    · exact .inr (h hsome)
    · exact .inl (not_exists.1 hsome)

end CommandParts

end ScatterSearch
