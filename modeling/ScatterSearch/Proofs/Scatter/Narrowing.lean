import ScatterSearch.Proofs.Scatter.Plan

/-!
# What named shards leave of a layout

A command that names shards selects no others, as long as it is asked within tables of which it
names a shard (`CommandParts.named_shards_narrow`). Its own tables are always such, since each shard
that is named brings its table along. Within other tables none of its shards is left, and no shards
stand for all: then everything in these tables is selected.
-/

namespace ScatterSearch

namespace Snapshot

/-- Whether a snapshot has a shard on a server. -/
def Holds (snapshot : Snapshot) (server : Server) (s : Shard) : Prop :=
  ∃ held, snapshot.shardsOn? server = some held ∧ s ∈ held

variable {l : Layout} {tables : List String} {shards : List Shard} {server : Server} {s : Shard}

/-- A snapshot has the selected shards, each where it is served. -/
theorem holds_capture : (capture l tables shards).Holds server s ↔
    s ∈ l.served server ∧ selects tables shards s = true := by
  have hentry : ∀ held, (capture l tables shards).shardsOn? server = some held →
      held = (l.served server).filter (selects tables shards) := fun held hheld =>
    (mem_capture.1 (Assoc.mem_of_get? hheld)).2
  constructor
  · rintro ⟨held, hheld, hs⟩
    rw [hentry held hheld] at hs
    exact List.mem_filter.1 hs
  · intro hs
    have hmem : (server, (l.served server).filter (selects tables shards)) ∈
        (capture l tables shards).assignments := mem_capture.2 ⟨⟨s, hs.1, hs.2⟩, rfl⟩
    obtain ⟨held, hheld⟩ := Assoc.mem_keys.1 (List.mem_map_of_mem hmem)
    refine ⟨held, hheld, ?_⟩
    rw [hentry held hheld]
    exact List.mem_filter.2 hs

end Snapshot

namespace CommandParts

variable {l : Layout} {name : String} {steps : List Step} {tables : List String} {s : Shard}

theorem mem_shardsWithin_built : s ∈ (built name steps).shardsWithin tables ↔
    .shard s ∈ steps ∧ s.table ∈ tables := by
  rw [shardsWithin, List.mem_filter, mem_shards_built, List.contains_eq_mem, decide_eq_true_eq]

theorem shardsWithin_built_eq_nil : (built name steps).shardsWithin tables = [] ↔
    ∀ s, .shard s ∈ steps → s.table ∉ tables := by
  rw [List.eq_nil_iff_forall_not_mem]
  simp only [mem_shardsWithin_built, not_and]

theorem selects_within (hsome : ∃ s, .shard s ∈ steps ∧ s.table ∈ tables) :
    selects tables ((built name steps).shardsWithin tables) s = true ↔
      .shard s ∈ steps ∧ s.table ∈ tables := by
  obtain ⟨s', hs', htable'⟩ := hsome
  rw [selects_iff, mem_shardsWithin_built, shardsWithin_built_eq_nil]
  constructor
  · rintro ⟨-, hnone | hs⟩
    · exact absurd htable' (hnone s' hs')
    · exact hs
  · exact fun hs => ⟨hs.2, .inr hs⟩

theorem selects_without (hnone : ∀ s, .shard s ∈ steps → s.table ∉ tables) :
    selects tables ((built name steps).shardsWithin tables) s = true ↔ s.table ∈ tables := by
  rw [selects_iff, shardsWithin_built_eq_nil]
  exact and_iff_left (.inl hnone)

/-- Within tables of which it names a shard, a command that names shards selects exactly those that
it names there; so it does within its own tables, and loses none of them. Only within tables of
which it names no shard does it select everything. -/
theorem named_shards_narrow (l : Layout) (name : String) (tables : List String)
    (hnamed : ∃ s, .shard s ∈ steps) :
    ((∃ s, .shard s ∈ steps ∧ s.table ∈ tables) → ∀ server s,
      (Snapshot.capture l tables ((built name steps).command.shardsWithin tables)).Holds server s ↔
        s ∈ l.served server ∧ .shard s ∈ steps ∧ s.table ∈ tables) ∧
    ((∀ s, .shard s ∈ steps → s.table ∉ tables) → ∀ server s,
      (Snapshot.capture l tables ((built name steps).command.shardsWithin tables)).Holds server s ↔
        s ∈ l.served server ∧ s.table ∈ tables) ∧
    ∀ server s, ((built name steps).command.selection l).Holds server s ↔
      s ∈ l.served server ∧ .shard s ∈ steps := by
  refine ⟨fun hsome server s => ?_, fun hnone server s => ?_, fun server s => ?_⟩
  · exact Snapshot.holds_capture.trans (and_congr_right fun _ => selects_within hsome)
  · exact Snapshot.holds_capture.trans (and_congr_right fun _ => selects_without hnone)
  · have hown : ∀ s, .shard s ∈ steps → s.table ∈ (built name steps).tables := fun s hs =>
      mem_tables_built.2 (.inr ⟨s, hs, rfl⟩)
    obtain ⟨s', hs'⟩ := hnamed
    have hselects : selects (built name steps).tables
        ((built name steps).shardsWithin (built name steps).tables) s = true ↔ .shard s ∈ steps :=
      (selects_within ⟨s', hs', hown s' hs'⟩).trans (and_iff_left_of_imp (hown s))
    exact Snapshot.holds_capture.trans (and_congr_right fun _ => hselects)

/-- A server with shards of two tables. -/
def library : Layout :=
  .ofAssignments [(⟨"a:1"⟩, [⟨"books", "0"⟩, ⟨"books", "1"⟩, ⟨"authors", "0"⟩])]

/-- A shard of one of two tables is all that is left of them. -/
theorem library_narrowed :
    (∃ s, Step.shard s ∈ [.shard ⟨"books", "1"⟩, .shard ⟨"films", "0"⟩]) ∧
    (∃ s : Shard, Step.shard s ∈ [.shard ⟨"books", "1"⟩, .shard ⟨"films", "0"⟩] ∧
      s.table ∈ ["books", "authors"]) ∧
    (Snapshot.capture library ["books", "authors"]
      ((built "count" [.shard ⟨"books", "1"⟩, .shard ⟨"films", "0"⟩]).command.shardsWithin
        ["books", "authors"])).Holds ⟨"a:1"⟩ ⟨"books", "1"⟩ ∧
    ¬ (Snapshot.capture library ["books", "authors"]
      ((built "count" [.shard ⟨"books", "1"⟩, .shard ⟨"films", "0"⟩]).command.shardsWithin
        ["books", "authors"])).Holds ⟨"a:1"⟩ ⟨"authors", "0"⟩ := by
  have hnamed : ∃ s, Step.shard s ∈ [.shard ⟨"books", "1"⟩, .shard ⟨"films", "0"⟩] :=
    ⟨⟨"books", "1"⟩, List.mem_cons_self⟩
  have hwithin : ∃ s : Shard, Step.shard s ∈ [.shard ⟨"books", "1"⟩, .shard ⟨"films", "0"⟩] ∧
      s.table ∈ ["books", "authors"] := ⟨⟨"books", "1"⟩, List.mem_cons_self, List.mem_cons_self⟩
  have hexact := (named_shards_narrow library "count" ["books", "authors"] hnamed).1 hwithin ⟨"a:1"⟩
  refine ⟨hnamed, hwithin, (hexact _).2 ⟨?_, List.mem_cons_self, List.mem_cons_self⟩, fun h => ?_⟩
  · decide +kernel
  · simpa using ((hexact _).1 h).2.1

/-- Within a table of which a command names no shard, it selects a shard that it does not name. -/
theorem unnamed_shard_selected :
    Step.shard ⟨"authors", "0"⟩ ∉ [Step.shard ⟨"books", "0"⟩] ∧
    (Snapshot.capture (.ofAssignments [(⟨"a:1"⟩, [⟨"authors", "0"⟩])]) ["authors"]
      ((built "count" [.shard ⟨"books", "0"⟩]).command.shardsWithin ["authors"])).Holds
        ⟨"a:1"⟩ ⟨"authors", "0"⟩ := by
  refine ⟨by simp, [⟨"authors", "0"⟩], ?_, List.mem_cons_self⟩
  decide +kernel

end CommandParts

end ScatterSearch
