import ScatterSearch.Cluster.Layout
import ScatterSearch.Proofs.Assoc
import ScatterSearch.Proofs.Lists

/-!
# What layouts hold

A layout has one entry for each server, with each of its shards once (`Layout.Valid`): whatever is
assigned or removed, it stays so. Nothing keeps two servers from serving the same shard; where none
do, the layout is `Layout.Disjoint`.

A snapshot of a layout has the servers that serve a selected shard, each with exactly its selected
shards (`Snapshot.mem_capture`).
-/

namespace ScatterSearch

namespace Layout

/-- A layout with one entry for each server, and no shard twice in one. -/
structure Valid (l : Layout) : Prop where
  servers : l.servers.Nodup
  served : ∀ server, (l.served server).Nodup

/-- No shard is on two servers. -/
def Disjoint (l : Layout) : Prop :=
  ∀ (a b : Server) (s : Shard), s ∈ l.served a → s ∈ l.served b → a = b

variable {l : Layout} {server : Server} {s : Shard}

theorem valid_empty : empty.Valid := ⟨List.nodup_nil, fun _ => List.nodup_nil⟩

theorem Valid.assign (h : l.Valid) (server : Server) (shards : List Shard) :
    (l.assign server shards).Valid where
  servers := Assoc.nodup_keys_put h.servers
  served := by
    intro server'
    rw [Layout.served, Layout.assign, Assoc.get?_put]
    split
    · exact Lists.nodup_eraseDups shards
    · exact h.served server'

theorem Valid.remove (h : l.Valid) (server : Server) : (l.remove server).Valid where
  servers := by
    have hsublist : ((l.assignments.erase server).map (·.1)).Sublist l.servers :=
      List.Sublist.map _ List.filter_sublist
    exact hsublist.nodup h.servers
  served := by
    intro server'
    rw [Layout.served, Layout.remove, Assoc.get?_erase]
    split
    · exact List.nodup_nil
    · exact h.served server'

theorem valid_ofAssignments (entries : List (Server × List Shard)) :
    (ofAssignments entries).Valid := by
  have hfold : ∀ (entries : List (Server × List Shard)) (l : Layout), l.Valid →
      (entries.foldl (fun l entry => l.assign entry.1 entry.2) l).Valid := by
    intro entries
    induction entries with
    | nil => exact fun _ h => h
    | cons entry entries ih => exact fun l h => ih _ (h.assign entry.1 entry.2)
  exact hfold entries empty valid_empty

/-- Only servers of the layout serve shards. -/
theorem mem_servers (hs : s ∈ l.served server) : server ∈ l.servers := by
  rw [served] at hs
  cases hget : l.assignments.get? server with
  | none =>
    rw [hget] at hs
    cases hs
  | some shards => exact Assoc.mem_keys.2 ⟨shards, hget⟩

theorem mem_tables {table : String} :
    table ∈ l.tables ↔ ∃ server s, s ∈ l.served server ∧ s.table = table := by
  rw [tables, List.mem_eraseDups, List.mem_flatMap]
  constructor
  · rintro ⟨server, -, htable⟩
    obtain ⟨s, hs, rfl⟩ := List.mem_map.1 htable
    exact ⟨server, s, hs, rfl⟩
  · rintro ⟨server, s, hs, rfl⟩
    exact ⟨server, mem_servers hs, List.mem_map_of_mem hs⟩

/-- It is enough to look at the servers of the layout. -/
theorem disjoint_of_servers
    (h : ∀ a ∈ l.servers, ∀ b ∈ l.servers, ∀ s ∈ l.served a, s ∈ l.served b → a = b) :
    l.Disjoint := fun a b s ha hb => h a (mem_servers ha) b (mem_servers hb) s ha hb

/-- Where no shard is on two servers, all servers together have each shard once. -/
theorem nodup_shards (hvalid : l.Valid) (hdisjoint : l.Disjoint) :
    (l.servers.flatMap l.served).Nodup := by
  refine List.nodup_flatMap.2 ⟨fun server _ => hvalid.served server, ?_⟩
  refine hvalid.servers.imp fun {a b} hne => ?_
  intro s ha hb
  exact hne (hdisjoint a b s ha hb)

end Layout

variable {l : Layout} {tables : List String} {shards : List Shard}

/-- What is selected lies in one of the tables. -/
theorem selects_iff {s : Shard} :
    selects tables shards s = true ↔ s.table ∈ tables ∧ (shards = [] ∨ s ∈ shards) := by
  simp [selects]

namespace Snapshot

/-- Without tables nothing is selected, so that this case needs no mention. -/
theorem capture_eq : (capture l tables shards).assignments =
    (l.servers.filter fun server => l.isValidServer server tables shards).map fun server =>
      (server, (l.served server).filter (selects tables shards)) := by
  rw [capture]
  split
  · rename_i hnone
    have hinvalid : ∀ server ∈ l.servers, ¬ l.isValidServer server tables shards = true := by
      intro server _ hvalid
      obtain ⟨s, -, hs⟩ := List.any_eq_true.1 hvalid
      rw [selects_iff, List.isEmpty_iff.1 hnone] at hs
      cases hs.1
    rw [List.filter_eq_nil_iff.2 hinvalid]
    rfl
  · rfl

/-- A snapshot has the servers that serve something selected, with all of it. -/
theorem mem_capture {server : Server} {selected : List Shard} :
    (server, selected) ∈ (capture l tables shards).assignments ↔
      (∃ s ∈ l.served server, selects tables shards s = true) ∧
        selected = (l.served server).filter (selects tables shards) := by
  rw [capture_eq, List.mem_map]
  simp only [List.mem_filter, Layout.isValidServer, List.any_eq_true, Prod.mk.injEq]
  constructor
  · rintro ⟨server', ⟨-, hvalid⟩, rfl, rfl⟩
    exact ⟨hvalid, rfl⟩
  · rintro ⟨⟨s, hs, hselects⟩, rfl⟩
    exact ⟨server, ⟨Layout.mem_servers hs, s, hs, hselects⟩, rfl, rfl⟩

theorem servers_capture : (capture l tables shards).servers =
    l.servers.filter fun server => l.isValidServer server tables shards := by
  rw [servers, Assoc.keys, capture_eq, List.map_map]
  exact List.map_id _

end Snapshot

end ScatterSearch
