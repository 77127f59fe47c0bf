import ScatterSearch.Proofs.Merge.FirstEvent
import ScatterSearch.Proofs.Search.Parts

/-!
# What a search has merged

As long as a search goes on, the parts that it has merged are those of some shards of its table, and
its handles are for the others (`Search.Collects`). A look moves shards from the handles to what
is merged, those whose calls have ended, in the order of the handles; and a search that is exhausted
has merged the parts of all shards, in some order (`Search.Collects.exhausted`).
-/

namespace ScatterSearch

/-! ## Looks -/

namespace Merge

variable {α π : Type} {acc : Accumulator α π} {limits : MergeLimits} {query : String}
  {calls last now : Nat} {parts : List π} {cancelled : Option CancelReason}
  {ready : List (Except ClusterError π)}

theorem exists_going_of_take (parts more : List π) (last : Nat) :
    ∃ last', more.foldl (take acc now) (going acc limits query calls parts last) =
      going acc limits query calls (parts ++ more) last' := by
  induction more generalizing parts last with
  | nil => exact ⟨last, by rw [List.append_nil, List.foldl_nil]⟩
  | cons part more ih =>
    rw [List.foldl_cons, take_going, List.append_cons parts part more]
    exact ih (parts ++ [part]) now

theorem going_of_consume {m' : Merge α}
    (h : (going acc limits query calls parts last).consume acc now ready = .waiting m') :
    ∃ more last', ready = more.map .ok ∧
      m' = going acc limits query calls (parts ++ more) last' := by
  have hlook := consumed acc now (going acc limits query calls parts last) ready
  rw [h] at hlook
  cases hlook with
  | waiting more hpending htime =>
    obtain ⟨last', hgoing⟩ := exists_going_of_take parts more last
    exact ⟨more, last', rfl, hgoing⟩

/-- A merge that goes on after a look has merged all that was there. -/
theorem going_of_poll {m' : Merge α}
    (h : (going acc limits query calls parts last).poll acc now cancelled ready = .waiting m') :
    ∃ more last', ready = more.map .ok ∧
      m' = going acc limits query calls (parts ++ more) last' := by
  cases cancelled with
  | none => exact going_of_consume h
  | some reason =>
    simp only [poll] at h
    split at h <;> cases h

/-- A merge that ends well at a look has merged the first parts that were there. It has enough of
them and stops the calls that have not ended, or it has them all. -/
theorem ended_of_consume {o : MergeOutcome α}
    (h : (going acc limits query calls parts last).consume acc now ready = .ended (.ok o)) :
    ∃ more rest, ready = more.map .ok ++ rest ∧ o.aggregate = acc.fold (parts ++ more) ∧
      o.completed = (parts ++ more).length ∧
      (o.state = .earlyStop ∧ o.cancelled = calls - (parts ++ more).length - rest.length ∨
        o.state = .exhausted ∧ rest = [] ∧ calls ≤ (parts ++ more).length ∧ o.cancelled = 0) := by
  have hlook := consumed acc now (going acc limits query calls parts last) ready
  rw [h] at hlook
  cases hlook with
  | exhausted more hpending =>
    obtain ⟨last', hgoing⟩ := exists_going_of_take parts more last
    rw [hgoing] at hpending ⊢
    exact ⟨more, [], (List.append_nil _).symm, rfl, rfl,
      .inr ⟨rfl, rfl, Nat.sub_eq_zero_iff_le.1 hpending, rfl⟩⟩
  | enough more part rest henough =>
    obtain ⟨last', hgoing⟩ := exists_going_of_take parts (more ++ [part]) last
    rw [hgoing]
    refine ⟨more ++ [part], rest, ?_, rfl, rfl, .inl ⟨rfl, rfl⟩⟩
    rw [List.map_append, List.append_assoc]
    rfl

theorem ended_of_poll {o : MergeOutcome α} (hready : ready.length ≤ calls - parts.length)
    (h : (going acc limits query calls parts last).poll acc now cancelled ready = .ended (.ok o)) :
    ∃ more rest, ready = more.map .ok ++ rest ∧ o.aggregate = acc.fold (parts ++ more) ∧
      o.completed = (parts ++ more).length ∧
      (o.state = .earlyStop ∧ o.cancelled = calls - (parts ++ more).length - rest.length ∨
        o.state = .exhausted ∧ rest = [] ∧ calls ≤ (parts ++ more).length ∧ o.cancelled = 0) := by
  cases cancelled with
  | none => exact ended_of_consume h
  | some reason =>
    -- only a merge without calls survives that its query is cancelled
    simp only [poll] at h
    split at h
    · rename_i hpending
      have hnone : ready = [] := List.length_eq_zero_iff.1 (Nat.le_zero.1 (hpending ▸ hready))
      subst hnone
      have hlook : (going acc limits query calls parts last).consume acc now [] =
          .ended (.ok o) := by
        rw [consume, if_pos hpending]
        exact h
      exact ended_of_consume hlook
    · cases h

/-- A merge that is exhausted after a look has merged all that was there, and nothing is missing. -/
theorem exhausted_of_poll {o : MergeOutcome α} (hready : ready.length ≤ calls - parts.length)
    (h : (going acc limits query calls parts last).poll acc now cancelled ready = .ended (.ok o))
    (hstate : o.state = .exhausted) :
    ∃ more, ready = more.map .ok ∧ calls ≤ (parts ++ more).length ∧
      o.aggregate = acc.fold (parts ++ more) := by
  obtain ⟨more, rest, hmore, haggregate, -, ⟨hearly, -⟩ | ⟨-, hrest, hcalls, -⟩⟩ :=
    ended_of_poll hready h
  · cases hearly.symm.trans hstate
  · rw [hrest, List.append_nil] at hmore
    exact ⟨more, hmore, hcalls, haggregate⟩

end Merge

/-! ## Handles -/

/-- The handles whose calls have ended bring the parts of their shards; the others are left. -/
theorem exists_shards_of_ready {x : Executor} {part : Shard → ShardHits} {more : List ShardHits}
    {handles : List CallHandle}
    (hparts : ∀ h ∈ handles, ∃ shard, h.target = .shard shard ∧
      ∀ p, x.outcome? Wire.decode h = some (.ok p) → p = part shard)
    (hready : handles.filterMap (x.outcome? Wire.decode) = more.map .ok) :
    ∃ shards : List Shard, more = shards.map part ∧
      (shards.map Target.shard ++
          (handles.filter fun h => !x.isFinished h).map CallHandle.target).Perm
        (handles.map CallHandle.target) := by
  induction handles generalizing more with
  | nil => exact ⟨[], List.map_eq_nil_iff.1 hready.symm, .refl _⟩
  | cons h handles ih =>
    have hrest := fun h' hh' => hparts h' (List.mem_cons_of_mem _ hh')
    obtain ⟨shard, htarget, hpart⟩ := hparts h List.mem_cons_self
    have hfinished := isSome_outcome? x h
    cases houtcome : x.outcome? (Wire.decode : Decoder ShardHits) h with
    | none =>
      -- the call goes on, and the handle is kept
      rw [houtcome] at hfinished
      rw [List.filterMap_cons_none houtcome] at hready
      obtain ⟨shards, rfl, hperm⟩ := ih hrest hready
      refine ⟨shards, rfl, ?_⟩
      rw [List.filter_cons_of_pos (by simp [← hfinished]), List.map_cons, List.map_cons]
      exact List.perm_middle.trans (hperm.cons _)
    | some outcome =>
      -- the call has ended, with the part of its shard
      rw [houtcome] at hfinished
      rw [List.filterMap_cons_some houtcome] at hready
      obtain ⟨p, more, rfl, rfl, hmore⟩ := List.map_eq_cons_iff.1 hready.symm
      obtain ⟨shards, rfl, hperm⟩ := ih hrest hmore.symm
      refine ⟨shard :: shards, ?_, ?_⟩
      · rw [List.map_cons, hpart p houtcome]
      · rw [List.filter_cons_of_neg (by simp [← hfinished]), List.map_cons, List.map_cons,
          List.cons_append, htarget]
        exact hperm.cons _

/-! ## Searches -/

/-- What a search asks, and of which nodes. -/
structure Inquiry where
  layout : Layout
  table : String
  arguments : Json
  args : SearchArguments
  route : Server → Route
  /-- the place of the node that has a shard -/
  node : Shard → Nat
  nodes : Nat → Standard
  /-- how many calls there were before those of the search -/
  first : Nat

namespace Inquiry

/-- The shards of the table. -/
def shards (q : Inquiry) : List Shard := q.layout.tableShards q.table

/-- The part of a shard. -/
def part (q : Inquiry) (shard : Shard) : ShardHits :=
  (q.nodes (q.node shard)).index.search shard q.args.text q.args.limit

/-- The nodes can answer: each shard of the table is on one node of the cluster, the one for which
every server of the layout stands that serves the shard. -/
structure Valid (q : Inquiry) : Prop where
  decodes : (Wire.decode : Decoder SearchArguments).run q.arguments = .ok q.args
  served : ∀ shard ∈ q.shards, ∀ server ∈ q.layout.servers, shard ∈ q.layout.served server →
    ∃ latency, q.route server = .host (q.node shard) latency
  searches : ∀ place, (q.nodes place).Searches

end Inquiry

namespace Search

/-- A search that goes on: some parts are merged, and its handles are for the others. -/
structure Collects (q : Inquiry) (o : Outbound) (s : Search) (m : Merge SearchResults) : Prop where
  valid : q.Valid
  limit_eq : s.limit = q.args.limit.toNat
  isFor : ∀ h ∈ s.handles, ∃ shard, h.IsFor q.layout q.arguments q.first o shard
  merged : ∃ (limits : MergeLimits) (query : String) (merged : List Shard) (last : Nat),
    m = .going .search limits query q.shards.length (merged.map q.part) last ∧
      (merged.map Target.shard ++ s.handles.map CallHandle.target).Perm (q.shards.map .shard)

/-- A search in which nothing is missing: as long as it goes on it has a handle for each part that
is not merged, and once it is exhausted it has merged the parts of all shards. -/
structure Sound (q : Inquiry) (o : Outbound) (s : Search) : Prop where
  merging : ∀ m, s.stage = .merging m → s.Collects q o m
  ended : ∀ r, s.stage = .ended (.ok r) → r.state = .exhausted →
    q.Valid ∧ s.limit = q.args.limit.toNat ∧
      ∃ (order : List Shard) (outcome : MergeOutcome SearchResults), order.Perm q.shards ∧
        outcome.aggregate = Accumulator.search.fold (order.map q.part) ∧
        r = s.response outcome

variable {q : Inquiry} {o o' : Outbound} {x : Executor} {s : Search} {m m' : Merge SearchResults}
  {now : Nat} {cancelled : Option CancelReason}

theorem Collects.mono (h : s.Collects q o m) (horders : o.orders <+: o'.orders) :
    s.Collects q o' m where
  valid := h.valid
  limit_eq := h.limit_eq
  isFor := by
    intro handle hhandle
    obtain ⟨shard, hfor⟩ := h.isFor handle hhandle
    exact ⟨shard, hfor.mono horders⟩
  merged := h.merged

theorem Sound.mono (h : s.Sound q o) (horders : o.orders <+: o'.orders) : s.Sound q o' :=
  ⟨fun m hm => (h.merging m hm).mono horders, h.ended⟩

/-- A search that does not go on, and is not exhausted. -/
theorem sound_of_stage (hmerging : ∀ m, s.stage ≠ .merging m)
    (hended : ∀ r, s.stage ≠ .ended (.ok r)) : s.Sound q o :=
  ⟨fun m hm => absurd hm (hmerging m), fun r hr => absurd hr (hended r)⟩

/-- The handles bring the parts of shards of the table. -/
theorem Collects.parts (h : s.Collects q x.outbound m) (hf : x.outbound.Faithful q.nodes q.first)
    (hroute : x.outbound.network.route = q.route) :
    ∀ handle ∈ s.handles, ∃ shard, handle.target = .shard shard ∧
      ∀ p, x.outcome? Wire.decode handle = some (.ok p) → p = q.part shard := by
  intro handle hhandle
  obtain ⟨shard, hfor⟩ := h.isFor handle hhandle
  obtain ⟨-, -, merged, -, -, hperm⟩ := h.merged
  have hmem : Target.shard shard ∈ q.shards.map .shard := by
    refine hperm.subset (List.mem_append_right _ ?_)
    rw [← hfor.target]
    exact List.mem_map_of_mem hhandle
  obtain ⟨shard', hshard, heq⟩ := List.mem_map.1 hmem
  obtain rfl := Target.shard.inj heq
  refine ⟨shard', hfor.target, fun p hp => ?_⟩
  refine hfor.outcome_eq hf h.valid.decodes (fun server hserver hserved => ?_)
    (h.valid.searches _) hp
  rw [hroute]
  exact h.valid.served shard' hshard server hserver hserved

/-- A search that goes on after a look. -/
theorem Collects.waiting (h : s.Collects q x.outbound m)
    (hf : x.outbound.Faithful q.nodes q.first) (hroute : x.outbound.network.route = q.route)
    (hpoll : m.poll .search now cancelled (s.handles.filterMap (x.outcome? Wire.decode)) =
      .waiting m') :
    Collects q x.outbound { s with
      handles := s.handles.filter fun handle => !x.isFinished handle
      stage := .merging m' } m' where
  valid := h.valid
  limit_eq := h.limit_eq
  isFor := fun handle hhandle => h.isFor handle (List.mem_filter.1 hhandle).1
  merged := by
    obtain ⟨limits, query, merged, last, rfl, hperm⟩ := h.merged
    obtain ⟨more, last', hready, rfl⟩ := Merge.going_of_poll hpoll
    obtain ⟨shards, rfl, hsplit⟩ := exists_shards_of_ready (h.parts hf hroute) hready
    refine ⟨limits, query, merged ++ shards, last', by rw [List.map_append], ?_⟩
    rw [List.map_append, List.append_assoc]
    exact (hsplit.append_left _).trans hperm

/-- A search that is exhausted after a look has merged the parts of all shards. -/
theorem Collects.exhausted (h : s.Collects q x.outbound m)
    (hf : x.outbound.Faithful q.nodes q.first) (hroute : x.outbound.network.route = q.route)
    {outcome : MergeOutcome SearchResults}
    (hpoll : m.poll .search now cancelled (s.handles.filterMap (x.outcome? Wire.decode)) =
      .ended (.ok outcome)) (hstate : outcome.state = .exhausted) :
    ∃ order : List Shard, order.Perm q.shards ∧
      outcome.aggregate = Accumulator.search.fold (order.map q.part) := by
  obtain ⟨limits, query, merged, last, rfl, hperm⟩ := h.merged
  have hlength := hperm.length_eq
  simp only [List.length_append, List.length_map] at hlength
  have hready : (s.handles.filterMap (x.outcome? (Wire.decode : Decoder ShardHits))).length ≤
      q.shards.length - (merged.map q.part).length := by
    have hle := List.length_filterMap_le (x.outcome? (Wire.decode : Decoder ShardHits)) s.handles
    rw [List.length_map]
    omega
  obtain ⟨more, hmore, hcalls, haggregate⟩ := Merge.exhausted_of_poll hready hpoll hstate
  obtain ⟨shards, rfl, hsplit⟩ := exists_shards_of_ready (h.parts hf hroute) hmore
  have hall := (hsplit.append_left (merged.map .shard)).trans hperm
  rw [← List.append_assoc, ← List.map_append] at hall
  -- no handle is left
  have hrest : ((s.handles.filter fun handle => !x.isFinished handle).map (·.target)) = [] := by
    have hlength := hall.length_eq
    simp only [List.length_append, List.length_map] at hlength hcalls
    refine List.length_eq_zero_iff.1 ?_
    rw [List.length_map]
    omega
  rw [hrest, List.append_nil] at hall
  refine ⟨merged ++ shards, (List.map_perm_map_iff fun _ _ => Target.shard.inj).1 hall, ?_⟩
  rw [haggregate, List.map_append]

end Search

end ScatterSearch
