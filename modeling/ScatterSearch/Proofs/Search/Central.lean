import Mathlib
import ScatterSearch.Proofs.Search.Cluster
import ScatterSearch.Proofs.Search.Ranking

/-!
# Distributed ranking is central ranking

A search of a table sends every shard's best hits only, and merges them as they come. What it finds
when it is exhausted is nevertheless what one list of all documents would give
(`Coordinator.search_ranks_centrally`).

`Coordinator.Pursues` is what a coordinator keeps while a search goes on: the search is sound, and
the calls are faithful to the nodes.

The example at the end evaluates a whole search with all its texts; the equations for texts come
with the whole library only.
-/

namespace ScatterSearch

/-- A response that says what one list of ranks says: how many they are, and which are the best. -/
structure SearchResponse.Central (shards : List Shard) (ranks : List Rank) (limit : Nat)
    (r : SearchResponse) : Prop where
  totalResults : r.totalResults = UInt64.ofNat ranks.length
  shardsAnswered : r.shardsAnswered = UInt64.ofNat shards.length
  hits : r.hits.map SearchHit.rank = (Rank.sort ranks).take limit

/-- A network has the routes that a search counts on, and the nodes may have any layouts. -/
structure Inquiry.Fits (q : Inquiry) (n : Network) : Prop where
  route_eq : n.route = q.route
  tolerant : ∀ place, (q.nodes place).Tolerant

namespace Coordinator

/-- The nodes serve a table: each of its shards is on one node, for which every server of the
coordinator's layout stands that serves the shard. -/
def ServedBy (c : Coordinator) (table : String) (node : Shard → Nat) : Prop :=
  ∀ shard ∈ c.executor.layout.tableShards table, ∀ server ∈ c.executor.layout.servers,
    shard ∈ c.executor.layout.served server →
      ∃ latency, c.network.route server = .host (node shard) latency

/-- The documents of some shards that share terms with a query, by the documents that the nodes were
given. -/
def ranks (trace : List (Nat × Deed)) (node : Shard → Nat) (shards : List Shard) (text : String) :
    List Rank :=
  shards.flatMap fun shard => Filing.ranks (filings trace (node shard)) shard text

/-- What a node sends for a shard. -/
def partOf (trace : List (Nat × Deed)) (node : Shard → Nat) (args : SearchArguments)
    (shard : Shard) : ShardHits :=
  (ShardIndex.ofFilings (filings trace (node shard))).search shard args.text args.limit

/-- In whatever order the parts of the shards come, the response is the one of a single list. -/
theorem central_of_order {trace : List (Nat × Deed)} {node : Shard → Nat} {args : SearchArguments}
    {shards order : List Shard} (horder : order.Perm shards) {s : Search}
    (hlimit : s.limit = args.limit.toNat) {outcome : MergeOutcome SearchResults}
    (haggregate : outcome.aggregate =
      Accumulator.search.fold (order.map (partOf trace node args))) :
    (s.response outcome).Central shards (ranks trace node shards args.text) args.limit.toNat := by
  obtain ⟨htotal, hanswered, hhits⟩ := Accumulator.search_of_parts horder
    (fun shard _ => (ShardIndex.search_ofFilings (filings trace (node shard)) shard args.text
      args.limit).1)
    (fun shard _ => (ShardIndex.search_ofFilings (filings trace (node shard)) shard args.text
      args.limit).2)
  refine ⟨?_, ?_, ?_⟩
  · rw [Search.response, haggregate]
    exact htotal
  · rw [Search.response, haggregate]
    exact hanswered
  · rw [Search.response, haggregate, hlimit]
    exact hhits

/-! ## While a search goes on -/

/-- The search at a place is sound, and so are the calls. -/
structure Pursues (q : Inquiry) (place : Nat) (c : Coordinator) : Prop where
  faithful : c.executor.outbound.Faithful q.nodes q.first
  fits : q.Fits c.network
  search : ∃ s, c.searches[place]? = some s ∧ s.Sound q c.executor.outbound

variable {q : Inquiry} {c c' : Coordinator} {now place : Nat} {s : Search}
  {m m' : Merge SearchResults}

/-- The calls go on, and so may the search. -/
theorem Pursues.later (h : c.Pursues q place)
    (hlater : Outbound.Later q.nodes q.first c.executor.outbound c'.executor.outbound)
    (hsearch : ∀ s, c.searches[place]? = some s → s.Sound q c'.executor.outbound →
      ∃ s', c'.searches[place]? = some s' ∧ s'.Sound q c'.executor.outbound) :
    c'.Pursues q place := by
  obtain ⟨s, hs, hsound⟩ := h.search
  exact ⟨hlater.faithful, ⟨hlater.route_eq.trans h.fits.route_eq, h.fits.tolerant⟩,
    hsearch s hs (hsound.mono hlater.orders)⟩

theorem Pursues.of_searches_eq (h : c.Pursues q place)
    (hlater : Outbound.Later q.nodes q.first c.executor.outbound c'.executor.outbound)
    (hsearches : c'.searches[place]? = c.searches[place]?) : c'.Pursues q place :=
  h.later hlater fun s hs hsound => ⟨s, hsearches.trans hs, hsound⟩

/-- A search looks at its own values only. -/
theorem searches_pollSearch {p : Nat} (hp : p ≠ place) :
    (pollSearch now c p).searches[place]? = c.searches[place]? := by
  rcases pollSearch_cases now c p with
    hover | hgone | ⟨s, m, m', -, -, -, hwaiting⟩ | ⟨s, m, result, -, -, -, hended⟩
  · rw [hover]
  · rw [hgone, getElem?_drop_of_ne hp]
  · rw [hwaiting]
    exact List.getElem?_set_ne hp
  · rw [hended]
    exact getElem?_setStage_of_ne hp _

/-- A search that is gone misses nothing. -/
theorem Pursues.dropped (h : c.Pursues q place) (now p : Nat) : (c.drop now p).Pursues q place := by
  have hlater : Outbound.Later q.nodes q.first c.executor.outbound
      (c.drop now p).executor.outbound := by
    rw [executor_drop]
    exact .refl h.faithful
  by_cases hp : p = place
  · subst hp
    rcases searches_drop c now p with hsame | hdropped
    · exact h.of_searches_eq hlater (by rw [hsame])
    · refine h.later hlater fun s hs _ => ⟨{ s with stage := .dropped }, ?_, ?_⟩
      · rw [hdropped]
        exact getElem?_setStage hs _
      · exact Search.sound_of_stage (fun _ hm => nomatch hm) fun _ hr => nomatch hr
  · exact h.of_searches_eq hlater (getElem?_drop_of_ne hp now)

theorem Pursues.look (h : c.Pursues q place) : (pollSearch now c place).Pursues q place := by
  have hlater := later_pollSearch h.faithful now place
  obtain ⟨s, hs, hsound⟩ := h.search
  have hlt := (List.getElem?_eq_some_iff.1 hs).1
  rcases pollSearch_cases now c place with
    hover | hgone | ⟨s', m, m', hs', hstage, hlook, hwaiting⟩ |
    ⟨s', m, result, hs', hstage, hlook, hended⟩
  · rw [hover]
    exact h
  · rw [hgone]
    exact h.dropped now place
  · obtain rfl := Option.some.inj (hs.symm.trans hs')
    -- what the search has before it looks, with the calls as they are then
    have hcollects := hsound.merging m hstage
    refine h.later hlater fun _ _ _ => ?_
    rw [hwaiting]
    refine ⟨_, List.getElem?_set_self hlt, fun m'' hm => ?_, fun _ hr => nomatch hr⟩
    obtain rfl := SearchStage.merging.inj hm
    exact hcollects.waiting h.faithful h.fits.route_eq hlook
  · obtain rfl := Option.some.inj (hs.symm.trans hs')
    have hcollects := hsound.merging m hstage
    refine h.later hlater fun _ _ _ => ?_
    rw [hended]
    refine ⟨_, getElem?_setStage hs _, (fun _ hm => nomatch hm), fun r hr hstate => ?_⟩
    cases result with
    | error e => cases hr
    | ok outcome =>
      obtain rfl := Except.ok.inj (SearchStage.ended.inj hr)
      obtain ⟨order, horder, haggregate⟩ :=
        hcollects.exhausted h.faithful h.fits.route_eq hlook hstate
      exact ⟨hcollects.valid, hcollects.limit_eq, order, outcome, horder, haggregate, rfl⟩

theorem Pursues.pollSearch (h : c.Pursues q place) (p : Nat) :
    (pollSearch now c p).Pursues q place := by
  by_cases hp : p = place
  · subst hp
    exact h.look
  · exact h.of_searches_eq (later_pollSearch h.faithful now p) (searches_pollSearch hp)

theorem Pursues.fire (h : c.Pursues q place) : (c.fire now).Pursues q place := by
  have hsettle : (c.settle now).Pursues q place := by
    refine h.of_searches_eq (later_settle h.faithful now) ?_
    rw [settle]
    split <;> rfl
  rw [fire_eq_settle]
  exact keeps_pollAll (fun _ p h => h.pollSearch p) hsettle

/-- Whatever others do, except that they give documents to nodes, the search goes on. -/
theorem Pursues.perform (h : c.Pursues q place) {d : Deed} (hd : ∀ place, d.filing? place = none) :
    (d.perform now c).Pursues q place := by
  have hlater := later_perform h.faithful now (respects_of_tolerant h.fits.tolerant hd)
  obtain ⟨s, hs, -⟩ := h.search
  have hlt := (List.getElem?_eq_some_iff.1 hs).1
  cases d with
  | search table query =>
    refine h.of_searches_eq hlater ?_
    rw [Deed.perform]
    -- another search gets another place
    rcases search_cases c now table query with
      ⟨s', e, hsearches, -⟩ | ⟨args, handles, -, -, hlaunched⟩
    · rw [hsearches, List.getElem?_append_left hlt]
    · rw [hlaunched, searches_pollSearch (Nat.ne_of_gt hlt)]
      exact List.getElem?_append_left hlt
  | drop p => exact h.dropped now p
  | _ => exact h.of_searches_eq hlater rfl

/-! ## From start to end -/

variable {S : Nat → Standard} {first start : Nat} {node : Shard → Nat}
  {trace before after : List (Nat × Deed)} {table : String} {query : QueryDescriptor}
  {response : SearchResponse}

/-- What a search asks of the nodes of a cluster. -/
def inquiry (S : Nat → Standard) (first : Nat) (node : Shard → Nat) (c : Coordinator)
    (table : String) (query : QueryDescriptor) (args : SearchArguments) : Inquiry :=
  ⟨c.executor.layout, table, query.query, args, c.network.route, node, S, first⟩

/-- A search that is launched has a handle for each shard, and nothing is merged. -/
theorem pursues_launched (h : Prepared S first trace c) (hserved : c.ServedBy table node)
    {args : SearchArguments}
    (hargs : (Wire.decode : Decoder SearchArguments).run query.query = .ok args)
    {handles : List CallHandle} (hhandles : (c.scattered table query).1 = .ok handles) :
    (c.launched now table query args handles).Pursues (inquiry S first node c table query args)
      c.searches.length := by
  have hlater := later_scattered h.faithful table query
  obtain ⟨hfor, hperm⟩ := handles_search h.faithful hhandles
  have hlength := hperm.length_eq
  rw [List.length_map, List.length_map] at hlength
  refine ⟨hlater.faithful, ⟨hlater.route_eq, h.tolerant⟩, _, List.getElem?_concat_length, ?_, ?_⟩
  · intro m hm
    obtain rfl := SearchStage.merging.inj hm
    refine ⟨⟨hargs, hserved, h.searches⟩, rfl, hfor,
      ⟨query.minimumResults, query.maxQueryTime.toNat⟩, query.query.render, [], now, ?_, hperm⟩
    rw [Merge.start_eq_going, hlength]
    rfl
  · intro r hr
    cases hr

theorem pursues_search (h : Prepared S first trace c) (hserved : c.ServedBy table node) (now : Nat)
    (query : QueryDescriptor) :
    ∃ args, (c.search now table query).2.Pursues (inquiry S first node c table query args)
      c.searches.length := by
  have hlater := later_search h.faithful now table query
  rcases search_cases c now table query with
    ⟨s, e, hsearches, -⟩ | ⟨args, handles, hargs, hhandles, hlaunched⟩
  · -- such a search asks for nothing
    refine ⟨⟨"", 0⟩, hlater.faithful, ⟨hlater.route_eq, h.tolerant⟩,
      { s with stage := .ended (.error e) }, ?_, ?_⟩
    · rw [hsearches]
      exact List.getElem?_concat_length
    · exact Search.sound_of_stage (fun _ hm => nomatch hm) fun _ hr => nomatch hr
  · refine ⟨args, ?_⟩
    rw [hlaunched]
    exact (pursues_launched h hserved hargs hhandles).look

theorem Pursues.of_run {t u : Timed Coordinator} (h : t.state.Pursues q place)
    (hrun : Run machine Deed.perform t trace u)
    (hquiet : ∀ a ∈ trace, ∀ place, a.2.filing? place = none) : u.state.Pursues q place := by
  induction hrun with
  | start => exact h
  | fire _ _ _ ih => exact (ih hquiet).fire
  | pass _ _ _ ih => exact ih hquiet
  | act e _ ih =>
    refine (ih fun a ha => hquiet a (List.mem_append_left _ ha)).perform ?_
    exact hquiet _ (List.mem_append_right _ (List.mem_singleton.2 rfl))

/-- A search that ends exhausted finds what one list of all documents would give, if each shard is
on one node: whatever documents were indexed before, whatever else was done, and whatever is done
meanwhile, except that more documents are indexed. And so it would be if the parts of the shards had
come in another order. -/
theorem search_ranks_centrally {cluster : Cluster} {s u : Timed Coordinator}
    (hbefore : Run machine Deed.perform ⟨start, cluster.start⟩ before s)
    (hserved : s.state.ServedBy table node)
    (hafter : Run machine Deed.perform ⟨s.now, (s.state.search s.now table query).2⟩ after u)
    (hquiet : ∀ a ∈ after, ∀ place, a.2.filing? place = none)
    (hresult : u.state.result? (s.state.search s.now table query).1 = some (.ok response))
    (hstate : response.state = .exhausted) :
    ∃ args, (Wire.decode : Decoder SearchArguments).run query.query = .ok args ∧
      let shards := s.state.executor.layout.tableShards table
      response.Central shards (ranks before node shards args.text) args.limit.toNat ∧
      ∀ order : List Shard, order.Perm shards → ∀ outcome : MergeOutcome SearchResults,
        outcome.aggregate = Accumulator.search.fold (order.map (partOf before node args)) →
        ∀ search : Search, search.limit = args.limit.toNat →
          (search.response outcome).Central shards (ranks before node shards args.text)
            args.limit.toNat := by
  obtain ⟨S, first, hprepared⟩ := prepared_of_run hbefore
  obtain ⟨args, hpursues⟩ := pursues_search hprepared hserved s.now query
  obtain ⟨-, -, search, hsearch, hsound⟩ := hpursues.of_run hafter hquiet
  rw [search_fst, result?, hsearch, Option.bind_some] at hresult
  have hended : search.stage = .ended (.ok response) := by
    rw [Search.result?] at hresult
    split at hresult
    · rename_i result hstage
      rw [hstage, Option.some.inj hresult]
    · cases hresult
  obtain ⟨hvalid, hlimit, order, outcome, horder, haggregate, rfl⟩ := hsound.ended _ hended hstate
  -- the indexes that the calls are answered with are those of the documents given before
  have hpart : (inquiry S first node s.state table query args).part = partOf before node args := by
    funext shard
    rw [Inquiry.part, partOf]
    exact congrArg (fun index => ShardIndex.search index shard args.text args.limit)
      (hprepared.index_eq (node shard))
  rw [hpart] at haggregate
  exact ⟨args, hvalid.decodes, central_of_order horder hlimit haggregate,
    fun order horder outcome haggregate search hlimit => central_of_order horder hlimit haggregate⟩

/-- Two nodes with a shard of the table "t" each. The second one is 7 ms away. -/
def pair : Cluster where
  members := [⟨⟨"a"⟩, ⟨10, 100⟩, [], .empty, .new 0⟩, ⟨⟨"b"⟩, ⟨10, 100⟩, [], .empty, .new 1⟩]
  routes := [(⟨"a"⟩, .host 0 0), (⟨"b"⟩, .host 1 7)]
  elsewhere := fun _ => .unreachable 0 (.internal "no such server")
  layout := .ofAssignments [(⟨"a"⟩, [⟨"t", "0"⟩]), (⟨"b"⟩, [⟨"t", "1"⟩])]
  config := ⟨2, none, 1000⟩
  statuses := .new 0 0

/-- Which of the two has a shard. -/
def pairNode (shard : Shard) : Nat := if shard.shard = "0" then 0 else 1

/-- Their documents; one is given twice. -/
def pairTrace : List (Nat × Deed) :=
  [(0, .index 0 ⟨⟨"t", "0"⟩, "1", "red"⟩), (0, .index 1 ⟨⟨"t", "1"⟩, "3", "green"⟩),
    (0, .index 0 ⟨⟨"t", "0"⟩, "2", "blue"⟩), (0, .index 1 ⟨⟨"t", "1"⟩, "3", "Blue, red, blue"⟩)]

/-- The two nodes with their documents. -/
def pairFiled : Coordinator := pairTrace.foldl (fun c a => a.2.perform a.1 c) pair.start

/-- A search for the best two documents. -/
def redOrBlue : QueryDescriptor :=
  { QueryDescriptor.named "q" with
    query := .obj [("text", .str "red blue"), ("limit", .nat 2)] }

/-- What comes of the search once it has ended. -/
def pairSearched : Nat × Coordinator :=
  Clock.await machine (fun c => (c.result? 0).isSome) 30 0 (pairFiled.search 0 "t" redOrBlue).2

/-- What is found. -/
def pairResponse : SearchResponse :=
  ⟨"q", "t", 3, [⟨"3", 2, ⟨"t", "1"⟩⟩, ⟨"1", 1, ⟨"t", "0"⟩⟩], 2, .exhausted⟩

theorem pair_servedBy : pairFiled.ServedBy "t" pairNode := by
  have hshards : pairFiled.executor.layout.tableShards "t" = [⟨"t", "0"⟩, ⟨"t", "1"⟩] := by
    decide +kernel
  have hservers : pairFiled.executor.layout.servers = [⟨"a"⟩, ⟨"b"⟩] := by decide +kernel
  have hserved : pairFiled.executor.layout.served ⟨"a"⟩ = [⟨"t", "0"⟩] ∧
      pairFiled.executor.layout.served ⟨"b"⟩ = [⟨"t", "1"⟩] := by decide +kernel
  intro shard _ server hserver hshard
  rw [hservers] at hserver
  rcases List.mem_pair.1 hserver with rfl | rfl
  · rw [hserved.1, List.mem_singleton] at hshard
    subst hshard
    exact ⟨0, rfl⟩
  · rw [hserved.2, List.mem_singleton] at hshard
    subst hshard
    exact ⟨7, rfl⟩

/-- The two nodes send one document and two, and what comes of it is what one list of three
gives. -/
theorem pair_ranks_centrally : pairSearched.2.result? 0 = some (.ok pairResponse) ∧
    ∃ args, (Wire.decode : Decoder SearchArguments).run redOrBlue.query = .ok args ∧
      pairResponse.Central (pair.layout.tableShards "t")
        (ranks pairTrace pairNode (pair.layout.tableShards "t") args.text) args.limit.toNat := by
  have hbefore : Run machine Deed.perform ⟨0, pair.start⟩ pairTrace ⟨0, pairFiled⟩ :=
    (((Run.start.act _).act _).act _).act _
  have hafter : Run machine Deed.perform ⟨0, (pairFiled.search 0 "t" redOrBlue).2⟩ []
      ⟨pairSearched.1, pairSearched.2⟩ := Run.await _ 30 0 _
  have hplace : (pairFiled.search 0 "t" redOrBlue).1 = 0 := by
    rw [search_fst]
    rfl
  have hresult : pairSearched.2.result? 0 = some (.ok pairResponse) := by cbv
  obtain ⟨args, hargs, hcentral, -⟩ := search_ranks_centrally hbefore pair_servedBy hafter
    (fun _ h => by cases h) (hplace ▸ hresult) rfl
  exact ⟨hresult, args, hargs, hcentral⟩

end Coordinator

end ScatterSearch
