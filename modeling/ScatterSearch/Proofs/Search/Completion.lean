import ScatterSearch.Proofs.Search.Moves

/-!
# The order in which shards answer

A search merges the answers of its shards as they come. What it responds when it is exhausted
depends on that order only where hits of two answers have the same score and id: of such hits the
one that came earlier stands first, and with a limit it may be the only one that is listed
(`Coordinator.exhausted_up_to_ties`, `Coordinator.tied_answers_differ`).

* The hits of all answers are ranked stably: `Accumulator.ranking_search` says so of any answers;
* `Executor.Brought` says what the calls of some handles brought. What they brought stays;
* `Search.Gathers` is what a search keeps while it goes on: it has merged what some of its handles
  brought, and has the others still. A search that is exhausted has none left.

Nothing is assumed of the servers. Answers come from wherever they come, with whatever ids, scores
and shards in them.
-/

namespace ScatterSearch

/-! ## Lists -/

namespace Lists

variable {α β : Type}

/-- Two lists whose elements have the same keys agree where the key is one whose elements come in
the same order in both. -/
theorem getElem?_eq_of_filter [DecidableEq β] {key : α → β} {k : β} :
    ∀ {xs ys : List α}, xs.map key = ys.map key →
      xs.filter (key · = k) = ys.filter (key · = k) →
      ∀ {i : Nat} {x : α}, xs[i]? = some x → key x = k → ys[i]? = some x
  | [], _, _, _, _, _, hx, _ => by cases hx
  | x :: xs, [], hkeys, _, _, _, _, _ => by cases hkeys
  | x :: xs, y :: ys, hkeys, hfilter, i, z, hz, hk => by
    obtain ⟨hkey, hkeys'⟩ := List.cons.inj hkeys
    by_cases hx : key x = k
    · rw [List.filter_cons_of_pos (by simpa using hx),
        List.filter_cons_of_pos (by simpa [← hkey] using hx)] at hfilter
      obtain ⟨rfl, hrest⟩ := List.cons.inj hfilter
      cases i with
      | zero => exact hz
      | succ i => exact getElem?_eq_of_filter hkeys' hrest hz hk
    · rw [List.filter_cons_of_neg (by simpa using hx),
        List.filter_cons_of_neg (by simpa [← hkey] using hx)] at hfilter
      cases i with
      | zero => exact absurd (Option.some.inj hz ▸ hk) hx
      | succ i => exact getElem?_eq_of_filter hkeys' hfilter hz hk

/-- The order of lists of which at most one has elements does not matter to their union. -/
theorem flatMap_eq_of_perm {f : α → List β} {xs ys : List α} (h : xs.Perm ys)
    (hone : xs.Pairwise fun x y => f x = [] ∨ f y = []) : xs.flatMap f = ys.flatMap f := by
  induction h with
  | nil => rfl
  | cons x _ ih => rw [List.flatMap_cons, List.flatMap_cons, ih (List.pairwise_cons.1 hone).2]
  | swap x y xs =>
    rw [List.flatMap_cons, List.flatMap_cons, List.flatMap_cons, List.flatMap_cons]
    rcases (List.pairwise_cons.1 hone).1 x List.mem_cons_self with hnone | hnone
    · rw [hnone, List.nil_append, List.nil_append]
    · rw [hnone, List.nil_append, List.nil_append]
  | trans hfirst _ ih ih' =>
    exact (ih hone).trans (ih' ((hfirst.pairwise_iff fun hor => hor.symm).1 hone))

end Lists

/-! ## Rankings -/

namespace SearchHit

variable {hits : List SearchHit}

/-- The order of hits is transitive. -/
theorem ranksBefore_trans (a b c : SearchHit) (hab : a.ranksBefore b) (hbc : b.ranksBefore c) :
    a.ranksBefore c :=
  Rank.le_trans a.rank b.rank c.rank hab hbc

/-- Of two hits one comes before the other, or both tie. -/
theorem ranksBefore_total (a b : SearchHit) : a.ranksBefore b || b.ranksBefore a :=
  Rank.le_total a.rank b.rank

/-- To sort hits does not change the order of those of one rank. -/
theorem filter_rank_mergeSort (rank : Rank) :
    (hits.mergeSort ranksBefore).filter (·.rank = rank) = hits.filter (·.rank = rank) := by
  have htied : (hits.filter (·.rank = rank)).Pairwise (ranksBefore · ·) := by
    refine List.pairwise_of_forall_mem_list fun a ha b hb => ?_
    have hsame : a.rank = b.rank :=
      (of_decide_eq_true (List.mem_filter.1 ha).2).trans
        (of_decide_eq_true (List.mem_filter.1 hb).2).symm
    have hself := Rank.le_total a.rank a.rank
    rw [Bool.or_self, hsame] at hself
    change Rank.le a.rank b.rank = true
    rw [hsame, hself]
  have hsublist : (hits.filter (·.rank = rank)).Sublist (hits.mergeSort ranksBefore) :=
    List.sublist_mergeSort ranksBefore_trans ranksBefore_total htied List.filter_sublist
  have hkept := hsublist.filter (·.rank = rank)
  rw [List.filter_filter] at hkept
  simp only [Bool.and_self] at hkept
  have hlength := ((List.mergeSort_perm hits ranksBefore).filter (·.rank = rank)).length_eq
  exact (hkept.eq_of_length hlength.symm).symm

/-- All hits, best first, and those of one rank in the order in which they came. -/
structure Ranks (came ranking : List SearchHit) : Prop where
  perm : ranking.Perm came
  sorted : ranking.Pairwise (ranksBefore · ·)
  tied : ∀ rank : Rank, ranking.filter (·.rank = rank) = came.filter (·.rank = rank)

/-- To sort hits ranks them. -/
theorem ranks_mergeSort (hits : List SearchHit) : Ranks hits (hits.mergeSort ranksBefore) where
  perm := List.mergeSort_perm hits ranksBefore
  sorted := List.pairwise_mergeSort ranksBefore_trans ranksBefore_total hits
  tied := fun _ => filter_rank_mergeSort _

/-- More hits come, and all are ranked anew. -/
theorem Ranks.add {came ranking : List SearchHit} (h : Ranks came ranking)
    (more : List SearchHit) : Ranks (came ++ more) ((ranking ++ more).mergeSort ranksBefore) := by
  have hagain := ranks_mergeSort (ranking ++ more)
  refine ⟨hagain.perm.trans (h.perm.append_right more), hagain.sorted, fun rank => ?_⟩
  rw [hagain.tied, List.filter_append, List.filter_append, h.tied]

/-- What ranks hits sorts their ranks. -/
theorem Ranks.map_rank {came ranking : List SearchHit} (h : Ranks came ranking) :
    ranking.map rank = Rank.sort (came.map rank) := by
  have hsorted : (ranking.map rank).Pairwise (Rank.le · ·) := List.pairwise_map.2 h.sorted
  rw [← Rank.sort_eq_of_perm (h.perm.map rank), Rank.sort, List.mergeSort_of_pairwise hsorted]

end SearchHit

namespace Accumulator

variable {parts parts' : List ShardHits}

/-- The hits of a search are ranked, whatever parts come. -/
theorem ranking_search (parts : List ShardHits) :
    SearchHit.Ranks (parts.flatMap (·.hits)) (search.fold parts).hits := by
  induction parts using List.reverseRecOn with
  | nil => exact ⟨.refl _, .nil, fun _ => rfl⟩
  | append_singleton parts part ih =>
    rw [search_concat, List.flatMap_append, List.flatMap_singleton]
    exact ih.add part.hits

/-- The sum of all numbers of results does not depend on their order, although it wraps. -/
theorem totalResults_perm (h : parts.Perm parts') :
    (search.fold parts).totalResults = (search.fold parts').totalResults := by
  have hsum (parts : List ShardHits) : (search.fold parts).totalResults =
      parts.foldl (fun n part => n + part.totalResults) 0 := by
    induction parts using List.reverseRecOn with
    | nil => rfl
    | append_singleton parts part ih =>
      rw [search_concat, List.foldl_concat, ← ih]
      rfl
  have hcomm : RightCommutative fun (n : UInt64) (part : ShardHits) => n + part.totalResults :=
    ⟨fun n a b => by rw [UInt64.add_assoc, UInt64.add_comm a.totalResults, ← UInt64.add_assoc]⟩
  rw [hsum, hsum, h.foldl_eq]

end Accumulator

/-! ## Responses -/

/-- Two answers have hits of a rank. -/
def Rank.Tied (parts : List ShardHits) (rank : Rank) : Prop :=
  ¬ parts.Pairwise fun part part' =>
    rank ∉ part.hits.map SearchHit.rank ∨ rank ∉ part'.hits.map SearchHit.rank

/-- Two responses that are the same but for ties: where they list different hits, these differ in
the shard only, and two answers have hits of their rank. -/
structure SearchResponse.SameUpToTies (parts : List ShardHits) (r r' : SearchResponse) : Prop where
  uuid_eq : r.uuid = r'.uuid
  table_eq : r.table = r'.table
  totalResults_eq : r.totalResults = r'.totalResults
  shardsAnswered_eq : r.shardsAnswered = r'.shardsAnswered
  state_eq : r.state = r'.state
  ranks_eq : r.hits.map SearchHit.rank = r'.hits.map SearchHit.rank
  hits : ∀ (i : Nat) (a b : SearchHit), r.hits[i]? = some a → r'.hits[i]? = some b →
    a = b ∨ a.rank = b.rank ∧ a.shard ≠ b.shard ∧ Rank.Tied parts a.rank

/-- Without ties the responses are the same. -/
theorem SearchResponse.SameUpToTies.eq {parts : List ShardHits} {r r' : SearchResponse}
    (h : SameUpToTies parts r r') (huntied : ∀ rank, ¬ Rank.Tied parts rank) : r = r' := by
  have hhits : r.hits = r'.hits := by
    refine List.ext_getElem? fun i => ?_
    have hranks := congrArg (·[i]?) h.ranks_eq
    simp only [List.getElem?_map] at hranks
    cases ha : r.hits[i]? with
    | none =>
      rw [ha, Option.map_none] at hranks
      exact (Option.map_eq_none_iff.1 hranks.symm).symm
    | some a =>
      rw [ha, Option.map_some] at hranks
      obtain ⟨b, hb, -⟩ := Option.map_eq_some_iff.1 hranks.symm
      rw [hb]
      rcases h.hits i a b ha hb with rfl | ⟨-, -, htied⟩
      · rfl
      · exact absurd htied (huntied a.rank)
  obtain ⟨uuid, table, totalResults, hits, shardsAnswered, state⟩ := r
  obtain ⟨uuid', table', totalResults', hits', shardsAnswered', state'⟩ := r'
  obtain ⟨rfl, rfl, rfl, rfl, rfl, -, -⟩ := h
  obtain rfl : hits = hits' := hhits
  rfl

/-- A response that lists the best of some hits; of those of one rank the first that came. -/
def SearchResponse.Lists (limit : Nat) (came : List SearchHit) (r : SearchResponse) : Prop :=
  ∃ ranking, SearchHit.Ranks came ranking ∧ r.hits = ranking.take limit

/-- What a search responds that has merged all parts, in the order in which they came. -/
def SearchResponse.exhausted (table : String) (query : QueryDescriptor) (limit : Nat)
    (parts : List ShardHits) : SearchResponse where
  uuid := query.uuid
  table := table
  totalResults := (Accumulator.search.fold parts).totalResults
  hits := (Accumulator.search.fold parts).hits.take limit
  shardsAnswered := (Accumulator.search.fold parts).shardsAnswered
  state := .exhausted

open SearchResponse (SameUpToTies exhausted)

/-- Of hits that have the same rank only the shards can differ. -/
theorem SearchHit.eq_of_rank {a b : SearchHit} (hrank : a.rank = b.rank)
    (hshard : a.shard = b.shard) : a = b := by
  obtain ⟨id, score, shard⟩ := a
  obtain ⟨id', score', shard'⟩ := b
  obtain ⟨rfl, rfl⟩ := Prod.mk.inj hrank
  obtain rfl : shard = shard' := hshard
  rfl

/-- The hits of a rank that is not tied come in one order only. -/
theorem Rank.filter_eq_of_not_tied {parts parts' : List ShardHits} (h : parts.Perm parts')
    {rank : Rank} (huntied : ¬ rank.Tied parts) :
    (parts.flatMap (·.hits)).filter (·.rank = rank) =
      (parts'.flatMap (·.hits)).filter (·.rank = rank) := by
  rw [List.filter_flatMap, List.filter_flatMap]
  refine Lists.flatMap_eq_of_perm h ((not_not.1 huntied).imp fun hone => ?_)
  have hnone (part : ShardHits) (hnot : rank ∉ part.hits.map SearchHit.rank) :
      part.hits.filter (·.rank = rank) = [] := by
    refine List.filter_eq_nil_iff.2 fun hit hhit hrank => hnot ?_
    exact of_decide_eq_true hrank ▸ List.mem_map_of_mem hhit
  exact hone.imp (hnone _) (hnone _)

/-- In whatever order the parts come, the responses are the same up to ties. -/
theorem sameUpToTies_of_perm {parts parts' : List ShardHits} (h : parts.Perm parts')
    (table : String) (query : QueryDescriptor) (limit : Nat) :
    SameUpToTies parts (exhausted table query limit parts)
      (exhausted table query limit parts') := by
  have hranking := Accumulator.ranking_search parts
  have hranking' := Accumulator.ranking_search parts'
  have hranks : (Accumulator.search.fold parts).hits.map SearchHit.rank =
      (Accumulator.search.fold parts').hits.map SearchHit.rank := by
    rw [hranking.map_rank, hranking'.map_rank, Rank.sort_eq_of_perm ((h.flatMap_right _).map _)]
  refine ⟨rfl, rfl, Accumulator.totalResults_perm h, ?_, rfl, ?_, fun i a b ha hb => ?_⟩
  · rw [exhausted, exhausted, Accumulator.search_shardsAnswered, Accumulator.search_shardsAnswered,
      h.length_eq]
  · rw [exhausted, exhausted, List.map_take, List.map_take, hranks]
  · rw [exhausted, List.getElem?_take, Option.ite_none_right_eq_some] at ha hb
    have hrank : a.rank = b.rank := by
      have hi := congrArg (·[i]?) hranks
      simp only [List.getElem?_map, ha.2, hb.2, Option.map_some, Option.some.injEq] at hi
      exact hi
    by_cases htied : Rank.Tied parts a.rank
    · by_cases hshard : a.shard = b.shard
      · exact .inl (SearchHit.eq_of_rank hrank hshard)
      · exact .inr ⟨hrank, hshard, htied⟩
    · have hfilter : (Accumulator.search.fold parts).hits.filter (·.rank = a.rank) =
          (Accumulator.search.fold parts').hits.filter (·.rank = a.rank) := by
        rw [hranking.tied, hranking'.tied, Rank.filter_eq_of_not_tied h htied]
      have ha' := Lists.getElem?_eq_of_filter hranks hfilter ha.2 rfl
      exact .inl (Option.some.inj (ha'.symm.trans hb.2))

/-! ## What calls bring -/

namespace Executor

variable {x x' : Executor} {handles handles' : List CallHandle} {parts parts' : List ShardHits}

/-- The calls of the handles have ended, and brought these parts, one each. -/
def Brought (x : Executor) (handles : List CallHandle) (parts : List ShardHits) : Prop :=
  handles.map (x.outcome? Wire.decode) = parts.map fun part => some (.ok part)

/-- What two lists of handles brought, they brought together. -/
theorem Brought.append (h : x.Brought handles parts) (h' : x.Brought handles' parts') :
    x.Brought (handles ++ handles') (parts ++ parts') :=
  Yields.append h h'

theorem Brought.length_eq (h : x.Brought handles parts) : handles.length = parts.length :=
  Yields.length_eq h

/-- What calls brought stays. -/
theorem Brought.goesOn (h : x.Brought handles parts)
    (hcalls : x.outbound.workers.GoesOn x'.outbound.workers) : x'.Brought handles parts :=
  Yields.goesOn h hcalls

/-- What is there for some handles was brought by those whose calls have ended. -/
theorem brought_of_ready (h : handles.filterMap (x.outcome? Wire.decode) = parts.map .ok) :
    x.Brought (handles.filter x.isFinished) parts := by
  rw [Brought, map_outcome?_filter, h, List.map_map]
  rfl

end Executor

/-! ## Searches -/

namespace Search

/-- A search has a result if it ended with it. -/
theorem result?_eq_some {s : Search} {result : Except ClusterError SearchResponse} :
    s.result? = some result ↔ s.stage = .ended result := by
  rw [result?]
  cases s.stage <;> simp

/-- A search of all these handles: while it goes on it has merged what some of them brought, and has
the others; once it is exhausted it has merged what all of them brought, in some order. -/
structure Gathers (table : String) (query : QueryDescriptor) (limit : Nat) (all : List CallHandle)
    (x : Executor) (s : Search) : Prop where
  table_eq : s.table = table
  query_eq : s.query = query
  limit_eq : s.limit = limit
  merging : ∀ m, s.stage = .merging m →
    ∃ (limits : MergeLimits) (text : String) (merged : List CallHandle) (parts : List ShardHits)
      (last : Nat), m = .going .search limits text all.length parts last ∧
        (merged ++ s.handles).Perm all ∧ x.Brought merged parts
  ended : ∀ r, s.stage = .ended (.ok r) → r.state = .exhausted →
    ∃ (merged : List CallHandle) (parts : List ShardHits), merged.Perm all ∧
      x.Brought merged parts ∧ r = .exhausted table query limit parts

variable {table : String} {query : QueryDescriptor} {limit now : Nat} {all : List CallHandle}
  {x x' : Executor} {s : Search} {m m' : Merge SearchResults} {cancelled : Option CancelReason}

/-- What was gathered stays while calls go on. -/
theorem Gathers.goesOn (h : s.Gathers table query limit all x)
    (hcalls : x.outbound.workers.GoesOn x'.outbound.workers) :
    s.Gathers table query limit all x' where
  table_eq := h.table_eq
  query_eq := h.query_eq
  limit_eq := h.limit_eq
  merging := by
    intro m hm
    obtain ⟨limits, text, merged, parts, last, hgoing, hperm, hbrought⟩ := h.merging m hm
    exact ⟨limits, text, merged, parts, last, hgoing, hperm, hbrought.goesOn hcalls⟩
  ended := by
    intro r hr hstate
    obtain ⟨merged, parts, hperm, hbrought, hresponse⟩ := h.ended r hr hstate
    exact ⟨merged, parts, hperm, hbrought.goesOn hcalls, hresponse⟩

/-- What was gathered stays when the search is dropped. -/
theorem Gathers.dropped (h : s.Gathers table query limit all x) :
    Gathers table query limit all x { s with stage := .dropped } :=
  ⟨h.table_eq, h.query_eq, h.limit_eq, (fun _ hm => nomatch hm), fun _ hr => nomatch hr⟩

/-- A search that goes on after a look has merged what was there. -/
theorem Gathers.waiting (h : s.Gathers table query limit all x) (hstage : s.stage = .merging m)
    (hpoll : m.poll .search now cancelled (s.handles.filterMap (x.outcome? Wire.decode)) =
      .waiting m') :
    Gathers table query limit all x { s with
      handles := s.handles.filter fun handle => !x.isFinished handle
      stage := .merging m' } := by
  refine ⟨h.table_eq, h.query_eq, h.limit_eq, fun m'' hm => ?_, fun _ hr => nomatch hr⟩
  obtain rfl := SearchStage.merging.inj hm
  obtain ⟨limits, text, merged, parts, last, rfl, hperm, hbrought⟩ := h.merging m hstage
  obtain ⟨more, last', hready, rfl⟩ := Merge.going_of_poll hpoll
  refine ⟨limits, text, merged ++ s.handles.filter x.isFinished, parts ++ more, last', rfl, ?_,
    hbrought.append (Executor.brought_of_ready hready)⟩
  rw [List.append_assoc]
  exact ((List.filter_append_perm x.isFinished s.handles).append_left merged).trans hperm

/-- A search that is exhausted after a look has merged what all its handles brought. -/
theorem Gathers.exhausted (h : s.Gathers table query limit all x) (hstage : s.stage = .merging m)
    {outcome : MergeOutcome SearchResults}
    (hpoll : m.poll .search now cancelled (s.handles.filterMap (x.outcome? Wire.decode)) =
      .ended (.ok outcome)) (hstate : outcome.state = .exhausted) :
    ∃ (merged : List CallHandle) (parts : List ShardHits), merged.Perm all ∧
      x.Brought merged parts ∧ s.response outcome = .exhausted table query limit parts := by
  obtain ⟨limits, text, merged, parts, last, rfl, hperm, hbrought⟩ := h.merging m hstage
  have hlength := hperm.length_eq
  rw [List.length_append, hbrought.length_eq] at hlength
  have hready : (s.handles.filterMap (x.outcome? (Wire.decode : Decoder ShardHits))).length ≤
      all.length - parts.length := by
    have hle := List.length_filterMap_le (x.outcome? (Wire.decode : Decoder ShardHits)) s.handles
    omega
  obtain ⟨more, hmore, hcalls, haggregate⟩ := Merge.exhausted_of_poll hready hpoll hstate
  have hbrought' := hbrought.append (Executor.brought_of_ready hmore)
  have hsplit := (List.filter_append_perm x.isFinished s.handles).append_left merged
  rw [← List.append_assoc] at hsplit
  have hall := hsplit.trans hperm
  -- no handle is left
  have hrest : (s.handles.filter fun handle => !x.isFinished handle) = [] := by
    have hlength' := hall.length_eq
    rw [List.length_append, hbrought'.length_eq] at hlength'
    refine List.length_eq_zero_iff.1 ?_
    omega
  rw [hrest, List.append_nil] at hall
  refine ⟨_, _, hall, hbrought', ?_⟩
  rw [response, SearchResponse.exhausted, h.query_eq, h.table_eq, h.limit_eq, haggregate, hstate]

end Search

/-! ## Runs -/

namespace Coordinator

variable {stops : Nat → Prop} {rewrites : StatusRegistry → StatusRegistry → Prop}
  {c c' : Coordinator} {place now limit : Nat} {table : String} {query : QueryDescriptor}
  {all : List CallHandle} {result : Except ClusterError SearchResponse}

/-- What came of a search stays. -/
theorem result?_of_move (h : Move stops rewrites c c') (hresult : c.result? place = some result) :
    c'.result? place = some result := by
  obtain ⟨s, hs, hended⟩ := Option.bind_eq_some_iff.1 hresult
  have hstage := Search.result?_eq_some.1 hended
  have hs' := h.over hs fun m hm => SearchStage.noConfusion (hstage.symm.trans hm)
  rw [result?, hs', Option.bind_some, hended]

/-- The search at a place gathers what its handles bring. -/
def Gathering (place : Nat) (table : String) (query : QueryDescriptor) (limit : Nat)
    (all : List CallHandle) (c : Coordinator) : Prop :=
  ∃ s, c.searches[place]? = some s ∧ s.Gathers table query limit all c.executor

/-- The calls go on, and so may the search. -/
theorem Gathering.later (h : c.Gathering place table query limit all)
    (hcalls : c.executor.outbound.workers.GoesOn c'.executor.outbound.workers)
    (hsearch : c'.searches[place]? = c.searches[place]?) :
    c'.Gathering place table query limit all := by
  obtain ⟨s, hs, hgathers⟩ := h
  exact ⟨s, hsearch.trans hs, hgathers.goesOn hcalls⟩

/-- A search that is dropped has gathered what it had. -/
theorem Gathering.dropped (h : c.Gathering place table query limit all) (now : Nat) :
    (c.drop now place).Gathering place table query limit all := by
  obtain ⟨s, hs, hgathers⟩ := h
  rw [← executor_drop now place c] at hgathers
  rcases searches_drop c now place with hsame | hdropped
  · exact ⟨s, hsame ▸ hs, hgathers⟩
  · exact ⟨_, hdropped ▸ getElem?_setStage hs _, hgathers.dropped⟩

/-- A look gathers what is there. -/
theorem Gathering.look (h : c.Gathering place table query limit all) (now : Nat) :
    (pollSearch now c place).Gathering place table query limit all := by
  have hcalls := (steps_pollSearch now place c).goesOn
  have hdropped := h.dropped now
  obtain ⟨s, hs, hgathers⟩ := h
  have hlt := (List.getElem?_eq_some_iff.1 hs).1
  cases hstage : s.stage with
  | merging m =>
    cases hlook : c.look now s m with
    | waiting m' =>
      rw [pollSearch_waiting hs hstage hlook]
      exact ⟨_, List.getElem?_set_self hlt, hgathers.waiting hstage hlook⟩
    | panicked => rwa [pollSearch_panicked hs hstage hlook]
    | ended result =>
      rw [pollSearch_ended hs hstage hlook] at hcalls ⊢
      refine ⟨_, getElem?_setStage hs _, Search.Gathers.goesOn ?_ hcalls⟩
      refine ⟨hgathers.table_eq, hgathers.query_eq, hgathers.limit_eq, (fun m hm => nomatch hm),
        fun r hr hstate => ?_⟩
      cases result with
      | error e => cases hr
      | ok outcome =>
        obtain rfl := Except.ok.inj (SearchStage.ended.inj hr)
        exact hgathers.exhausted hstage hlook hstate
  | ended | dropped =>
    rw [pollSearch_of_over hs (by simp [hstage])]
    exact ⟨s, hs, hgathers⟩

/-- Every move keeps what is gathered. -/
theorem Gathering.move (hmove : Move stops rewrites c c')
    (h : c.Gathering place table query limit all) : c'.Gathering place table query limit all := by
  obtain ⟨s, hs, -⟩ := id h
  rcases hmove.of_search (List.getElem?_eq_some_iff.1 hs).1 with hapart | ⟨now, rfl⟩ | ⟨now, rfl⟩
  · exact h.later hapart.steps.goesOn hapart.search
  · exact h.look now
  · exact h.dropped now

/-- A search that is launched has merged nothing yet. -/
theorem gathering_launched {args : SearchArguments} {handles : List CallHandle} :
    (c.launched now table query args handles).Gathering c.searches.length table query
      args.limit.toNat handles := by
  refine ⟨_, List.getElem?_concat_length, rfl, rfl, rfl, fun m hm => ?_, fun r hr => nomatch hr⟩
  obtain rfl := SearchStage.merging.inj hm
  exact ⟨_, _, [], [], now, Merge.start_eq_going, .refl _, rfl⟩

/-- A search that was started in a state, at an instant, and is exhausted in another one. -/
def Exhausts (c : Coordinator) (now : Nat) (table : String) (query : QueryDescriptor)
    (u : Timed Coordinator) (response : SearchResponse) : Prop :=
  (∃ trace, Run machine Deed.perform ⟨now, (c.search now table query).2⟩ trace u) ∧
    u.state.result? (c.search now table query).1 = some (.ok response) ∧
    response.state = .exhausted

/-- What the calls of a search brought in the end, each one part, in some order. -/
def Answered (c : Coordinator) (table : String) (query : QueryDescriptor) (u : Timed Coordinator)
    (parts : List ShardHits) : Prop :=
  ∃ handles merged : List CallHandle, (c.scattered table query).1 = .ok handles ∧
    merged.Perm handles ∧ u.state.executor.Brought merged parts

/-- What was brought is determined up to the order. -/
theorem Answered.perm {u : Timed Coordinator} {parts parts' : List ShardHits}
    (h : c.Answered table query u parts) (h' : c.Answered table query u parts') :
    parts.Perm parts' := by
  obtain ⟨handles, merged, hhandles, hperm, hbrought⟩ := h
  obtain ⟨handles', merged', hhandles', hperm', hbrought'⟩ := h'
  obtain rfl := Except.ok.inj (hhandles.symm.trans hhandles')
  have hmap := (hperm.trans hperm'.symm).map
    (u.state.executor.outcome? (Wire.decode : Decoder ShardHits))
  rw [hbrought, hbrought'] at hmap
  exact (List.map_perm_map_iff fun _ _ heq => Except.ok.inj (Option.some.inj heq)).1 hmap

/-- A search that is exhausted has merged what all its calls brought. -/
theorem response_of_exhausts {u : Timed Coordinator} {response : SearchResponse}
    (h : c.Exhausts now table query u response) :
    ∃ args parts, (Wire.decode : Decoder SearchArguments).run query.query = .ok args ∧
      c.Answered table query u parts ∧
      response = .exhausted table query args.limit.toNat parts := by
  obtain ⟨⟨trace, hrun⟩, hresult, hstate⟩ := h
  have hmoves : Moves (fun _ => True) (fun _ _ => True) (c.search now table query).2 u.state :=
    Moves.of_run (fun _ _ _ => trivial) hrun fun a _ => by
      cases a.2 <;> first | trivial | exact fun _ => trivial
  rw [search_fst] at hresult
  rcases search_cases c now table query with
    ⟨s, e, hsearches, -⟩ | ⟨args, handles, hargs, hhandles, hlaunched⟩
  · -- a search that ended at once has no response
    have herror : (c.search now table query).2.result? c.searches.length = some (.error e) := by
      rw [result?, hsearches, List.getElem?_concat_length]
      rfl
    have hstays := hmoves.keeps (fun _ _ hmove => result?_of_move hmove) herror
    rw [hstays] at hresult
    cases Option.some.inj hresult
  · have hgathering : (c.search now table query).2.Gathering c.searches.length table query
        args.limit.toNat handles := by
      rw [hlaunched]
      exact gathering_launched.look now
    obtain ⟨s, hs, hgathers⟩ := hmoves.keeps (fun _ _ hmove => Gathering.move hmove) hgathering
    rw [result?, hs, Option.bind_some] at hresult
    obtain ⟨merged, parts, hperm, hbrought, rfl⟩ :=
      hgathers.ended _ (Search.result?_eq_some.1 hresult) hstate
    exact ⟨args, parts, hargs, ⟨handles, merged, hhandles, hperm, hbrought⟩, rfl⟩

/-- Two searches for the same query are exhausted, whenever and wherever they were started and
whatever else happened meanwhile. Each lists the best of what its calls brought, and of ties those
that were merged first. If their calls brought the same parts, in whatever orders, the responses are
the same up to ties; so they are the same if no two parts have hits of one rank. -/
theorem exhausted_up_to_ties {c₁ c₂ : Coordinator} {now₁ now₂ : Nat} {u₁ u₂ : Timed Coordinator}
    {r₁ r₂ : SearchResponse} (h₁ : c₁.Exhausts now₁ table query u₁ r₁)
    (h₂ : c₂.Exhausts now₂ table query u₂ r₂) :
    ∃ args parts₁ parts₂, (Wire.decode : Decoder SearchArguments).run query.query = .ok args ∧
      c₁.Answered table query u₁ parts₁ ∧
      r₁.Lists args.limit.toNat (parts₁.flatMap (·.hits)) ∧
      c₂.Answered table query u₂ parts₂ ∧
      r₂.Lists args.limit.toNat (parts₂.flatMap (·.hits)) ∧
      (parts₁.Perm parts₂ → SearchResponse.SameUpToTies parts₁ r₁ r₂ ∧
        ((∀ rank, ¬ Rank.Tied parts₁ rank) → r₁ = r₂)) := by
  obtain ⟨args, parts₁, hargs, hanswered₁, rfl⟩ := response_of_exhausts h₁
  obtain ⟨args', parts₂, hargs', hanswered₂, rfl⟩ := response_of_exhausts h₂
  obtain rfl := Except.ok.inj (hargs.symm.trans hargs')
  refine ⟨args, parts₁, parts₂, hargs, hanswered₁, ?_, hanswered₂, ?_, fun hperm => ?_⟩
  · exact ⟨_, Accumulator.ranking_search parts₁, rfl⟩
  · exact ⟨_, Accumulator.ranking_search parts₂, rfl⟩
  · have hsame := sameUpToTies_of_perm hperm table query args.limit.toNat
    exact ⟨hsame, hsame.eq⟩

/-- A server that finds one document in its shard, always the same, and takes its time to say so. -/
def tiedRemote (shard : String) (delay : Nat) : Remote where
  connectDelay := 0
  connectError := none
  execute := fun _ => ⟨delay, fun _ => .answers (.ok (.shardValues
    [(⟨"t", shard⟩, encode (⟨1, [⟨"x", 1, ⟨"t", shard⟩⟩]⟩ : ShardHits))]))⟩
  reconnect := Remote.immediate fun _ => .answers (.error (.failed "no such execution"))

/-- Two such servers, with delays. -/
def tied (delay delay' : Nat) : Cluster where
  members := []
  routes := [(⟨"a:1"⟩, .remote (tiedRemote "0" delay)), (⟨"b:1"⟩, .remote (tiedRemote "1" delay'))]
  elsewhere := fun _ => .unreachable 0 (.internal "no such server")
  layout := .ofAssignments [(⟨"a:1"⟩, [⟨"t", "0"⟩]), (⟨"b:1"⟩, [⟨"t", "1"⟩])]
  config := ⟨2, none, 1000⟩
  statuses := .new 0 0

/-- A search for the best document. -/
def bestOnly : QueryDescriptor :=
  { QueryDescriptor.named "q" with query := .obj [("text", .str "x"), ("limit", .nat 1)] }

/-- What comes of a search if nobody does anything. -/
def awaited (c : Coordinator) (fuel : Nat) (table : String) (query : QueryDescriptor) :
    Timed Coordinator :=
  let (place, c) := c.search 0 table query
  let (now, c) := Clock.await machine (fun c => (c.result? place).isSome) fuel 0 c
  ⟨now, c⟩

/-- A search that was waited for, and is exhausted, exhausts its calls. -/
theorem exhausts_awaited {fuel : Nat} {response : SearchResponse}
    (hresult : (c.awaited fuel table query).state.result? (c.search 0 table query).1 =
      some (.ok response)) (hstate : response.state = .exhausted) :
    c.Exhausts 0 table query (c.awaited fuel table query) response :=
  ⟨⟨[], Run.await _ fuel 0 _⟩, hresult, hstate⟩

/-- What is found: the document of one of the shards. -/
def tiedResponse (shard : String) : SearchResponse :=
  ⟨"q", "t", 2, [⟨"x", 1, ⟨"t", shard⟩⟩], 2, .exhausted⟩

/-- Both searches are exhausted, with the hit of the server that answers first. -/
theorem exhausts_tied :
    (tied 1 9).start.Exhausts 0 "t" bestOnly ((tied 1 9).start.awaited 30 "t" bestOnly)
        (tiedResponse "0") ∧
      (tied 9 1).start.Exhausts 0 "t" bestOnly ((tied 9 1).start.awaited 30 "t" bestOnly)
        (tiedResponse "1") :=
  ⟨exhausts_awaited (by cbv) rfl, exhausts_awaited (by cbv) rfl⟩

/-- The two answers, by shards. -/
def tiedParts : List ShardHits :=
  [⟨1, [⟨"x", 1, ⟨"t", "0"⟩⟩]⟩, ⟨1, [⟨"x", 1, ⟨"t", "1"⟩⟩]⟩]

/-- In both of them both servers answer the same. -/
theorem answered_tied :
    (tied 1 9).start.Answered "t" bestOnly ((tied 1 9).start.awaited 30 "t" bestOnly) tiedParts ∧
      (tied 9 1).start.Answered "t" bestOnly ((tied 9 1).start.awaited 30 "t" bestOnly)
        tiedParts := by
  have hhandles (d d' : Nat) : ((tied d d').start.scattered "t" bestOnly).1 =
      .ok [⟨.shard ⟨"t", "0"⟩, 0⟩, ⟨.shard ⟨"t", "1"⟩, 1⟩] := by cbv
  exact ⟨⟨_, _, hhandles 1 9, .refl _, by cbv⟩, ⟨_, _, hhandles 9 1, .refl _, by cbv⟩⟩

/-- The same two answers come in one order and in the other, and the responses differ: they name the
shard that answered first. -/
theorem tied_answers_differ :
    (tied 1 9).start.Exhausts 0 "t" bestOnly ((tied 1 9).start.awaited 30 "t" bestOnly)
        (tiedResponse "0") ∧
      (tied 9 1).start.Exhausts 0 "t" bestOnly ((tied 9 1).start.awaited 30 "t" bestOnly)
        (tiedResponse "1") ∧
      (tied 1 9).start.Answered "t" bestOnly ((tied 1 9).start.awaited 30 "t" bestOnly) tiedParts ∧
      (tied 9 1).start.Answered "t" bestOnly ((tied 9 1).start.awaited 30 "t" bestOnly)
        tiedParts ∧
      tiedResponse "0" ≠ tiedResponse "1" :=
  ⟨exhausts_tied.1, exhausts_tied.2, answered_tied.1, answered_tied.2, by decide⟩

/-- The responses are the same up to that. -/
theorem tied_same_up_to_ties : ∃ parts : List ShardHits, parts.Perm tiedParts ∧
    SearchResponse.SameUpToTies parts (tiedResponse "0") (tiedResponse "1") := by
  obtain ⟨args, parts, parts', -, hanswered, -, hanswered', -, hsame⟩ :=
    exhausted_up_to_ties exhausts_tied.1 exhausts_tied.2
  have hperm := hanswered.perm answered_tied.1
  have hperm' := hanswered'.perm answered_tied.2
  exact ⟨parts, hperm, (hsame (hperm.trans hperm'.symm)).1⟩

end Coordinator

end ScatterSearch
