import ScatterSearch.Proofs.Search.Completion

/-!
# One ranking of all that has come

A search ranks its hits anew with every answer. What it has in the end is what it would have if all
answers had come at once: the stable sort of all hits, in whatever order the answers have them, with
repetitions and with ties (`Accumulator.hits_ranked_stably`).

The reason is that a ranking is determined by what came (`SearchHit.Ranks.unique`). The ranks are
sorted, and ranks have one sorted order only; and of the hits of one rank the order is that of their
arrival. So sorting twice is sorting once (`SearchHit.mergeSort_append_mergeSort`), and what came in
order stays in order (`SearchHit.Ranks.sublist`).
-/

namespace ScatterSearch

namespace SearchHit

variable {came ranking ranking' : List SearchHit}

theorem ranksBefore_iff {a b : SearchHit} :
    a.ranksBefore b = true ↔ b.score < a.score ∨ a.score = b.score ∧ a.id ≤ b.id :=
  Rank.le_iff (a := a.rank) (b := b.rank)

/-- There is one ranking of the hits that came. -/
theorem Ranks.unique (h : Ranks came ranking) (h' : Ranks came ranking') : ranking = ranking' := by
  have hranks : ranking.map rank = ranking'.map rank := h.map_rank.trans h'.map_rank.symm
  have hkeeps {xs ys : List SearchHit} (hx : Ranks came xs) (hy : Ranks came ys)
      (hmap : xs.map rank = ys.map rank) {i : Nat} {a : SearchHit} (ha : xs[i]? = some a) :
      ys[i]? = some a :=
    Lists.getElem?_eq_of_filter hmap ((hx.tied a.rank).trans (hy.tied a.rank).symm) ha rfl
  refine List.ext_getElem? fun i => Option.ext fun a => ?_
  exact ⟨hkeeps h h' hranks, hkeeps h' h hranks.symm⟩

theorem Ranks.eq_mergeSort (h : Ranks came ranking) : ranking = came.mergeSort ranksBefore :=
  h.unique (ranks_mergeSort came)

/-- To sort what came earlier makes no difference if more comes and all is sorted then. -/
theorem mergeSort_append_mergeSort (came more : List SearchHit) :
    (came.mergeSort ranksBefore ++ more).mergeSort ranksBefore =
      (came ++ more).mergeSort ranksBefore :=
  ((ranks_mergeSort came).add more).eq_mergeSort

/-- Hits that came best first, among others, are ranked in that order. -/
theorem Ranks.sublist (h : Ranks came ranking) {picked : List SearchHit}
    (hpicked : picked.Sublist came) (hsorted : picked.Pairwise (ranksBefore · ·)) :
    picked.Sublist ranking := by
  rw [h.eq_mergeSort]
  exact List.sublist_mergeSort ranksBefore_trans ranksBefore_total hsorted hpicked

/-- Of hits of one rank the order is that in which they came. -/
theorem Ranks.filter_eq (h : Ranks came ranking) (score : UInt64) (id : String) :
    ranking.filter (fun hit => hit.score = score ∧ hit.id = id) =
      came.filter fun hit => hit.score = score ∧ hit.id = id := by
  have hrank : (fun hit : SearchHit => decide (hit.score = score ∧ hit.id = id)) =
      fun hit => decide (hit.rank = (score, id)) := by
    funext hit
    rw [decide_eq_decide, rank, Prod.mk.injEq]
  rw [hrank]
  exact h.tied (score, id)

end SearchHit

namespace Accumulator

open SearchHit (Ranks ranksBefore)

/-- **All hits are ranked, and ties stay in the order of their arrival.** Whatever parts come, the
hits of all of them are there in the end, as often as they came: the higher score first, of one
score the smaller id first, and of one score and id the earlier one first; hits that came in this
order stay in it. No other list of them is like that. It is what one stable sort of all hits gives,
however many parts are taken in at once. And the parts are counted. -/
theorem hits_ranked_stably (parts : List ShardHits) :
    let came := parts.flatMap (·.hits)
    let r := search.fold parts
    r.hits.Perm came ∧
    r.hits.Pairwise (fun a b => b.score < a.score ∨ a.score = b.score ∧ a.id ≤ b.id) ∧
    (∀ score id, r.hits.filter (fun hit => hit.score = score ∧ hit.id = id) =
      came.filter fun hit => hit.score = score ∧ hit.id = id) ∧
    (∀ picked : List SearchHit, picked.Sublist came →
      picked.Pairwise (fun a b => b.score < a.score ∨ a.score = b.score ∧ a.id ≤ b.id) →
      picked.Sublist r.hits) ∧
    (∀ ranking, Ranks came ranking → ranking = r.hits) ∧
    r.hits = came.mergeSort ranksBefore ∧
    (∀ more, (search.fold (parts ++ more)).hits =
      (r.hits ++ more.flatMap (·.hits)).mergeSort ranksBefore) ∧
    r.shardsAnswered = UInt64.ofNat parts.length ∧
    (parts.length < 2 ^ 64 → r.shardsAnswered.toNat = parts.length) := by
  intro came r
  have hranks : Ranks came r.hits := ranking_search parts
  refine ⟨hranks.perm, hranks.sorted.imp SearchHit.ranksBefore_iff.1, hranks.filter_eq,
    fun picked hpicked hsorted => ?_, fun ranking h => h.unique hranks, hranks.eq_mergeSort,
    fun more => ?_, search_shardsAnswered parts, fun hlength => ?_⟩
  · exact hranks.sublist hpicked (hsorted.imp SearchHit.ranksBefore_iff.2)
  · calc (search.fold (parts ++ more)).hits
        = ((parts ++ more).flatMap (·.hits)).mergeSort ranksBefore :=
          (ranking_search (parts ++ more)).eq_mergeSort
      _ = (came ++ more.flatMap (·.hits)).mergeSort ranksBefore := by rw [List.flatMap_append]
      _ = (came.mergeSort ranksBefore ++ more.flatMap (·.hits)).mergeSort ranksBefore :=
          (SearchHit.mergeSort_append_mergeSort came _).symm
      _ = (r.hits ++ more.flatMap (·.hits)).mergeSort ranksBefore := by rw [hranks.eq_mergeSort]
  · exact (congrArg UInt64.toNat (search_shardsAnswered parts)).trans
      (UInt64.toNat_ofNat_of_lt' hlength)

-- of two hits of one score and id the one that came first stays first, whatever its shard
example : (search.fold [⟨1, [⟨"b", 1, ⟨"t", "9"⟩⟩]⟩,
      ⟨2, [⟨"b", 1, ⟨"t", "0"⟩⟩, ⟨"a", 1, ⟨"t", "0"⟩⟩]⟩]).hits =
    [⟨"a", 1, ⟨"t", "0"⟩⟩, ⟨"b", 1, ⟨"t", "9"⟩⟩, ⟨"b", 1, ⟨"t", "0"⟩⟩] := by
  cbv

end Accumulator

end ScatterSearch
