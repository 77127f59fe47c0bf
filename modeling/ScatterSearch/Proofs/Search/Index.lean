import Mathlib.Data.Finset.Card
import ScatterSearch.Proofs.Assoc
import ScatterSearch.Proofs.Lists
import ScatterSearch.Proofs.Search.Ranking
import ScatterSearch.Proofs.Text.Words
import ScatterSearch.Search.Index

/-!
# What an index finds

An index is made by giving documents to it, one after the other. Which documents match a query can
be said from these alone, without postings: `Filing.ranks` lists, for each document of a shard whose
current text shares terms with the query, how many they are. This is what a search finds, best first
(`search_ofFilings`), because the postings of a shard always list each document under the terms of
its current text and under no others (`ShardDocuments.Holds`).
-/

namespace ScatterSearch

/-- A document that is given to an index. -/
structure Filing where
  shard : Shard
  id : String
  text : String
  deriving DecidableEq, Repr

/-- The index to which documents were given, in order. -/
def ShardIndex.ofFilings (filings : List Filing) : ShardIndex :=
  filings.foldl (fun ix f => ix.index f.shard f.id f.text) .empty

namespace Filing

variable (filings : List Filing) (shard : Shard) (query : String)

/-- The current text of a document: the last one it was given. -/
def text? (id : String) : Option String :=
  ((filings.filter fun f => f.shard = shard ∧ f.id = id).getLast?).map (·.text)

/-- The documents of a shard. -/
def ids : List String := ((filings.filter (·.shard = shard)).map (·.id)).eraseDups

/-- How many distinct terms of a query a text holds. -/
def shared (query text : String) : Nat :=
  ((Text.terms query).toFinset ∩ (Text.terms text).toFinset).card

/-- The rank of a document for a query, if it matches. -/
def rank? (id : String) : Option Rank :=
  ((text? filings shard id).map (shared query)).bind fun n =>
    if n = 0 then none else some (UInt64.ofNat n, id)

/-- The ranks of the documents of a shard that match a query. -/
def ranks : List Rank := (ids filings shard).filterMap (rank? filings shard query)

end Filing

/-! ## Postings -/

namespace ShardDocuments

/-- The ids that postings list under a term. -/
def listed (postings : Assoc String (List String)) (term : String) : List String :=
  (postings.get? term).getD []

variable {postings : Assoc String (List String)} {terms : List String} {id id' term : String}

theorem listed_put (t : String) (ids : List String) :
    listed (postings.put t ids) term = if t = term then ids else listed postings term := by
  rw [listed, Assoc.get?_put]
  split <;> rfl

/-- To take a document out of the postings of some terms takes it out of these only. -/
theorem mem_listed_unpost : id' ∈ listed (unpost id terms postings) term ↔
    id' ∈ listed postings term ∧ ¬ (id' = id ∧ term ∈ terms) := by
  induction terms generalizing postings with
  | nil => simp [unpost]
  | cons t terms ih =>
    have hstep : id' ∈ listed (unpost id [t] postings) term ↔
        id' ∈ listed postings term ∧ ¬ (id' = id ∧ term = t) := by
      simp only [unpost, List.foldl_cons, List.foldl_nil]
      cases hget : postings.get? t with
      | none =>
        by_cases ht : term = t
        · simp [listed, ht, hget]
        · simp [ht]
      | some ids =>
        rw [listed_put]
        by_cases ht : t = term
        · subst ht
          simp [listed, hget]
        · simp [ht, Ne.symm ht]
    change id' ∈ listed (unpost id terms (unpost id [t] postings)) term ↔ _
    rw [ih, hstep, List.mem_cons]
    tauto

/-- To add a document to the postings of some terms adds it to these only. -/
theorem mem_listed_post : id' ∈ listed (post id terms postings) term ↔
    id' ∈ listed postings term ∨ id' = id ∧ term ∈ terms := by
  induction terms generalizing postings with
  | nil => simp [post]
  | cons t terms ih =>
    change id' ∈ listed (post id terms (postings.put t ((listed postings t).insert id))) term ↔ _
    rw [ih, listed_put, List.mem_cons]
    by_cases ht : t = term
    · subst ht
      simp only [if_true, List.mem_insert_iff, true_or, and_true]
      tauto
    · simp only [if_neg ht, Ne.symm ht, false_or]

theorem nodup_listed_unpost (h : ∀ t, (listed postings t).Nodup) (t : String) :
    (listed (unpost id terms postings) t).Nodup := by
  induction terms generalizing postings with
  | nil => exact h t
  | cons t' terms ih =>
    refine ih fun t => ?_
    cases hget : postings.get? t' with
    | none =>
      simp only [hget]
      exact h t
    | some ids =>
      have hids : (listed postings t').Nodup := h t'
      rw [listed, hget] at hids
      simp only [hget]
      rw [listed_put]
      split
      · exact hids.filter _
      · exact h t

/-- No document is listed twice for a term. -/
theorem nodup_listed_post (h : ∀ t, (listed postings t).Nodup) (t : String) :
    (listed (post id terms postings) t).Nodup := by
  induction terms generalizing postings with
  | nil => exact h t
  | cons t' terms ih =>
    refine ih fun t => ?_
    simp only
    rw [listed_put]
    split
    · exact (h t').insert
    · exact h t

/-! ## What a shard holds -/

/-- A shard holds documents with the given texts, and lists each of them under its terms. -/
structure Holds (d : ShardDocuments) (text? : String → Option String) : Prop where
  documents : ∀ id, d.documents.get? id = (text? id).map Text.documentTerms
  nodup : ∀ term, (d.holders term).Nodup
  holders : ∀ term id, id ∈ d.holders term ↔ ∃ text, text? id = some text ∧ term ∈ Text.terms text

variable {d : ShardDocuments} {text? : String → Option String}

/-- At first no document is held. -/
theorem holds_empty : Holds empty fun _ => none where
  documents := fun _ => rfl
  nodup := fun _ => List.nodup_nil
  holders := by simp [ShardDocuments.holders, empty]

/-- A document that is given to a shard has that text, and no other, from then on. -/
theorem Holds.index (h : Holds d text?) (id text : String) :
    Holds (d.index id text) fun id' => if id = id' then some text else text? id' := by
  -- without its old terms the document is listed nowhere
  obtain ⟨postings, hpostings, hnodup, hmem⟩ : ∃ postings,
      (d.index id text).postings = post id (Text.documentTerms text) postings ∧
      (∀ term, (listed postings term).Nodup) ∧
      ∀ term id', id' ∈ listed postings term ↔ id' ∈ d.holders term ∧ id' ≠ id := by
    rw [ShardDocuments.index]
    have hdocuments := h.documents id
    cases hget : d.documents.get? id with
    | none =>
      refine ⟨_, rfl, h.nodup, fun term id' => ⟨fun hmem => ⟨hmem, ?_⟩, fun hmem => hmem.1⟩⟩
      rintro rfl
      obtain ⟨old, hold, -⟩ := (h.holders term id').1 hmem
      rw [hget, hold] at hdocuments
      cases hdocuments
    | some terms =>
      refine ⟨_, rfl, nodup_listed_unpost h.nodup, fun term id' => ?_⟩
      rw [mem_listed_unpost]
      refine and_congr_right fun hmem => ⟨fun hnot hid => hnot ⟨hid, ?_⟩, fun hne hid => hne hid.1⟩
      obtain ⟨old, hold, hterm⟩ := (h.holders term id').1 hmem
      rw [hget, ← hid, hold, Option.map_some, Option.some.injEq] at hdocuments
      rw [hdocuments]
      exact Text.mem_documentTerms.2 hterm
  have hholders : ∀ term, (d.index id text).holders term =
      listed (post id (Text.documentTerms text) postings) term := by
    intro term
    rw [← hpostings]
    rfl
  refine ⟨fun id' => ?_, fun term => ?_, fun term id' => ?_⟩
  · rw [ShardDocuments.index, Assoc.get?_put, h.documents]
    split <;> rfl
  · rw [hholders]
    exact nodup_listed_post hnodup term
  · rw [hholders, mem_listed_post, hmem, h.holders, Text.mem_documentTerms]
    by_cases hid : id = id'
    · simp [hid]
    · simp [hid, Ne.symm hid]

/-! ## Scores -/

/-- Every document that is listed gets one more, and no other does. -/
theorem get?_bumps {ids : List String} (h : ids.Nodup) (scores : Assoc String UInt64) :
    (ids.foldl bump scores).get? id =
      if id ∈ ids then some ((scores.get? id).getD 0 + 1) else scores.get? id := by
  induction ids generalizing scores with
  | nil => simp
  | cons id₀ ids ih =>
    obtain ⟨hnot, hids⟩ := List.nodup_cons.1 h
    rw [List.foldl_cons, ih hids, bump, Assoc.get?_put]
    by_cases hid : id₀ = id
    · subst hid
      simp [hnot]
    · simp [hid, Ne.symm hid]

/-- A document's score is the number of terms under which it is listed. -/
theorem get?_scores (h : ∀ term, (d.holders term).Nodup) (terms : List String)
    (scores : Assoc String UInt64) :
    (terms.foldl (fun acc t => (d.holders t).foldl bump acc) scores).get? id =
      if terms.countP (id ∈ d.holders ·) = 0 then scores.get? id
      else some ((scores.get? id).getD 0 + UInt64.ofNat (terms.countP (id ∈ d.holders ·))) := by
  induction terms generalizing scores with
  | nil => simp
  | cons t terms ih =>
    rw [List.foldl_cons, ih, get?_bumps (h t), List.countP_cons]
    by_cases hid : id ∈ d.holders t
    · have hmore : ∀ n, (scores.get? id).getD 0 + 1 + UInt64.ofNat n =
          (scores.get? id).getD 0 + UInt64.ofNat (n + 1) := by
        intro n
        rw [UInt64.ofNat_add, UInt64.add_assoc, UInt64.add_comm 1]
        rfl
      by_cases hzero : terms.countP (id ∈ d.holders ·) = 0
      · simp [hid, hzero]
      · simp [hid, hzero, hmore]
    · simp [hid]

theorem nodup_keys_bumps (ids : List String) {scores : Assoc String UInt64}
    (h : scores.keys.Nodup) : (ids.foldl bump scores).keys.Nodup := by
  induction ids generalizing scores with
  | nil => exact h
  | cons id ids ih => exact ih (Assoc.nodup_keys_put h)

theorem nodup_keys_scores (d : ShardDocuments) (query : String) :
    (d.scores query).keys.Nodup := by
  have hfold : ∀ (terms : List String) (scores : Assoc String UInt64), scores.keys.Nodup →
      (terms.foldl (fun acc t => (d.holders t).foldl bump acc) scores).keys.Nodup := by
    intro terms
    induction terms with
    | nil => exact fun _ h => h
    | cons t terms ih => exact fun _ h => ih _ (nodup_keys_bumps _ h)
  exact hfold _ [] List.nodup_nil

/-- Under how many terms of a query a document is listed. -/
theorem Holds.countP_eq (h : Holds d text?) (query id : String) :
    (Text.queryTerms query).countP (id ∈ d.holders ·) =
      ((text? id).map (Filing.shared query)).getD 0 := by
  cases htext : text? id with
  | none =>
    refine List.countP_eq_zero.2 fun term _ hmem => ?_
    obtain ⟨text, hsome, -⟩ := (h.holders term id).1 (of_decide_eq_true hmem)
    rw [htext] at hsome
    cases hsome
  | some text =>
    have hnodup : (Text.queryTerms query).Nodup := Text.nodup_firstOccurrences _
    rw [Option.map_some, Option.getD_some, Filing.shared, List.countP_eq_length_filter,
      ← List.toFinset_card_of_nodup (hnodup.filter _)]
    congr 1
    ext term
    rw [List.mem_toFinset, List.mem_filter, Finset.mem_inter, List.mem_toFinset, List.mem_toFinset]
    refine and_congr Text.mem_queryTerms ?_
    rw [decide_eq_true_iff, h.holders]
    exact ⟨fun ⟨_, heq, hterm⟩ => Option.some.inj (htext.symm.trans heq) ▸ hterm,
      fun hterm => ⟨text, htext, hterm⟩⟩

/-- The score of a document, if it matches. -/
theorem Holds.get?_scores_eq (h : Holds d text?) (query id : String) :
    (d.scores query).get? id =
      ((text? id).map (Filing.shared query)).bind fun n =>
        if n = 0 then none else some (UInt64.ofNat n) := by
  rw [scores, get?_scores h.nodup, h.countP_eq]
  cases text? id with
  | none => rfl
  | some text => simp

end ShardDocuments

/-! ## What a search finds -/

namespace Filing

variable {filings : List Filing} {shard : Shard} {query : String}

/-- The latest filing of a document is its text. -/
theorem text?_concat (f : Filing) (id : String) :
    text? (filings ++ [f]) shard id =
      if f.shard = shard ∧ f.id = id then some f.text else text? filings shard id := by
  rw [text?, List.filter_append, List.filter_singleton]
  by_cases h : f.shard = shard ∧ f.id = id
  · simp [h]
  · simp [h, text?]

theorem mem_ids_of_text? {id text : String} (h : text? filings shard id = some text) :
    id ∈ ids filings shard := by
  obtain ⟨f, hf, -⟩ := Option.map_eq_some_iff.1 h
  have hmem := List.mem_filter.1 (List.mem_of_getLast? hf)
  obtain ⟨hshard, hid⟩ := of_decide_eq_true hmem.2
  rw [ids, List.mem_eraseDups, ← hid]
  exact List.mem_map_of_mem (List.mem_filter.2 ⟨hmem.1, decide_eq_true hshard⟩)

theorem rank?_eq_some {id : String} {rank : Rank} :
    rank? filings shard query id = some rank ↔
      rank.2 = id ∧ (((text? filings shard id).map (shared query)).bind fun n =>
        if n = 0 then none else some (UInt64.ofNat n)) = some rank.1 := by
  rw [rank?]
  cases (text? filings shard id).map (shared query) with
  | none => simp
  | some n =>
    rw [Option.bind_some, Option.bind_some]
    by_cases hn : n = 0
    · simp [hn]
    · rw [if_neg hn, if_neg hn, Option.some.injEq, Option.some.injEq, Prod.ext_iff]
      exact ⟨fun h => ⟨h.2.symm, h.1⟩, fun h => ⟨h.2, h.1.symm⟩⟩

theorem mem_ranks {rank : Rank} :
    rank ∈ ranks filings shard query ↔ rank? filings shard query rank.2 = some rank := by
  rw [ranks, List.mem_filterMap]
  constructor
  · rintro ⟨id, -, h⟩
    rwa [(rank?_eq_some.1 h).1]
  · intro h
    refine ⟨rank.2, ?_, h⟩
    obtain ⟨n, hn, -⟩ := Option.bind_eq_some_iff.1 (rank?_eq_some.1 h).2
    obtain ⟨text, htext, -⟩ := Option.map_eq_some_iff.1 hn
    exact mem_ids_of_text? htext

/-- No document has two ranks. -/
theorem nodup_ranks : (ranks filings shard query).Nodup := by
  refine (Lists.nodup_eraseDups _).filterMap fun id id' rank h h' => ?_
  rw [← (rank?_eq_some.1 h).1, (rank?_eq_some.1 h').1]

end Filing

namespace ShardIndex

variable {filings : List Filing} {shard : Shard}

/-- Every shard holds its documents. -/
theorem holds_ofFilings (filings : List Filing) (shard : Shard) :
    (((ofFilings filings).documents? shard).getD .empty).Holds (Filing.text? filings shard) := by
  induction filings using List.reverseRecOn with
  | nil => exact ShardDocuments.holds_empty
  | append_singleton filings f ih =>
    have hindex : ofFilings (filings ++ [f]) = (ofFilings filings).index f.shard f.id f.text := by
      rw [ofFilings, List.foldl_append]
      rfl
    rw [hindex, documents?, index, Assoc.get?_put]
    by_cases hshard : f.shard = shard
    · subst hshard
      have htext : Filing.text? (filings ++ [f]) f.shard = fun id =>
          if f.id = id then some f.text else Filing.text? filings f.shard id := by
        funext id
        simp [Filing.text?_concat]
      rw [if_pos rfl, Option.getD_some, htext]
      exact ih.index f.id f.text
    · have htext : Filing.text? (filings ++ [f]) shard = Filing.text? filings shard := by
        funext id
        simp [Filing.text?_concat, hshard]
      rw [if_neg hshard, htext]
      exact ih

/-- A search of an index is one of the documents of its shard. -/
theorem search_eq (ix : ShardIndex) (text : String) (limit : UInt64) :
    ix.search shard text limit =
      ((ix.documents? shard).getD .empty).search shard text limit := by
  rw [search]
  cases ix.documents? shard with
  | some d => rfl
  | none => simp [ShardDocuments.search, ShardDocuments.scores, ShardDocuments.holders,
      ShardDocuments.empty, ShardHits.empty]

/-- A search finds the documents that match, and lists the best of them. -/
theorem search_ofFilings (filings : List Filing) (shard : Shard) (query : String)
    (limit : UInt64) :
    ((ofFilings filings).search shard query limit).totalResults =
        UInt64.ofNat (Filing.ranks filings shard query).length ∧
    ((ofFilings filings).search shard query limit).hits.map SearchHit.rank =
        (Rank.sort (Filing.ranks filings shard query)).take limit.toNat := by
  have hholds := holds_ofFilings filings shard
  rw [search_eq, ShardDocuments.search]
  generalize ((ofFilings filings).documents? shard).getD .empty = d at hholds
  have hkeys := ShardDocuments.nodup_keys_scores d query
  -- the scores are the ranks, in some order
  have hperm : (((d.scores query).map fun entry =>
      (⟨entry.1, entry.2, shard⟩ : SearchHit)).map SearchHit.rank).Perm
        (Filing.ranks filings shard query) := by
    rw [List.map_map]
    refine (List.perm_ext_iff_of_nodup ?_ Filing.nodup_ranks).2 fun rank => ?_
    · exact hkeys.of_map.map fun a b h => Prod.ext (Prod.mk.inj h).2 (Prod.mk.inj h).1
    · rw [Filing.mem_ranks, Filing.rank?_eq_some, ← hholds.get?_scores_eq, List.mem_map]
      constructor
      · rintro ⟨⟨id, score⟩, hmem, rfl⟩
        exact ⟨rfl, Assoc.get?_of_mem hkeys hmem⟩
      · rintro ⟨-, hget⟩
        exact ⟨(rank.2, rank.1), Assoc.mem_of_get? hget, rfl⟩
  constructor
  · rw [← hperm.length_eq, List.length_map]
    exact congrArg UInt64.ofNat (List.length_mergeSort _)
  · rw [List.map_take, SearchHit.map_rank_mergeSort, Rank.sort_eq_of_perm hperm]

end ShardIndex

end ScatterSearch
