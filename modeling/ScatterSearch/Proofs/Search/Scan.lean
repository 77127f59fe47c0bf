import ScatterSearch.Proofs.Search.Index

/-!
# An index answers like a scan

Somebody who only keeps the texts, and reads all of a shard's documents for every query, finds what
an index finds: `Filing.Scan` says what that is, without postings, and leaves one list for it. A
search gives its length and its beginning (`ShardIndex.search_scans`).

Scores and totals are words of 64 bits. As long as queries have fewer characters, and shards fewer
documents, than there are such words, they are the numbers themselves (`Filing.toNat_shared`,
`Filing.Scan.length_le`).
-/

namespace ScatterSearch

namespace Filing

variable {filings : List Filing} {shard : Shard} {query text : String}

/-- What a scan of the documents of a shard finds: those whose current text has terms of the query,
each with the number of these, the highest number first, and of equal numbers the smaller id. -/
structure Scan (filings : List Filing) (shard : Shard) (query : String) (found : List SearchHit) :
    Prop where
  mem : ∀ hit, hit ∈ found ↔ hit.shard = shard ∧ ∃ text, text? filings shard hit.id = some text ∧
    (∃ term ∈ Text.documentTerms text, term ∈ Text.queryTerms query) ∧
    hit.score = UInt64.ofNat (shared query text)
  nodup : (found.map (·.id)).Nodup
  sorted : found.Pairwise fun a b => b.score < a.score ∨ a.score = b.score ∧ a.id < b.id

theorem shared_ne_zero : shared query text ≠ 0 ↔
    ∃ term ∈ Text.documentTerms text, term ∈ Text.queryTerms query := by
  rw [shared, Finset.card_ne_zero]
  refine exists_congr fun term => ?_
  rw [Finset.mem_inter, List.mem_toFinset, List.mem_toFinset, Text.mem_documentTerms,
    Text.mem_queryTerms, and_comm]

/-- A query with fewer characters than there are words of 64 bits has fewer terms. -/
theorem toNat_shared (h : query.length < UInt64.size) (text : String) :
    (UInt64.ofNat (shared query text)).toNat = shared query text := by
  refine UInt64.toNat_ofNat_of_lt' (Nat.lt_of_le_of_lt ?_ h)
  calc shared query text
      ≤ (Text.terms query).toFinset.card := Finset.card_le_card Finset.inter_subset_left
    _ ≤ (Text.terms query).length := List.toFinset_card_le _
    _ ≤ query.length := Text.length_terms_le query

theorem isSome_text? {id : String} :
    (∃ text, text? filings shard id = some text) ↔ id ∈ ids filings shard := by
  refine ⟨fun ⟨text, htext⟩ => mem_ids_of_text? htext, fun hid => ?_⟩
  rw [ids, List.mem_eraseDups] at hid
  obtain ⟨f, hf, rfl⟩ := List.mem_map.1 hid
  obtain ⟨hmem, hshard⟩ := List.mem_filter.1 hf
  have hmatch : f ∈ filings.filter fun g => g.shard = shard ∧ g.id = f.id :=
    List.mem_filter.2 ⟨hmem, decide_eq_true ⟨of_decide_eq_true hshard, rfl⟩⟩
  exact ⟨_, congrArg (Option.map _)
    (List.getLast?_eq_getLast_of_ne_nil (List.ne_nil_of_mem hmatch))⟩

/-- Of every document that is found something was given. -/
theorem Scan.length_le {found : List SearchHit} (h : Scan filings shard query found) :
    found.length ≤ filings.length := by
  have hsub : found.map (·.id) ⊆ filings.map (·.id) := by
    intro id hid
    obtain ⟨hit, hhit, rfl⟩ := List.mem_map.1 hid
    obtain ⟨-, text, htext, -⟩ := (h.mem hit).1 hhit
    have hmem := mem_ids_of_text? htext
    rw [ids, List.mem_eraseDups] at hmem
    exact List.map_subset _ (List.filter_subset_self _) hmem
  simpa using (h.nodup.subperm hsub).length_le

end Filing

namespace ShardDocuments

variable {d : ShardDocuments} {filings : List Filing} {shard : Shard}

/-- What a search of a shard finds, before the best are taken. -/
def found (d : ShardDocuments) (shard : Shard) (query : String) : List SearchHit :=
  ((d.scores query).map fun (id, score) => (⟨id, score, shard⟩ : SearchHit)).mergeSort
    SearchHit.ranksBefore

theorem search_eq_found (d : ShardDocuments) (shard : Shard) (query : String) (limit : UInt64) :
    d.search shard query limit =
      ⟨UInt64.ofNat (d.found shard query).length, (d.found shard query).take limit.toNat⟩ := rfl

/-- A shard that holds some documents finds what a scan of them finds. -/
theorem Holds.scan (h : d.Holds (Filing.text? filings shard)) (query : String) :
    Filing.Scan filings shard query (d.found shard query) := by
  have hkeys := nodup_keys_scores d query
  have hperm : (d.found shard query).Perm
      ((d.scores query).map fun entry => (⟨entry.1, entry.2, shard⟩ : SearchHit)) :=
    List.mergeSort_perm _ _
  have hnodup : ((d.found shard query).map (·.id)).Nodup := by
    refine (hperm.map _).nodup_iff.2 ?_
    rw [List.map_map]
    exact hkeys
  refine ⟨fun hit => ?mem, hnodup, ?sorted⟩
  case mem =>
    have hscore : hit ∈ d.found shard query ↔
        hit.shard = shard ∧ (d.scores query).get? hit.id = some hit.score := by
      rw [hperm.mem_iff, List.mem_map]
      constructor
      · rintro ⟨⟨id, score⟩, hmem, rfl⟩
        exact ⟨rfl, Assoc.get?_of_mem hkeys hmem⟩
      · rintro ⟨rfl, hget⟩
        exact ⟨(hit.id, hit.score), Assoc.mem_of_get? hget, rfl⟩
    rw [hscore, h.get?_scores_eq]
    refine and_congr_right fun _ => ?_
    cases Filing.text? filings shard hit.id with
    | none => simp
    | some text =>
      simp only [Option.map_some, Option.bind_some, Option.some.injEq, exists_eq_left',
        ← Filing.shared_ne_zero]
      by_cases hzero : Filing.shared query text = 0
      · simp [hzero]
      · simp [hzero, eq_comm]
  case sorted =>
    have hranked : (d.found shard query).Pairwise fun a b => SearchHit.ranksBefore a b = true :=
      List.pairwise_mergeSort (fun a b c => Rank.le_trans a.rank b.rank c.rank)
        (fun a b => Rank.le_total a.rank b.rank) _
    refine (hranked.and (List.pairwise_map.1 hnodup)).imp fun {a b} ⟨hle, hne⟩ => ?_
    have hle : Rank.le a.rank b.rank = true := hle
    rcases Rank.le_iff.1 hle with hscore | ⟨hscore, hid⟩
    · exact .inl hscore
    · exact .inr ⟨hscore, String.not_le.1 fun hge => hne (String.le_antisymm hid hge)⟩

end ShardDocuments

namespace ShardIndex

variable {shard : Shard}

theorem ofFilings_concat (filings : List Filing) (f : Filing) :
    ofFilings (filings ++ [f]) = (ofFilings filings).index f.shard f.id f.text := by
  rw [ofFilings, List.foldl_append]
  rfl

/-- What is given to a shard changes that shard only. -/
theorem documents?_index (ix : ShardIndex) (f : Filing) :
    (ix.index f.shard f.id f.text).documents? shard =
      if f.shard = shard then some (((ix.documents? shard).getD .empty).index f.id f.text)
      else ix.documents? shard := by
  rw [documents?, index, Assoc.get?_put]
  split
  · rename_i hshard
    rw [hshard]
  · rfl

/-- A shard depends on what was given to it, and on nothing else. -/
theorem documents?_filter (filings : List Filing) (shard : Shard) :
    (ofFilings (filings.filter (·.shard = shard))).documents? shard =
      (ofFilings filings).documents? shard := by
  induction filings using List.reverseRecOn with
  | nil => rfl
  | append_singleton filings f ih =>
    rw [ofFilings_concat, documents?_index, List.filter_append, List.filter_singleton]
    by_cases hshard : f.shard = shard
    · rw [decide_eq_true hshard, cond_true, ofFilings_concat, documents?_index, if_pos hshard,
        if_pos hshard, ih]
    · rw [decide_eq_false hshard, cond_false, List.append_nil, if_neg hshard, ih]

/-- A shard has each of its documents once. -/
theorem nodup_keys_documents (filings : List Filing) (shard : Shard) :
    (((ofFilings filings).documents? shard).getD .empty).documents.keys.Nodup := by
  induction filings using List.reverseRecOn with
  | nil => exact List.nodup_nil
  | append_singleton filings f ih =>
    rw [ofFilings_concat, documents?_index]
    split
    · exact Assoc.nodup_keys_put ih
    · exact ih

theorem documentCount_ofFilings (filings : List Filing) (shard : Shard) :
    (ofFilings filings).documentCount shard =
      ((filings.filter (·.shard = shard)).map (·.id)).toFinset.card := by
  have hholds := holds_ofFilings filings shard
  have hnodup := nodup_keys_documents filings shard
  have hcount : (ofFilings filings).documentCount shard =
      (((ofFilings filings).documents? shard).getD .empty).documents.keys.length := by
    rw [documentCount, Assoc.keys, List.length_map]
    cases (ofFilings filings).documents? shard <;> rfl
  rw [hcount, ← List.toFinset_card_of_nodup hnodup]
  congr 1
  ext id
  rw [List.mem_toFinset, List.mem_toFinset, Assoc.mem_keys, hholds.documents,
    ← List.mem_eraseDups, ← Filing.ids, ← Filing.isSome_text?]
  cases Filing.text? filings shard id <;> simp

/-- An index answers like a scan of the current texts of a shard's documents, and counts the
documents. What was given to other shards makes no difference. -/
theorem search_scans (filings : List Filing) (shard : Shard) (query : String) (limit : UInt64) :
    (∃ found, Filing.Scan filings shard query found ∧
      (ofFilings filings).search shard query limit =
        ⟨UInt64.ofNat found.length, found.take limit.toNat⟩ ∧
      (filings.length < UInt64.size → (UInt64.ofNat found.length).toNat = found.length) ∧
      (query.length < UInt64.size → ∀ hit ∈ found, ∀ text,
        Filing.text? filings shard hit.id = some text →
          hit.score.toNat = Filing.shared query text)) ∧
    (ofFilings filings).documentCount shard =
      ((filings.filter (·.shard = shard)).map (·.id)).toFinset.card ∧
    ∀ filings', filings'.filter (·.shard = shard) = filings.filter (·.shard = shard) →
      (ofFilings filings').search shard query limit = (ofFilings filings).search shard query limit ∧
      (ofFilings filings').documentCount shard = (ofFilings filings).documentCount shard := by
  refine ⟨?scan, documentCount_ofFilings filings shard, fun filings' hsame => ?frame⟩
  case scan =>
    have hscan := (holds_ofFilings filings shard).scan query
    refine ⟨_, hscan, ?_, fun hlength => ?_, fun hlength hit hhit text htext => ?_⟩
    · rw [search_eq, ShardDocuments.search_eq_found]
    · exact UInt64.toNat_ofNat_of_lt' (Nat.lt_of_le_of_lt hscan.length_le hlength)
    · obtain ⟨-, text', htext', -, hscore⟩ := (hscan.mem hit).1 hhit
      rw [hscore, Filing.toNat_shared hlength, Option.some.inj (htext.symm.trans htext')]
  case frame =>
    have hdocuments : (ofFilings filings').documents? shard =
        (ofFilings filings).documents? shard := by
      rw [← documents?_filter filings', hsame, documents?_filter]
    refine ⟨?_, ?_⟩
    · rw [search_eq, search_eq, hdocuments]
    · rw [documentCount, documentCount, hdocuments]

/-- Documents of two shards, one of which was given again with another text. -/
def shelf : List Filing :=
  [⟨⟨"t", "0"⟩, "a", "red blue"⟩, ⟨⟨"t", "0"⟩, "b", "blue"⟩, ⟨⟨"t", "1"⟩, "c", "red"⟩,
    ⟨⟨"t", "0"⟩, "a", "green"⟩, ⟨⟨"t", "0"⟩, "d", "Blue, red and blue"⟩]

/-- The document with the new text is not found any more, but counted; the one of the other shard
does not matter. -/
theorem shelf_scanned :
    (ofFilings shelf).search ⟨"t", "0"⟩ "red blue" 1 = ⟨2, [⟨"d", 2, ⟨"t", "0"⟩⟩]⟩ ∧
    (ofFilings shelf).documentCount ⟨"t", "0"⟩ = 3 ∧
    (∃ found, Filing.Scan shelf ⟨"t", "0"⟩ "red blue" found ∧
      ∀ hit ∈ found, ∀ text, Filing.text? shelf ⟨"t", "0"⟩ hit.id = some text →
        hit.score.toNat = Filing.shared "red blue" text) ∧
    (ofFilings (shelf.eraseIdx 2)).search ⟨"t", "0"⟩ "red blue" 1 =
      (ofFilings shelf).search ⟨"t", "0"⟩ "red blue" 1 := by
  obtain ⟨⟨found, hscan, -, -, hscores⟩, -, hframe⟩ :=
    search_scans shelf ⟨"t", "0"⟩ "red blue" 1
  have hhits : (((ofFilings shelf).documents? ⟨"t", "0"⟩).getD .empty).found ⟨"t", "0"⟩ "red blue" =
      [⟨"d", 2, ⟨"t", "0"⟩⟩, ⟨"b", 1, ⟨"t", "0"⟩⟩] := by
    have hscored : (((ofFilings shelf).documents? ⟨"t", "0"⟩).getD .empty).scores "red blue" =
        [("d", 2), ("b", 1)] := by decide +kernel
    rw [ShardDocuments.found, hscored]
    exact List.mergeSort_of_pairwise (by decide +kernel)
  have hsearch : (ofFilings shelf).search ⟨"t", "0"⟩ "red blue" 1 =
      ⟨2, [⟨"d", 2, ⟨"t", "0"⟩⟩]⟩ := by
    rw [search_eq, ShardDocuments.search_eq_found, hhits]
    rfl
  exact ⟨hsearch, by decide +kernel, ⟨found, hscan, hscores (by decide +kernel)⟩,
    (hframe (shelf.eraseIdx 2) (by decide +kernel)).1⟩

end ShardIndex

end ScatterSearch
