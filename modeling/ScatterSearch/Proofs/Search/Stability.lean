import ScatterSearch.Proofs.Search.Scan
import ScatterSearch.Proofs.Text.Case

/-!
# Terms as texts

A term read as a text has itself as its only term, unless the mark that a dotted capital leaves is
in it (`Text.reads_itself_iff`): the mark is no letter, and cuts the term in parts.

Where a term reads as itself, a query for it finds every document that has it
(`Filing.found_by_term`), and it makes no difference to a text whether its word stands there as it
was or in lower case (`Text.LongWordAt.terms_lower`). `Text.term_reads_itself_iff` has all of this.
-/

namespace ScatterSearch

namespace Text

variable {text before word after : List Char}

theorem settled_of_mem_lower (h : ∀ c ∈ word, isWordChar c = true) : ∀ d ∈ lower word, Settled d :=
  settled_of_mem_lowerAfter h []

namespace LongWordAt

/-- The lower case of a word is a word in its place, if it has no mark. -/
theorem lower (h : LongWordAt text before word after) (hmark : dotMark ∉ Text.lower word) :
    LongWordAt (before ++ (Text.lower word ++ after)) before (Text.lower word) after := by
  obtain ⟨hlength, hletters⟩ :=
    word_lowerAfter h.letters (mt (mark_mem_lower_iff h.letters).2 hmark) []
  have hlong : 2 < (Text.lower word).length := hlength ▸ h.long
  exact ⟨⟨rfl, List.ne_nil_of_length_pos (by omega), hletters, h.starts, h.ends⟩, hlong⟩

theorem termsOf_eq (h : LongWordAt text before word after) : termsOf (words text) =
    termsOf (words before) ++ String.ofList (Text.lower word) :: termsOf (words after) := by
  rw [h.words_eq, termsOf_append, termsOf_cons h.long]

/-- A word may be put in lower case where it stands. -/
theorem terms_lower (h : LongWordAt text before word after) (hmark : dotMark ∉ Text.lower word) :
    terms (String.ofList (before ++ (Text.lower word ++ after))) = terms (String.ofList text) := by
  rw [terms_eq, terms_eq, String.toList_ofList, String.toList_ofList, h.termsOf_eq,
    (h.lower hmark).termsOf_eq, lower_of_settled (settled_of_mem_lower h.letters)]

end LongWordAt

/-- The mark cuts a term in parts, and none of them gives the term. -/
theorem notMem_terms_of_mark (h : ∀ c ∈ word, isWordChar c = true) (hmark : dotMark ∈ lower word) :
    String.ofList (lower word) ∉ terms (String.ofList (lower word)) := by
  intro hmem
  obtain ⟨before, part, after, hpart, heq⟩ := mem_terms.1 hmem
  rw [String.toList_ofList] at hpart
  have hsettled : ∀ c ∈ part, Settled c := by
    intro c hc
    refine settled_of_mem_lower h c ?_
    rw [hpart.split]
    exact List.mem_append_right _ (List.mem_append_left _ hc)
  rw [String.ofList_injective heq, lower_of_settled hsettled] at hmark
  have hletter := hpart.letters dotMark hmark
  rw [isWordChar_dotMark] at hletter
  cases hletter

theorem reads_itself_iff (h : LongWordAt text before word after) :
    terms (String.ofList (lower word)) = [String.ofList (lower word)] ↔ dotMark ∉ lower word := by
  refine ⟨fun hself hmark => notMem_terms_of_mark h.letters hmark ?_, fun hmark => ?_⟩
  · rw [hself]
    exact List.mem_cons_self
  · have hword := h.lower hmark
    have hwords : words (lower word) = [lower word] := words_of_letters hword.letters hword.nonempty
    rw [terms_eq, String.toList_ofList, hwords, termsOf_cons hword.long,
      lower_of_settled (settled_of_mem_lower h.letters)]
    rfl

end Text

namespace Filing

/-- A query for a term that reads as itself finds every document that has it. -/
theorem found_by_term {filings : List Filing} {shard : Shard} {id text term : String}
    (htext : text? filings shard id = some text) (hterm : term ∈ Text.terms text)
    (hself : Text.terms term = [term]) (limit : UInt64) :
    ∃ found : List SearchHit, (ShardIndex.ofFilings filings).search shard term limit =
        ⟨UInt64.ofNat found.length, found.take limit.toNat⟩ ∧
      (⟨id, 1, shard⟩ : SearchHit) ∈ found := by
  have hscan := (ShardIndex.holds_ofFilings filings shard).scan term
  have hshared : shared term text = 1 := by
    rw [shared, hself, List.toFinset_cons, List.toFinset_nil, insert_empty_eq,
      Finset.singleton_inter_of_mem (List.mem_toFinset.2 hterm), Finset.card_singleton]
  refine ⟨_, ?_, (hscan.mem _).2 ⟨rfl, text, htext, ⟨term, ?_, ?_⟩, ?_⟩⟩
  · rw [ShardIndex.search_eq, ShardDocuments.search_eq_found]
  · exact Text.mem_documentTerms.2 hterm
  · rw [Text.mem_queryTerms, hself]
    exact List.mem_cons_self
  · rw [hshared]
    rfl

end Filing

namespace Text

/-- A term is its own only term just if it has no mark, and it has one just if the words that it
comes from have a dotted capital. A term without it finds the documents that have it, and its word
can be put in lower case in the text, whose terms stay the same. -/
theorem term_reads_itself_iff (text term : String) (hterm : term ∈ documentTerms text) :
    (documentTerms term = [term] ∧ queryTerms term = [term] ↔ dotMark ∉ term.toList) ∧
    (∀ before word after, LongWordAt text.toList before word after →
      term = String.ofList (lower word) →
        (dotMark ∈ term.toList ↔ dottedCapital ∈ word) ∧
        (dotMark ∉ term.toList →
          documentTerms (String.ofList (before ++ (lower word ++ after))) = documentTerms text)) ∧
    (dotMark ∉ term.toList → ∀ filings shard id, Filing.text? filings shard id = some text →
      ∀ limit, ∃ found : List SearchHit, (ShardIndex.ofFilings filings).search shard term limit =
          ⟨UInt64.ofNat found.length, found.take limit.toNat⟩ ∧
        (⟨id, 1, shard⟩ : SearchHit) ∈ found) := by
  rw [mem_documentTerms] at hterm
  obtain ⟨before, word, after, hword, heq⟩ := mem_terms.1 hterm
  have hself : terms term = [term] ↔ dotMark ∉ term.toList := by
    rw [heq, String.toList_ofList]
    exact reads_itself_iff hword
  refine ⟨⟨fun h => ?_, fun h => ?_⟩, fun before' word' after' hword' heq' => ⟨?_, fun hmark => ?_⟩,
    fun hmark filings shard id htext limit => ?_⟩
  · intro hmark
    have hmem : term ∈ terms term := mem_documentTerms.1 (h.1 ▸ List.mem_cons_self)
    rw [heq, String.toList_ofList] at hmark
    exact notMem_terms_of_mark hword.letters hmark (heq ▸ hmem)
  · exact ⟨firstOccurrences_eq_singleton (hself.2 h), firstOccurrences_eq_singleton (hself.2 h)⟩
  · rw [heq', String.toList_ofList]
    exact mark_mem_lower_iff hword'.letters
  · rw [heq', String.toList_ofList] at hmark
    rw [documentTerms, hword'.terms_lower hmark, String.ofList_toList]
    rfl
  · exact Filing.found_by_term htext hterm (hself.2 hmark) limit

/-- The word is put in lower case as it ends, with a final sigma, and is found by that. -/
theorem final_sigma_reads_itself :
    "οδος" ∈ documentTerms "Η ΟΔΟΣ" ∧
    (documentTerms "οδος" = ["οδος"] ∧ queryTerms "οδος" = ["οδος"]) ∧
    documentTerms "Η οδος" = documentTerms "Η ΟΔΟΣ" ∧
    ∃ found : List SearchHit,
      (ShardIndex.ofFilings [⟨⟨"t", "0"⟩, "a", "Η ΟΔΟΣ"⟩]).search ⟨"t", "0"⟩ "οδος" 10 =
        ⟨UInt64.ofNat found.length, found.take (10 : UInt64).toNat⟩ ∧
      (⟨"a", 1, ⟨"t", "0"⟩⟩ : SearchHit) ∈ found := by
  have hterm : "οδος" ∈ documentTerms "Η ΟΔΟΣ" := by decide +kernel
  have hmark : dotMark ∉ "οδος".toList := by decide +kernel
  have hletters : ['Ο', 'Δ', 'Ο', 'Σ'].all isWordChar = true := by decide +kernel
  have hgap : isWordChar ' ' = false := by decide +kernel
  have hword : LongWordAt "Η ΟΔΟΣ".toList ['Η', ' '] ['Ο', 'Δ', 'Ο', 'Σ'] [] :=
    ⟨⟨by decide +kernel, by decide, List.all_eq_true.1 hletters, by simpa using hgap, by simp⟩,
      by decide⟩
  have hlower : "οδος" = String.ofList (lower ['Ο', 'Δ', 'Ο', 'Σ']) := by decide +kernel
  have hplace : "Η οδος" = String.ofList (['Η', ' '] ++ (lower ['Ο', 'Δ', 'Ο', 'Σ'] ++ [])) := by
    decide +kernel
  obtain ⟨hself, hwords, hfound⟩ := term_reads_itself_iff "Η ΟΔΟΣ" "οδος" hterm
  refine ⟨hterm, hself.2 hmark, ?_, hfound hmark _ _ _ (by decide +kernel) 10⟩
  rw [hplace]
  exact (hwords _ _ _ hword hlower).2 hmark

/-- The mark of a dotted capital is the second character of this term. -/
theorem marked_reads_otherwise :
    "i\u0307stanbul" ∈ documentTerms "\u0130stanbul" ∧
    documentTerms "i\u0307stanbul" = ["stanbul"] ∧ queryTerms "i\u0307stanbul" = ["stanbul"] := by
  decide +kernel

end Text

end ScatterSearch
