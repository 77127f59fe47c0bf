import Mathlib.Data.List.TakeWhile
import ScatterSearch.Text.Words

/-!
# Words and terms

A text is read from left to right, but where its words stand can be said without that: a word is a
run of letters and numbers that none comes directly before or after (`WordAt`). A text may be cut
wherever no letter meets a letter, and its words are those of the parts (`words_append_of_head`,
`words_append_of_getLast`); so what is read are the words that stand in the text, in their order
(`WordAt.words_eq`, `exists_wordAt`).

The terms of a text are the lower case of its long words, and a query lists each of them where the
first of its words stands (`terms_of_long_words`).
-/

namespace ScatterSearch.Text

/-- A word where it stands in a text: a run of letters and numbers, with none directly before or
after it. -/
structure WordAt (text before word after : List Char) : Prop where
  split : text = before ++ (word ++ after)
  nonempty : word ≠ []
  letters : ∀ c ∈ word, isWordChar c = true
  starts : ∀ c ∈ before.getLast?, isWordChar c = false
  ends : ∀ c ∈ after.head?, isWordChar c = false

/-- A word that counts, by its length as it stands. -/
structure LongWordAt (text before word after : List Char) : Prop extends
    WordAt text before word after where
  long : 2 < word.length

/-- The first word of one term stands before all words of another. -/
def StandsBefore (text : List Char) (term term' : String) : Prop :=
  ∃ before word after, LongWordAt text before word after ∧ term = String.ofList (lower word) ∧
    ∀ before' word' after', LongWordAt text before' word' after' →
      term' = String.ofList (lower word') → before.length < before'.length

/-! ## What is read -/

variable {text before word after xs ys : List Char} {w : List Char} {ws vs : List (List Char)}

/-- A text that does not go on with a letter ends the word. -/
theorem wordsFrom_append (h : ∀ c ∈ ys.head?, isWordChar c = false) (word xs : List Char) :
    wordsFrom word (xs ++ ys) = wordsFrom word xs ++ words ys := by
  induction xs generalizing word with
  | nil =>
    cases ys with
    | nil => simp [words, wordsFrom]
    | cons c ys =>
      have hc : isWordChar c = false := h c rfl
      simp only [List.nil_append, words, wordsFrom, hc, Bool.false_eq_true, if_false,
        List.isEmpty_nil, if_true]
      split <;> rfl
  | cons c xs ih =>
    rw [List.cons_append, wordsFrom, wordsFrom]
    split
    · exact ih _
    · split
      · exact ih _
      · rw [ih, List.cons_append]

/-- Words of two texts are those of both, if the second starts with no letter. -/
theorem words_append_of_head (h : ∀ c ∈ ys.head?, isWordChar c = false) :
    words (xs ++ ys) = words xs ++ words ys := wordsFrom_append h [] xs

theorem words_nil : words [] = [] := rfl

/-- What is no letter is passed over. -/
theorem words_cons (c : Char) (hc : isWordChar c = false) : words (c :: xs) = words xs := by
  rw [words, wordsFrom, if_neg (by simp [hc]), if_pos (by rfl), words]

/-- Words of two texts are those of both, if the first ends with no letter. -/
theorem words_append_of_getLast (h : ∀ c ∈ xs.getLast?, isWordChar c = false) :
    words (xs ++ ys) = words xs ++ words ys := by
  rcases List.eq_nil_or_concat xs with rfl | ⟨xs, c, rfl⟩
  · rfl
  · rw [List.concat_eq_append] at h ⊢
    have hc : isWordChar c = false := h c List.getLast?_concat
    have hcut : ∀ d ∈ (c :: ys).head?, isWordChar d = false := by simpa using hc
    have hlast : ∀ d ∈ [c].head?, isWordChar d = false := by simpa using hc
    calc words (xs ++ [c] ++ ys)
        = words xs ++ words (c :: ys) := by
          rw [List.append_assoc, List.singleton_append, words_append_of_head hcut]
      _ = words (xs ++ [c]) ++ words ys := by
          rw [words_append_of_head hlast, words_cons c hc, words_cons c hc, words_nil,
            List.append_nil]

/-- Letters alone are one word. -/
theorem wordsFrom_of_letters (h : ∀ c ∈ xs, isWordChar c = true) (hne : word.reverse ++ xs ≠ []) :
    wordsFrom word xs = [word.reverse ++ xs] := by
  induction xs generalizing word with
  | nil =>
    rw [List.append_nil] at hne ⊢
    rw [wordsFrom, if_neg (by simpa using hne)]
  | cons c xs ih =>
    obtain ⟨hc, hxs⟩ := List.forall_mem_cons.1 h
    rw [wordsFrom, if_pos hc, ih hxs (by simp), List.reverse_cons, List.append_assoc,
      List.singleton_append]

theorem words_of_letters (h : ∀ c ∈ xs, isWordChar c = true) (hne : xs ≠ []) :
    words xs = [xs] := by
  have hnil : ([] : List Char).reverse ++ xs ≠ [] := hne
  exact wordsFrom_of_letters h hnil

/-- A word that stands in a text is among its words, between those before and after. -/
theorem WordAt.words_eq (h : WordAt text before word after) :
    words text = words before ++ word :: words after := by
  rw [h.split, words_append_of_getLast h.starts, words_append_of_head h.ends,
    words_of_letters h.letters h.nonempty, List.singleton_append]

/-- The word that is read first has no other before it. -/
theorem exists_first (h : words text = w :: ws) :
    ∃ gap after, WordAt text gap w after ∧ words gap = [] ∧ words after = ws := by
  induction text with
  | nil => cases h
  | cons c text ih =>
    by_cases hc : isWordChar c = true
    · have hafter : ∀ d ∈ ((c :: text).dropWhile isWordChar).head?, isWordChar d = false := by
        intro d hd
        have hnot := List.head?_dropWhile_not isWordChar (c :: text)
        rw [hd] at hnot
        exact hnot
      have hword : WordAt (c :: text) [] ((c :: text).takeWhile isWordChar)
          ((c :: text).dropWhile isWordChar) :=
        ⟨List.takeWhile_append_dropWhile.symm, by simp [hc], fun d => List.mem_takeWhile_imp,
          by simp, hafter⟩
      rw [hword.words_eq] at h
      obtain ⟨rfl, rfl⟩ := List.cons.inj h
      exact ⟨[], _, hword, rfl, rfl⟩
    · have hc : isWordChar c = false := Bool.not_eq_true _ ▸ hc
      rw [words_cons c hc] at h
      obtain ⟨gap, after, hw, hgap, hafter⟩ := ih h
      refine ⟨c :: gap, after, ⟨congrArg (c :: ·) hw.split, hw.nonempty, hw.letters, ?_, hw.ends⟩,
        (words_cons c hc).trans hgap, hafter⟩
      cases gap with
      | nil => simpa using hc
      | cons d gap => simpa using hw.starts

/-- Each word that is read stands in the text, behind those that are read before it. -/
theorem exists_wordAt (h : words text = vs ++ w :: ws) :
    ∃ before after, WordAt text before w after ∧ words before = vs ∧ words after = ws := by
  induction vs generalizing text with
  | nil => exact exists_first h
  | cons v vs ih =>
    obtain ⟨gap, tail, hv, hgap, htail⟩ := exists_first h
    obtain ⟨before, after, hw, rfl, rfl⟩ := ih htail
    cases before with
    | nil =>
      -- otherwise the first word would have gone on
      obtain ⟨c, w', rfl⟩ := List.exists_cons_of_ne_nil hw.nonempty
      have hletter := hw.letters c List.mem_cons_self
      rw [hv.ends c (by rw [hw.split]; rfl)] at hletter
      cases hletter
    | cons d before =>
      have hcut : ∀ c ∈ (d :: before).head?, isWordChar c = false := by
        intro c hc
        exact hv.ends c (by rw [hw.split]; exact hc)
      have hlast : (gap ++ (v ++ d :: before)).getLast? = (d :: before).getLast? := by
        rw [List.getLast?_append, List.getLast?_append, List.getLast?_cons]
        rfl
      refine ⟨gap ++ (v ++ d :: before), after, ⟨?_, hw.nonempty, hw.letters, ?_, hw.ends⟩, ?_, rfl⟩
      · rw [hv.split, hw.split]
        simp only [List.append_assoc]
      · rw [hlast]
        exact hw.starts
      · rw [words_append_of_getLast hv.starts, hgap, words_append_of_head hcut,
          words_of_letters hv.letters hv.nonempty]
        rfl

/-- Words are what stands in the text as words. -/
theorem mem_words : w ∈ words text ↔ ∃ before after, WordAt text before w after := by
  constructor
  · intro h
    obtain ⟨vs, ws, hsplit⟩ := List.append_of_mem h
    obtain ⟨before, after, hw, -, -⟩ := exists_wordAt hsplit
    exact ⟨before, after, hw⟩
  · rintro ⟨before, after, hw⟩
    rw [hw.words_eq]
    exact List.mem_append_right _ List.mem_cons_self

/-- There are no more words in a text than characters, but for a word that is being read. -/
theorem length_wordsFrom_le (word cs : List Char) :
    (wordsFrom word cs).length ≤ cs.length + if word.isEmpty then 0 else 1 := by
  induction cs generalizing word with
  | nil =>
    rw [wordsFrom]
    split <;> simp
  | cons c cs ih =>
    rw [wordsFrom, List.length_cons]
    split
    · exact Nat.le_trans (ih _) (by simp)
    · have hrest : (wordsFrom [] cs).length ≤ cs.length := ih []
      split
      · exact Nat.le_trans hrest (by simp)
      · exact Nat.succ_le_succ (Nat.le_succ_of_le hrest)

/-! ## Terms -/

/-- The terms that words give. -/
def termsOf (ws : List (List Char)) : List String :=
  (ws.filter fun w => shortWord < w.length).map fun w => String.ofList (lower w)

theorem terms_eq (text : String) : terms text = termsOf (words text.toList) := rfl

/-- The terms of words are those of each, in order. -/
theorem termsOf_append : termsOf (vs ++ ws) = termsOf vs ++ termsOf ws := by
  rw [termsOf, List.filter_append, List.map_append]
  rfl

/-- A long word is a term, in lower case. -/
theorem termsOf_cons (h : 2 < w.length) :
    termsOf (w :: ws) = String.ofList (lower w) :: termsOf ws := by
  have hlong : decide (shortWord < w.length) = true := decide_eq_true h
  simp only [termsOf, List.filter_cons, hlong, if_true, List.map_cons]

/-- Terms are long words in lower case. -/
theorem mem_termsOf {term : String} :
    term ∈ termsOf ws ↔ ∃ w ∈ ws, 2 < w.length ∧ term = String.ofList (lower w) := by
  rw [termsOf, List.mem_map]
  constructor
  · rintro ⟨w, hw, rfl⟩
    obtain ⟨hmem, hlong⟩ := List.mem_filter.1 hw
    exact ⟨w, hmem, of_decide_eq_true hlong, rfl⟩
  · rintro ⟨w, hmem, hlong, rfl⟩
    exact ⟨w, List.mem_filter.2 ⟨hmem, decide_eq_true hlong⟩, rfl⟩

/-- A term that comes after others is of a word that comes after theirs. -/
theorem termsOf_eq_append {earlier later : List String} {term : String}
    (h : termsOf ws = earlier ++ term :: later) :
    ∃ vs w vs', ws = vs ++ w :: vs' ∧ 2 < w.length ∧ term = String.ofList (lower w) ∧
      termsOf vs = earlier := by
  obtain ⟨kept, rest, hkept, hearlier, hrest⟩ := List.map_eq_append_iff.1 h
  obtain ⟨w, kept', rfl, hterm, -⟩ := List.map_eq_cons_iff.1 hrest
  obtain ⟨vs, tail, rfl, rfl, htail⟩ := List.filter_eq_append_iff.1 hkept
  obtain ⟨skipped, vs', rfl, hskipped, hlong, -⟩ := List.filter_eq_cons_iff.1 htail
  refine ⟨vs ++ skipped, w, vs', by simp, of_decide_eq_true hlong, hterm.symm, ?_⟩
  rw [termsOf_append, ← hearlier, termsOf, termsOf, List.filter_eq_nil_iff.2 hskipped]
  simp

/-- Terms are the long words of the text in lower case. -/
theorem mem_terms {text term : String} : term ∈ terms text ↔
    ∃ before word after, LongWordAt text.toList before word after ∧
      term = String.ofList (lower word) := by
  rw [terms_eq, mem_termsOf]
  constructor
  · rintro ⟨w, hw, hlong, rfl⟩
    obtain ⟨before, after, hw⟩ := mem_words.1 hw
    exact ⟨before, w, after, ⟨hw, hlong⟩, rfl⟩
  · rintro ⟨before, w, after, hw, rfl⟩
    exact ⟨w, mem_words.2 ⟨before, after, hw.toWordAt⟩, hw.long, rfl⟩

/-- There are no more terms than characters. -/
theorem length_terms_le (text : String) : (terms text).length ≤ text.length := by
  rw [terms, List.length_map]
  exact Nat.le_trans (List.length_filter_le _ _) (length_wordsFrom_le [] text.toList)

/-- The first occurrences are all that occurs. -/
theorem mem_firstOccurrences {α : Type} [DecidableEq α] {a : α} {xs : List α} :
    a ∈ firstOccurrences xs ↔ a ∈ xs := by
  induction xs with
  | nil => rfl
  | cons x xs ih =>
    rw [firstOccurrences, List.mem_cons, List.mem_cons, List.mem_filter, ih]
    by_cases h : a = x <;> simp [h]

/-- Each occurs first once. -/
theorem nodup_firstOccurrences {α : Type} [DecidableEq α] (xs : List α) :
    (firstOccurrences xs).Nodup := by
  induction xs with
  | nil => exact List.nodup_nil
  | cons x xs ih => exact List.nodup_cons.2 ⟨by simp, ih.filter _⟩

theorem firstOccurrences_eq_singleton {α : Type} [DecidableEq α] {a : α} {xs : List α}
    (h : xs = [a]) : firstOccurrences xs = [a] := by
  rw [h]
  rfl

theorem mem_documentTerms {text term : String} : term ∈ documentTerms text ↔ term ∈ terms text :=
  mem_firstOccurrences

theorem mem_queryTerms {text term : String} : term ∈ queryTerms text ↔ term ∈ terms text :=
  mem_firstOccurrences

/-- What comes first among first occurrences is found before any of what comes later. -/
theorem pairwise_firstOccurrences {α : Type} [DecidableEq α] (xs : List α) :
    (firstOccurrences xs).Pairwise fun a b =>
      ∃ earlier later, xs = earlier ++ a :: later ∧ b ∉ earlier ∧ b ≠ a := by
  induction xs with
  | nil => exact List.Pairwise.nil
  | cons x xs ih =>
    refine List.pairwise_cons.2 ⟨fun b hb => ?_, ?_⟩
    · exact ⟨[], xs, rfl, List.not_mem_nil, by simpa using (List.mem_filter.1 hb).2⟩
    · refine (ih.filter _).imp_of_mem fun {a b} _ hb hab => ?_
      obtain ⟨earlier, later, rfl, hnot, hne⟩ := hab
      have hbx : b ≠ x := by simpa using (List.mem_filter.1 hb).2
      exact ⟨x :: earlier, later, rfl, by simp [hbx, hnot], hne⟩

/-- A word does not stand before those that are read before it. -/
theorem WordAt.length_lt {before' word' after' : List Char} (h : WordAt text before word after)
    (h' : WordAt text before' word' after') (hne : word' ≠ word) (hnot : word' ∉ words before) :
    before.length < before'.length := by
  refine Nat.lt_of_not_le fun hle => ?_
  obtain ⟨rest, rfl⟩ : before' <+: before :=
    List.prefix_of_prefix_length_le ⟨_, h'.split.symm⟩ ⟨_, h.split.symm⟩ hle
  have hbefore : words (before' ++ rest) = words before' ++ words rest :=
    words_append_of_getLast h'.starts
  have hwords : word' :: words after' = words rest ++ word :: words after := by
    have htext := h'.words_eq.symm.trans h.words_eq
    rw [hbefore, List.append_assoc] at htext
    exact List.append_cancel_left htext
  cases hrest : words rest with
  | nil =>
    rw [hrest] at hwords
    exact hne (List.cons.inj hwords).1
  | cons v vs =>
    rw [hrest] at hwords
    rw [hbefore, hrest, ← (List.cons.inj hwords).1] at hnot
    exact hnot (List.mem_append_right _ List.mem_cons_self)

/-- The terms of a query come in the order in which they first stand in it. -/
theorem pairwise_queryTerms (text : String) :
    (queryTerms text).Pairwise (StandsBefore text.toList) := by
  refine (pairwise_firstOccurrences (terms text)).imp fun {term term'} h => ?_
  obtain ⟨earlier, later, hterms, hnot, hne⟩ := h
  obtain ⟨vs, word, ws, hwords, hlong, rfl, rfl⟩ := termsOf_eq_append hterms
  obtain ⟨before, after, hword, rfl, rfl⟩ := exists_wordAt hwords
  refine ⟨before, word, after, ⟨hword, hlong⟩, rfl, ?_⟩
  rintro before' word' after' hword' rfl
  refine hword.length_lt hword'.toWordAt ?_ ?_
  · exact fun heq => hne (congrArg (String.ofList <| lower ·) heq)
  · exact fun hmem => hnot (mem_termsOf.2 ⟨word', hmem, hword'.long, rfl⟩)

/-- The terms of a document are the lower case of the long words that stand in its text, whatever
else is there. A query asks for the same terms, each once, in the order of their first words. -/
theorem terms_of_long_words (text : String) :
    (∀ term, term ∈ documentTerms text ↔
      ∃ before word after, LongWordAt text.toList before word after ∧
        term = String.ofList (lower word)) ∧
    (documentTerms text).Nodup ∧
    (∀ term, term ∈ queryTerms text ↔ term ∈ documentTerms text) ∧
    (queryTerms text).Nodup ∧
    (queryTerms text).Pairwise (StandsBefore text.toList) := by
  refine ⟨fun term => mem_documentTerms.trans mem_terms, nodup_firstOccurrences _, fun term => ?_,
    nodup_firstOccurrences _, pairwise_queryTerms text⟩
  rw [mem_queryTerms, mem_documentTerms]

example : queryTerms "Rust, so RUST async!" = ["rust", "async"] := by decide +kernel

end ScatterSearch.Text
