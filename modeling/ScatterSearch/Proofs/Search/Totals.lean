import Mathlib.Algebra.GroupWithZero.Nat
import ScatterSearch.Proofs.Merge.FirstEvent
import ScatterSearch.Proofs.Search.Ranking

/-!
# The number of results

The number of results of a search is a word of 64 bits, and shards may report any such word. A part
can be added as long as the sum stays a word, and then the number is the exact sum of what the parts
report; the part with which the sum leaves the words makes the program panic (`fold?_search`). So
one condition on the whole sum, that it is a word, decides whether there is an exact number after
each part, and also whether there is one that never decreases (`exact_iff_climbs_iff_fits`).

A merge compares this number with the one that it was asked for. A part that would bring more than
enough results, and more than a word holds, does not end the merge well but makes it panic
(`overflowing_panics`).
-/

namespace ScatterSearch

/-- How many results the parts stand for. -/
def ShardHits.found (parts : List ShardHits) : Nat :=
  (parts.map fun part => part.totalResults.toNat).sum

namespace ShardHits

variable {parts taken : List ShardHits} {part : ShardHits}

theorem found_concat : found (parts ++ [part]) = found parts + part.totalResults.toNat := by
  rw [found, List.map_append, List.sum_append, List.map_singleton, List.sum_singleton]
  rfl

/-- What was found at first is found. -/
theorem found_le_of_start (h : taken <+: parts) : found taken ≤ found parts := by
  obtain ⟨later, rfl⟩ := h
  rw [found, found, List.map_append, List.sum_append]
  exact Nat.le_add_right _ _

end ShardHits

namespace Accumulator

open ShardHits

/-- After each of the parts there is a number of results, and it is that of the parts so far. -/
def Exact (parts : List ShardHits) : Prop :=
  ∀ taken, taken <+: parts →
    ∃ r, search.fold? taken = some r ∧ (search.total r).toNat = found taken

/-- With each of the parts there is a number of results, which is no smaller than before. -/
def Climbs (parts : List ShardHits) : Prop :=
  ∀ taken part, taken ++ [part] <+: parts → ∃ before after, search.fold? taken = some before ∧
    search.fold? (taken ++ [part]) = some after ∧ search.total before ≤ search.total after

variable {parts : List ShardHits}

/-! ## One part more -/

/-- One more part is added at the end, if it can be. -/
theorem fold?_concat {α π : Type} (acc : Accumulator α π) (parts : List π) (part : π) :
    acc.fold? (parts ++ [part]) = (acc.fold? parts).bind fun a => acc.add? a part := by
  simp only [fold?, List.foldlM_append, List.foldlM_cons, List.foldlM_nil, bind_pure]
  rfl

/-- One more part is counted at the end. -/
theorem total_concat (parts : List ShardHits) (part : ShardHits) :
    search.total (search.fold (parts ++ [part])) =
      search.total (search.fold parts) + part.totalResults := by
  rw [search_concat]
  rfl

/-! ## All parts -/

/-- What the number of results would be if arithmetic were not checked. -/
theorem toNat_total_fold (parts : List ShardHits) :
    (search.total (search.fold parts)).toNat = found parts % 2 ^ 64 := by
  induction parts using List.reverseRecOn with
  | nil => rfl
  | append_singleton parts part ih =>
    rw [total_concat, UInt64.toNat_add, ih, found_concat, Nat.mod_add_mod]

theorem toNat_total_of_fits (h : found parts < 2 ^ 64) :
    (search.total (search.fold parts)).toNat = found parts := by
  rw [toNat_total_fold, Nat.mod_eq_of_lt h]

/-- A part can be added exactly if the sum stays a word. -/
theorem panics_search (h : found parts < 2 ^ 64) (part : ShardHits) :
    search.panics (search.fold parts) part = decide (2 ^ 64 ≤ found (parts ++ [part])) := by
  change decide (2 ^ 64 ≤ (search.total (search.fold parts)).toNat + part.totalResults.toNat) = _
  rw [toNat_total_of_fits h, found_concat]

/-- All parts can be added exactly if their sum is a word. -/
theorem fold?_search (parts : List ShardHits) :
    search.fold? parts = if found parts < 2 ^ 64 then some (search.fold parts) else none := by
  induction parts using List.reverseRecOn with
  | nil => rfl
  | append_singleton parts part ih =>
    have hmono := found_le_of_start (List.prefix_append parts [part])
    rw [fold?_concat, ih]
    by_cases hfits : found parts < 2 ^ 64
    · rw [if_pos hfits, Option.bind_some, add?, panics_search hfits, search_concat]
      by_cases hall : found (parts ++ [part]) < 2 ^ 64
      · rw [if_pos hall, decide_eq_false (Nat.not_le_of_lt hall)]
        rfl
      · rw [if_neg hall, decide_eq_true (Nat.le_of_not_lt hall)]
        rfl
    · rw [if_neg hfits, if_neg (by omega)]
      rfl

/-- Parts cannot be added exactly if they stand for too much. -/
theorem fold?_eq_none_iff : search.fold? parts = none ↔ 2 ^ 64 ≤ found parts := by
  rw [fold?_search, ite_eq_right_iff, ← Nat.not_lt]
  exact ⟨fun h hfits => (nomatch h hfits), fun h hfits => absurd hfits h⟩

theorem fits_of_fold? {r : SearchResults} (h : search.fold? parts = some r) :
    found parts < 2 ^ 64 := by
  by_contra hover
  rw [fold?_eq_none_iff.2 (Nat.le_of_not_lt hover)] at h
  cases h

/-- Totals are exact as long as they fit. -/
theorem exact_of_fits (h : found parts < 2 ^ 64) : Exact parts := by
  intro taken htaken
  have hfits := Nat.lt_of_le_of_lt (found_le_of_start htaken) h
  exact ⟨search.fold taken, by rw [fold?_search, if_pos hfits], toNat_total_of_fits hfits⟩

/-- Totals that are exact fit. -/
theorem Exact.fits (h : Exact parts) : found parts < 2 ^ 64 := by
  obtain ⟨r, hr, -⟩ := h parts List.prefix_rfl
  exact fits_of_fold? hr

/-- Totals that are exact never decrease. -/
theorem Exact.climbs (h : Exact parts) : Climbs parts := by
  intro taken part htaken
  obtain ⟨before, hbefore, htotal⟩ := h taken ((List.prefix_append _ _).trans htaken)
  obtain ⟨after, hafter, htotal'⟩ := h _ htaken
  refine ⟨before, after, hbefore, hafter, ?_⟩
  rw [UInt64.le_iff_toNat_le, htotal, htotal', found_concat]
  exact Nat.le_add_right _ _

/-- There is a number after the last part only if the sum is a word. -/
theorem Climbs.fits (h : Climbs parts) : found parts < 2 ^ 64 := by
  rcases List.eq_nil_or_concat parts with rfl | ⟨taken, part, rfl⟩
  · exact Nat.two_pow_pos 64
  · rw [List.concat_eq_append] at h ⊢
    obtain ⟨-, after, -, hafter, -⟩ := h taken part List.prefix_rfl
    exact fits_of_fold? hafter

/-! ## Enough results -/

/-- A merge that has taken parts in is short of results exactly if they stand for fewer than it was
asked for. -/
theorem below_iff {limits : MergeLimits} : Merge.Below search limits parts ↔
    parts = [] ∨ found parts < limits.minimum.toNat := by
  induction parts using List.reverseRecOn with
  | nil => exact iff_of_true Merge.below_nil (.inl rfl)
  | append_singleton parts part ih =>
    have hminimum := limits.minimum.toNat_lt
    have hmono := found_le_of_start (List.prefix_append parts [part])
    have hne : parts ++ [part] ≠ [] := by simp
    have hfits : (parts = [] ∨ found parts < limits.minimum.toNat) → found parts < 2 ^ 64 := by
      rintro (rfl | hless)
      · exact Nat.two_pow_pos 64
      · omega
    rw [Merge.below_concat, ih, or_iff_right hne, UInt64.lt_iff_toNat_lt]
    constructor
    · rintro ⟨hbefore, hadds, hless⟩
      rw [panics_search (hfits hbefore), decide_eq_false_iff_not, Nat.not_le] at hadds
      rwa [toNat_total_of_fits hadds] at hless
    · intro hless
      have hbefore : found parts < 2 ^ 64 := by omega
      refine ⟨.inr (by omega), ?_, ?_⟩
      · rw [panics_search hbefore, decide_eq_false_iff_not, Nat.not_le]
        omega
      · rwa [toNat_total_of_fits (by omega)]

/-- Whatever the parts report, they can be added if and only if their sum is a word of 64 bits. Then
and only then there is after each of them a number of results that is the exact sum, and then and
only then there is one that never decreases. A merge that has taken parts in is short of results if
and only if they stand for fewer than it was asked for; and it panics at the first part with which
the sum leaves the words, if it has not ended before. -/
theorem exact_iff_climbs_iff_fits (parts : List ShardHits) :
    (∀ taken, taken <+: parts → (search.fold? taken = none ↔ 2 ^ 64 ≤ found taken)) ∧
    (Exact parts ↔ found parts < 2 ^ 64) ∧
    (Climbs parts ↔ found parts < 2 ^ 64) ∧
    ∀ limits : MergeLimits,
      (Merge.Below search limits parts ↔ parts = [] ∨ found parts < limits.minimum.toNat) ∧
      ∀ query calls start now,
        (Merge.start search limits query calls start).consume search now (parts.map .ok) =
            .panicked ↔
          ∃ taken part, taken ++ [part] <+: parts ∧ Merge.Below search limits taken ∧
            2 ^ 64 ≤ found (taken ++ [part]) := by
  refine ⟨fun taken _ => fold?_eq_none_iff, ⟨Exact.fits, exact_of_fits⟩,
    ⟨Climbs.fits, fun h => (exact_of_fits h).climbs⟩, fun limits => ⟨below_iff, ?_⟩⟩
  intro query calls start now
  have hpanics (taken : List ShardHits) (part : ShardHits) (h : Merge.Below search limits taken) :
      search.panics (search.fold taken) part = true ↔ 2 ^ 64 ≤ found (taken ++ [part]) := by
    have hfits : found taken < 2 ^ 64 := by
      rcases below_iff.1 h with rfl | hless
      · exact Nat.two_pow_pos 64
      · exact Nat.lt_trans hless limits.minimum.toNat_lt
    rw [panics_search hfits, decide_eq_true_iff]
  rw [Merge.start_eq_going, Merge.consume_eq_panicked_iff Merge.below_nil]
  constructor
  · rintro ⟨taken, part, rest, hparts, hbelow, hover⟩
    rw [List.nil_append] at hbelow hover
    obtain ⟨before, after, rfl, hbefore, hafter⟩ := List.map_eq_append_iff.1 hparts
    obtain ⟨part', after, rfl, hpart, -⟩ := List.map_eq_cons_iff.1 hafter
    obtain rfl := List.map_injective_iff.2 (fun _ _ => Except.ok.inj) hbefore
    obtain rfl := Except.ok.inj hpart
    exact ⟨before, part', ⟨after, by simp⟩, hbelow, (hpanics _ _ hbelow).1 hover⟩
  · rintro ⟨taken, part, ⟨rest, rfl⟩, hbelow, hover⟩
    exact ⟨taken, part, rest.map .ok, by simp, hbelow, (hpanics _ _ hbelow).2 hover⟩

/-- Two shards that report more results together than a word holds. -/
def overflowing : List ShardHits := [⟨18446744073709551615, []⟩, ⟨1, []⟩]

/-- The second of two parts cannot be added, since they stand for one result more than the largest
word: there is no number of results then, exact or not. And a merge that was asked for three results
panics where it has more than that. -/
theorem overflowing_panics :
    (search.fold? [⟨18446744073709551615, []⟩]).map search.total = some 18446744073709551615 ∧
    search.fold? overflowing = none ∧ found overflowing = 2 ^ 64 ∧
    ¬ Exact overflowing ∧ ¬ Climbs overflowing ∧
    found [⟨2, []⟩, ⟨18446744073709551615, []⟩] = 2 ^ 64 + 1 ∧
    (Merge.start search ⟨3, 60⟩ "q" 2 0).consume search 1
      [.ok ⟨2, []⟩, .ok ⟨18446744073709551615, []⟩] = .panicked := by
  have hover : ¬ found overflowing < 2 ^ 64 := by decide
  exact ⟨rfl, fold?_eq_none_iff.2 (Nat.le_of_not_lt hover), rfl, fun h => hover h.fits,
    fun h => hover h.fits, rfl, rfl⟩

end Accumulator

end ScatterSearch
