import Mathlib.Data.List.Basic
import Mathlib.Data.List.Induction
import ScatterSearch.Merge.Accumulator

/-!
# The best of many

A shard sends its best hits only, and whoever merges them keeps the best of what has come. That
nothing is lost is a fact about sorted lists: the first `k` of a union are the first `k` of the
union of everybody's first `k` (`take_sort_flatMap`).

Of a hit only its `Rank` counts, its score and its id. Ranks are ordered without ties, so a sorted
list of them does not depend on the order in which they came.
-/

namespace ScatterSearch

/-! ## Sorted lists -/

namespace Lists

variable {α β : Type} {le : α → α → Bool}

/-- The first elements of a merge come from the first elements of its parts. -/
theorem take_merge {i j k : Nat} (hi : k ≤ i) (hj : k ≤ j) (xs ys : List α) :
    ((xs.take i).merge (ys.take j) le).take k = (xs.merge ys le).take k := by
  induction k generalizing i j xs ys with
  | zero => rfl
  | succ k ih =>
    obtain ⟨i, rfl⟩ := Nat.exists_eq_add_of_lt hi
    obtain ⟨j, rfl⟩ := Nat.exists_eq_add_of_lt hj
    cases xs with
    | nil => rw [List.take_nil, List.nil_merge, List.nil_merge, List.take_take, Nat.min_eq_left hj]
    | cons x xs =>
      cases ys with
      | nil =>
        rw [List.take_nil, List.merge_right, List.merge_right, List.take_take, Nat.min_eq_left hi]
      | cons y ys =>
        have hleft := ih (i := k + i) (j := k + j + 1) (by omega) (by omega) xs (y :: ys)
        have hright := ih (i := k + i + 1) (j := k + j) (by omega) (by omega) (x :: xs) ys
        rw [List.take_succ_cons] at hleft hright
        rw [List.take_succ_cons, List.take_succ_cons, List.cons_merge_cons, List.cons_merge_cons]
        by_cases hle : le x y = true
        · rw [if_pos hle, if_pos hle, List.take_succ_cons, List.take_succ_cons, hleft]
        · rw [if_neg hle, if_neg hle, List.take_succ_cons, List.take_succ_cons, hright]

variable (trans : ∀ a b c, le a b → le b c → le a c) (total : ∀ a b, le a b || le b a)
  (antisymm : ∀ a b, le a b → le b a → a = b)

include trans total

/-- What is sorted stays so. -/
theorem mergeSort_take_mergeSort (k : Nat) (xs : List α) :
    ((xs.mergeSort le).take k).mergeSort le = (xs.mergeSort le).take k :=
  List.mergeSort_of_pairwise
    ((List.pairwise_mergeSort trans total xs).sublist (List.take_sublist k _))

include antisymm

/-- Without ties a sorted list does not depend on the order in which its elements came. -/
theorem mergeSort_eq_of_perm {xs ys : List α} (h : xs.Perm ys) :
    xs.mergeSort le = ys.mergeSort le := by
  refine List.Perm.eq_of_pairwise ?_ (List.pairwise_mergeSort trans total xs)
    (List.pairwise_mergeSort trans total ys) ?_
  · intro a b _ _
    exact antisymm a b
  · exact (List.mergeSort_perm xs le).trans (h.trans (List.mergeSort_perm ys le).symm)

/-- To sort a union is to merge its sorted parts. -/
theorem mergeSort_append (xs ys : List α) :
    (xs ++ ys).mergeSort le = (xs.mergeSort le).merge (ys.mergeSort le) le := by
  refine List.Perm.eq_of_pairwise ?_ (List.pairwise_mergeSort trans total _)
    (List.pairwise_merge trans total _ _ (List.pairwise_mergeSort trans total xs)
      (List.pairwise_mergeSort trans total ys)) ?_
  · intro a b _ _
    exact antisymm a b
  · have hsorted := (List.mergeSort_perm xs le).append (List.mergeSort_perm ys le)
    exact (List.mergeSort_perm _ le).trans
      (hsorted.symm.trans (List.merge_perm_append le).symm)

/-- The best `k` of a union are the best `k` of the union of everybody's best `k`. -/
theorem take_sort_flatMap (k : Nat) (f : β → List α) (parts : List β) :
    ((parts.flatMap fun b => ((f b).mergeSort le).take k).mergeSort le).take k =
      ((parts.flatMap f).mergeSort le).take k := by
  induction parts with
  | nil => rfl
  | cons b parts ih =>
    rw [List.flatMap_cons, List.flatMap_cons, mergeSort_append trans total antisymm,
      mergeSort_append trans total antisymm, mergeSort_take_mergeSort trans total]
    have hbest : ∀ xs ys : List α, xs.take k = ys.take k →
        ((((f b).mergeSort le).take k).merge xs le).take k =
          (((f b).mergeSort le).merge ys le).take k := by
      intro xs ys h
      rw [← take_merge (Nat.le_refl k) (Nat.le_refl k), List.take_take, Nat.min_self, h,
        take_merge (Nat.le_refl k) (Nat.le_refl k)]
    exact hbest _ _ ih

end Lists

/-! ## Ranks -/

/-- What hits are ranked by: the score, and the id. -/
abbrev Rank := UInt64 × String

namespace Rank

/-- Whether a rank is the better one, or the same: the higher score, then the smaller id. -/
def le (a b : Rank) : Bool := decide (b.1 < a.1) || (decide (a.1 = b.1) && decide (a.2 ≤ b.2))

theorem le_iff {a b : Rank} : le a b = true ↔ b.1 < a.1 ∨ a.1 = b.1 ∧ a.2 ≤ b.2 := by
  simp [le]

theorem le_trans (a b c : Rank) (hab : le a b) (hbc : le b c) : le a c := by
  rw [le_iff] at *
  rcases hab with hab | ⟨hab, hid⟩
  · rcases hbc with hbc | ⟨hbc, -⟩
    · exact .inl (UInt64.lt_trans hbc hab)
    · exact .inl (hbc ▸ hab)
  · rcases hbc with hbc | ⟨hbc, hid'⟩
    · exact .inl (hab ▸ hbc)
    · exact .inr ⟨hab.trans hbc, String.le_trans hid hid'⟩

theorem le_total (a b : Rank) : le a b || le b a := by
  rw [Bool.or_eq_true, le_iff, le_iff]
  by_cases heq : a.1 = b.1
  · rcases String.le_total a.2 b.2 with hid | hid
    · exact .inl (.inr ⟨heq, hid⟩)
    · exact .inr (.inr ⟨heq.symm, hid⟩)
  · rcases UInt64.le_total a.1 b.1 with hle | hle
    · exact .inr (.inl (UInt64.lt_of_le_of_ne hle heq))
    · exact .inl (.inl (UInt64.lt_of_le_of_ne hle (Ne.symm heq)))

theorem le_antisymm (a b : Rank) (hab : le a b) (hba : le b a) : a = b := by
  rw [le_iff] at hab hba
  rcases hab with hab | ⟨hscore, hid⟩
  · rcases hba with hba | ⟨hba, -⟩
    · exact absurd hba (UInt64.lt_asymm hab)
    · rw [hba] at hab
      exact absurd hab (UInt64.lt_irrefl _)
  · rcases hba with hba | ⟨-, hid'⟩
    · rw [hscore] at hba
      exact absurd hba (UInt64.lt_irrefl _)
    · exact Prod.ext hscore (String.le_antisymm hid hid')

/-- Ranks, best first. -/
def sort (ranks : List Rank) : List Rank := ranks.mergeSort le

/-- Ranks are sorted in one way. -/
theorem sort_eq_of_perm {xs ys : List Rank} (h : xs.Perm ys) : sort xs = sort ys :=
  Lists.mergeSort_eq_of_perm le_trans le_total le_antisymm h

/-- To sort some first makes no difference. -/
theorem sort_append_sort (xs ys : List Rank) : sort (sort xs ++ ys) = sort (xs ++ ys) :=
  sort_eq_of_perm ((List.mergeSort_perm xs le).append_right ys)

/-- The best ranks of all are the best among the best of each. -/
theorem take_sort_flatMap {β : Type} (k : Nat) (f : β → List Rank) (parts : List β) :
    (sort (parts.flatMap fun b => (sort (f b)).take k)).take k = (sort (parts.flatMap f)).take k :=
  Lists.take_sort_flatMap le_trans le_total le_antisymm k f parts

end Rank

/-- The rank of a hit. -/
def SearchHit.rank (h : SearchHit) : Rank := (h.score, h.id)

/-- Of hits that are sorted the ranks are sorted. -/
theorem SearchHit.map_rank_mergeSort (hits : List SearchHit) :
    (hits.mergeSort ranksBefore).map rank = Rank.sort (hits.map rank) :=
  List.map_mergeSort fun _ _ _ _ => rfl

/-! ## What has come of all shards -/

namespace Accumulator

open SearchHit

variable {parts : List ShardHits}

theorem search_concat (part : ShardHits) :
    search.fold (parts ++ [part]) = (search.fold parts).add part := by
  rw [fold, List.foldl_append]
  rfl

theorem search_shardsAnswered (parts : List ShardHits) :
    (search.fold parts).shardsAnswered = UInt64.ofNat parts.length := by
  induction parts using List.reverseRecOn with
  | nil => rfl
  | append_singleton parts part ih =>
    rw [search_concat, SearchResults.add, ih, List.length_append, UInt64.ofNat_add]
    rfl

/-- The ranks of the hits are those of all parts, sorted. -/
theorem search_hits (parts : List ShardHits) :
    (search.fold parts).hits.map rank = Rank.sort ((parts.flatMap (·.hits)).map rank) := by
  induction parts using List.reverseRecOn with
  | nil => exact (List.mergeSort_nil (r := Rank.le)).symm
  | append_singleton parts part ih =>
    rw [search_concat, SearchResults.add, map_rank_mergeSort, List.map_append, ih,
      Rank.sort_append_sort, List.flatMap_append, List.map_append, List.flatMap_singleton]

variable {κ : Type} {keys order : List κ} {part : κ → ShardHits} {ranks : κ → List Rank}
  {k : Nat}

/-- The total is the number of all ranks, if each part counts its own. -/
theorem search_totalResults
    (h : ∀ key ∈ keys, (part key).totalResults = UInt64.ofNat (ranks key).length) :
    (search.fold (keys.map part)).totalResults = UInt64.ofNat (keys.flatMap ranks).length := by
  induction keys using List.reverseRecOn with
  | nil => rfl
  | append_singleton keys key ih =>
    rw [List.map_append, List.map_singleton, search_concat, SearchResults.add,
      ih fun key hkey => h key (List.mem_append_left _ hkey),
      h key (List.mem_append_right _ (List.mem_singleton.2 rfl)), ← UInt64.ofNat_add,
      List.flatMap_append, List.length_append, List.flatMap_singleton]

/-- What comes of parts that have the best `k` of their ranks each, in whatever order they come:
the best `k` are the best of all. -/
theorem search_of_parts (horder : order.Perm keys)
    (htotal : ∀ key ∈ keys, (part key).totalResults = UInt64.ofNat (ranks key).length)
    (hhits : ∀ key ∈ keys, (part key).hits.map rank = (Rank.sort (ranks key)).take k) :
    (search.fold (order.map part)).totalResults = UInt64.ofNat (keys.flatMap ranks).length ∧
    (search.fold (order.map part)).shardsAnswered = UInt64.ofNat keys.length ∧
    ((search.fold (order.map part)).hits.take k).map rank =
      (Rank.sort (keys.flatMap ranks)).take k := by
  have hranks : (order.flatMap ranks).Perm (keys.flatMap ranks) := horder.flatMap_right ranks
  have hparts : ((order.map part).flatMap (·.hits)).map rank =
      order.flatMap fun key => (Rank.sort (ranks key)).take k := by
    rw [List.flatMap_map, List.map_flatMap]
    exact List.flatMap_congr fun key hkey => hhits key (horder.subset hkey)
  refine ⟨?_, ?_, ?_⟩
  · rw [search_totalResults fun key hkey => htotal key (horder.subset hkey), hranks.length_eq]
  · rw [search_shardsAnswered, List.length_map, horder.length_eq]
  · rw [List.map_take, search_hits, hparts, Rank.take_sort_flatMap, Rank.sort_eq_of_perm hranks]

end Accumulator

end ScatterSearch
