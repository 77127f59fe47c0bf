import Mathlib.Data.List.Nodup

/-!
# Lists

What the library's lists have in common: repetitions that are erased, parts that are picked by a
key, places that keep what they hold while a list grows or is changed, and values that are there for
all or none.
-/

namespace ScatterSearch.Lists

variable {α β κ : Type}

/-- Nothing is repeated once repetitions are erased. -/
theorem nodup_eraseDups [DecidableEq α] (xs : List α) : xs.eraseDups.Nodup := by
  induction hlength : xs.length using Nat.strongRecOn generalizing xs with
  | ind n ih =>
    cases xs with
    | nil => exact List.nodup_nil
    | cons x xs =>
      rw [List.eraseDups_cons, List.nodup_cons, List.mem_eraseDups]
      refine ⟨by simp, ih _ ?_ _ rfl⟩
      rw [← hlength, List.length_cons]
      exact Nat.lt_succ_of_le (List.length_filter_le _ _)

/-- What is picked by different keys, each only once, is no more than there is. -/
theorem length_flatMap_filter_le [DecidableEq κ] (key : α → κ) (f : α → List β) :
    ∀ (keys : List κ) (xs : List α), keys.Nodup →
      (keys.flatMap fun k => (xs.filter (key · = k)).flatMap f).length ≤ (xs.flatMap f).length
  | [], xs, _ => Nat.zero_le _
  | k :: keys, xs, h => by
    obtain ⟨hnot, hkeys⟩ := List.nodup_cons.1 h
    have hrest : ∀ k' ∈ keys,
        xs.filter (key · = k') = (xs.filter fun x => !decide (key x = k)).filter (key · = k') := by
      intro k' hk'
      rw [List.filter_filter]
      refine List.filter_congr fun x _ => ?_
      by_cases hx : key x = k'
      · have hne : key x ≠ k := fun heq => hnot (heq ▸ hx ▸ hk')
        rw [hx] at hne
        simp [hx, hne]
      · simp [hx]
    have hsplit : ((xs.filter (key · = k)).flatMap f).length +
        ((xs.filter fun x => !decide (key x = k)).flatMap f).length = (xs.flatMap f).length := by
      rw [← List.length_append, ← List.flatMap_append]
      exact ((List.filter_append_perm (fun x => decide (key x = k)) xs).flatMap_right f).length_eq
    have hih := length_flatMap_filter_le key f keys (xs.filter fun x => !decide (key x = k)) hkeys
    rw [List.flatMap_cons, List.length_append, ← hsplit]
    refine Nat.add_le_add_left ?_ _
    rw [List.flatMap_congr fun k' hk' => by rw [hrest k' hk']]
    exact hih

/-- A list that grows keeps what it holds at its places. -/
theorem getElem?_of_prefix {xs ys : List α} (h : xs <+: ys) {i : Nat} {x : α}
    (hx : xs[i]? = some x) : ys[i]? = some x := by
  obtain ⟨more, rfl⟩ := h
  rw [List.getElem?_append_left (List.getElem?_eq_some_iff.1 hx).1, hx]

theorem getElem?_concat {xs : List α} {x y : α} {i : Nat} (h : (xs ++ [x])[i]? = some y) :
    xs[i]? = some y ∨ i = xs.length ∧ y = x := by
  rcases Nat.lt_trichotomy i xs.length with hi | rfl | hi
  · rw [List.getElem?_append_left hi] at h
    exact .inl h
  · rw [List.getElem?_concat_length] at h
    exact .inr ⟨rfl, (Option.some.inj h).symm⟩
  · rw [List.getElem?_eq_none (by rw [List.length_append]; exact hi)] at h
    cases h

/-- The last place of a list is its end, or lies before it. -/
theorem concat_eq_split {xs before after : List α} {x y : α}
    (h : xs ++ [x] = before ++ y :: after) :
    (xs = before ∧ x = y ∧ after = []) ∨
      ∃ rest, after = rest ++ [x] ∧ xs = before ++ y :: rest := by
  rcases List.eq_nil_or_concat after with rfl | ⟨rest, z, rfl⟩
  · obtain ⟨hxs, hx⟩ := List.append_inj' h rfl
    exact .inl ⟨hxs, List.singleton_inj.1 hx, rfl⟩
  · have h' : xs ++ [x] = (before ++ y :: rest) ++ [z] := by simpa using h
    obtain ⟨hxs, hx⟩ := List.append_inj' h' rfl
    obtain rfl := List.singleton_inj.1 hx
    exact .inr ⟨rest, by simp, hxs⟩

/-- A change of the last place. -/
theorem modify_concat (f : α → α) (xs : List α) (x : α) :
    (xs ++ [x]).modify xs.length f = xs ++ [f x] := by
  induction xs with
  | nil => rfl
  | cons y xs ih =>
    rw [List.cons_append, List.length_cons, List.modify_succ_cons, ih]
    rfl

/-- What a change leaves alone can be read before or after it. -/
theorem map_mapIdx_eq {f : Nat → α → α} {g : α → β} (h : ∀ i x, g (f i x) = g x) (xs : List α) :
    (xs.mapIdx f).map g = xs.map g := by
  refine List.ext_getElem? fun i => ?_
  rw [List.getElem?_map, List.getElem?_map, List.getElem?_mapIdx, Option.map_map]
  exact congrArg (Option.map · xs[i]?) (funext (h i))

theorem map_set_eq {f : α → β} {xs : List α} {i : Nat} {x y : α} (hx : xs[i]? = some x)
    (hf : f y = f x) : (xs.set i y).map f = xs.map f := by
  refine List.ext_getElem? fun j => ?_
  rw [List.getElem?_map, List.getElem?_map]
  by_cases hj : i = j
  · subst hj
    rw [List.getElem?_set_self (List.getElem?_eq_some_iff.1 hx).1, hx, Option.map_some, hf]
    rfl
  · rw [List.getElem?_set_ne hj]

theorem map_modify_eq {f : α → α} {g : α → β} (h : ∀ x, g (f x) = g x) (i : Nat) (xs : List α) :
    (xs.modify i f).map g = xs.map g := by
  refine List.ext_getElem? fun j => ?_
  rw [List.getElem?_map, List.getElem?_map, List.getElem?_modify]
  by_cases hj : i = j
  · simp [hj, Function.comp_def, h]
  · simp [hj]

/-- Something about a list comes true when it comes true of the element that is set. -/
theorem exists_mem_set {P : α → Prop} {R : Prop} {xs : List α} {i : Nat} {x y : α}
    (hx : xs[i]? = some x) (hy : P y ↔ P x ∨ R) :
    (∃ z ∈ xs.set i y, P z) ↔ (∃ z ∈ xs, P z) ∨ R := by
  induction xs generalizing i with
  | nil => cases hx
  | cons x' xs ih =>
    cases i with
    | zero =>
      obtain rfl := Option.some.inj hx
      simp only [List.set_cons_zero, List.exists_mem_cons_iff, hy]
      exact or_right_comm
    | succ i =>
      simp only [List.set_cons_succ, List.exists_mem_cons_iff, ih hx]
      exact or_assoc.symm

/-- The numbers below a bound are gone through, and one of them makes the difference. -/
theorem foldl_range_around {P Q : β → Prop} {f : β → Nat → β} {n i : Nat} {b : β} (hi : i < n)
    (before : ∀ b j, j ≠ i → P b → P (f b j)) (own : ∀ b, P b → Q (f b i))
    (after : ∀ b j, j ≠ i → Q b → Q (f b j)) (h : P b) : Q ((List.range n).foldl f b) := by
  obtain ⟨front, back, hrange⟩ := List.append_of_mem (List.mem_range.2 hi)
  have hnodup := List.nodup_range (n := n)
  rw [hrange] at hnodup
  obtain ⟨-, hback, hfront⟩ := List.nodup_append.1 hnodup
  rw [hrange, List.foldl_append, List.foldl_cons]
  refine List.foldlRecOn back f (own _ ?_) fun b hb j hj => after b j ?_ hb
  · exact List.foldlRecOn front f h fun b hb j hj =>
      before b j (hfront j hj i List.mem_cons_self) hb
  · rintro rfl
    exact (List.nodup_cons.1 hback).1 hj

/-- The least of some instants is no later than any of them. -/
theorem exists_min?_le {xs : List Nat} {d : Nat} (h : d ∈ xs) : ∃ m, xs.min? = some m ∧ m ≤ d := by
  obtain ⟨m, hm⟩ := Option.isSome_iff_exists.1 (List.isSome_min?_of_mem h)
  exact ⟨m, hm, (List.min?_eq_some_iff.1 hm).2 d h⟩

/-- Either all of a list have values, or there are none. -/
theorem mapM_eq_some {f : α → Option β} {xs : List α} {ys : List β} :
    xs.mapM f = some ys ↔ (∀ x ∈ xs, (f x).isSome = true) ∧ xs.filterMap f = ys := by
  induction xs generalizing ys with
  | nil => simp
  | cons x xs ih =>
    rw [List.mapM_cons, List.filterMap_cons]
    cases hx : f x with
    | none => simp [hx]
    | some y =>
      simp only [List.forall_mem_cons, hx, Option.isSome_some, true_and, Option.bind_eq_bind,
        Option.bind_some, Option.pure_def, Option.bind_eq_some_iff, ih, Option.some.injEq]
      constructor
      · rintro ⟨_, ⟨hall, rfl⟩, rfl⟩
        exact ⟨hall, rfl⟩
      · rintro ⟨hall, rfl⟩
        exact ⟨_, ⟨hall, rfl⟩, rfl⟩

end ScatterSearch.Lists
