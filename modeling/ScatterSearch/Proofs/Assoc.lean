import Mathlib.Data.List.Nodup
import ScatterSearch.Assoc

/-!
# Laws of finite maps

What `get?` finds after `put` and `erase`, and that a map made with `put` has each key once.
-/

namespace ScatterSearch.Assoc

variable {κ ν : Type} [DecidableEq κ] {m m' : Assoc κ ν} {k k' : κ} {v : ν}

@[simp] theorem get?_nil : get? ([] : Assoc κ ν) k = none := rfl

theorem get?_put : (m.put k v).get? k' = if k = k' then some v else m.get? k' := by
  induction m with
  | nil => rfl
  | cons entry m ih =>
    obtain ⟨key, value⟩ := entry
    by_cases hkey : key = k
    · subst hkey
      by_cases hk : key = k' <;> simp [put, get?, hk]
    · by_cases hk : k = k'
      · subst hk
        simp [put, get?, hkey, ih]
      · simp [put, get?, hkey, ih, hk]

theorem get?_put_self : (m.put k v).get? k = some v := by rw [get?_put, if_pos rfl]

theorem get?_erase : (erase m k).get? k' = if k = k' then none else m.get? k' := by
  induction m with
  | nil => simp [erase]
  | cons entry m ih =>
    obtain ⟨key, value⟩ := entry
    by_cases hkey : key = k
    · subst hkey
      by_cases hk : key = k'
      · simpa [erase, hk] using ih
      · simpa [erase, get?, hk] using ih
    · have hcons : erase ((key, value) :: m) k = (key, value) :: erase m k := by
        simp [erase, hkey]
      rw [hcons, get?, get?, ih]
      by_cases hk : k = k'
      · subst hk
        rw [if_neg hkey, if_pos rfl, if_pos rfl]
      · rw [if_neg hk, if_neg hk]

/-- A pair that is found is in the list. -/
theorem mem_of_get? (h : m.get? k = some v) : (k, v) ∈ m := by
  induction m with
  | nil => cases h
  | cons entry m ih =>
    obtain ⟨key, value⟩ := entry
    rw [get?] at h
    split at h
    · rename_i hkey
      rw [hkey, Option.some.inj h]
      exact List.mem_cons_self
    · exact List.mem_cons_of_mem _ (ih h)

theorem mem_keys : k ∈ m.keys ↔ ∃ v, m.get? k = some v := by
  constructor
  · intro h
    induction m with
    | nil => cases h
    | cons entry m ih =>
      obtain ⟨key, value⟩ := entry
      by_cases hkey : key = k
      · exact ⟨value, by rw [get?, if_pos hkey]⟩
      · rcases List.mem_cons.1 h with heq | h
        · exact absurd heq.symm hkey
        · obtain ⟨v, hv⟩ := ih h
          exact ⟨v, by rw [get?, if_neg hkey, hv]⟩
  · rintro ⟨v, hv⟩
    exact List.mem_map.2 ⟨(k, v), mem_of_get? hv, rfl⟩

/-- Every pair of a map that has its keys once is found. -/
theorem get?_of_mem (hm : m.keys.Nodup) (h : (k, v) ∈ m) : m.get? k = some v := by
  induction m with
  | nil => cases h
  | cons entry m ih =>
    obtain ⟨key, value⟩ := entry
    obtain ⟨hnot, hm⟩ := List.nodup_cons.1 hm
    rcases List.mem_cons.1 h with heq | h
    · obtain ⟨rfl, rfl⟩ := Prod.mk.inj heq
      rw [get?, if_pos rfl]
    · have hne : key ≠ k := by
        rintro rfl
        exact hnot (mem_keys.2 ⟨v, ih hm h⟩)
      rw [get?, if_neg hne, ih hm h]

theorem mem_keys_put : k' ∈ (m.put k v).keys ↔ k' = k ∨ k' ∈ m.keys := by
  simp only [mem_keys, get?_put]
  by_cases hk : k = k'
  · simp [hk]
  · simp [hk, Ne.symm hk]

/-- To set a value does not repeat a key. -/
theorem nodup_keys_put (h : m.keys.Nodup) : (m.put k v).keys.Nodup := by
  induction m with
  | nil => exact List.nodup_singleton k
  | cons entry m ih =>
    obtain ⟨key, value⟩ := entry
    obtain ⟨hnot, hm⟩ := List.nodup_cons.1 h
    by_cases hkey : key = k
    · subst hkey
      simpa [put, keys] using h
    · rw [put, if_neg hkey]
      refine List.nodup_cons.2 ⟨fun hmem => ?_, ih hm⟩
      rcases mem_keys_put.1 hmem with heq | hmem
      · exact hkey heq
      · exact hnot hmem

end ScatterSearch.Assoc
