import ScatterSearch.Ids

/-!
# Names are fresh

The names of one supply are different: the number of a name can be read off its last part, whatever
zeros stand before it.
-/

namespace ScatterSearch.IdSupply

/-- The number that a hexadecimal digit stands for. -/
def digit (c : Char) : Nat :=
  if c.toNat < 'a'.toNat then c.toNat - '0'.toNat else c.toNat - 'a'.toNat + 10

/-- Reads a hexadecimal number. -/
def readHex (cs : List Char) : Nat := cs.foldl (fun n c => 16 * n + digit c) 0

theorem digit_digitChar {d : Nat} (h : d < 16) : digit d.digitChar = d := by
  have all : ∀ d, d < 16 → digit d.digitChar = d := by decide
  exact all d h

theorem readHex_toDigits (n : Nat) : readHex (Nat.toDigits 16 n) = n := by
  induction n using Nat.strongRecOn with
  | ind n ih =>
    rcases Nat.lt_or_ge n 16 with hn | hn
    · rw [Nat.toDigits_of_lt_base hn]
      simp [readHex, digit_digitChar hn]
    · rw [Nat.toDigits_of_base_le (by decide) hn, readHex, List.foldl_append]
      change 16 * readHex (Nat.toDigits 16 (n / 16)) + digit (n % 16).digitChar = n
      rw [ih (n / 16) (by omega), digit_digitChar (Nat.mod_lt _ (by decide))]
      omega

/-- The zeros before a number do not count. -/
theorem readHex_hex (width n : Nat) : readHex (hex width n) = n := by
  have zeros : ∀ k, readHex (List.replicate k '0') = 0 := by
    intro k
    induction k with
    | zero => rfl
    | succ k ih => rw [List.replicate_succ]; exact ih
  rw [hex, readHex, List.foldl_append]
  change List.foldl _ (readHex (List.replicate _ '0')) _ = n
  rw [zeros]
  exact readHex_toDigits n

/-- A supply never gives out a name twice. -/
theorem name_inj {origin n n' : Nat} (h : name origin n = name origin n') : n = n' := by
  have hchars := String.ofList_injective h
  have hhex : hex 12 n = hex 12 n' := List.append_cancel_left hchars
  rw [← readHex_hex 12 n, hhex, readHex_hex]

end ScatterSearch.IdSupply
