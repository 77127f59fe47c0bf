import Mathlib.Data.List.Basic
import ScatterSearch.Text.Case

/-!
# Lower case of words

Lower case leaves alone what is in lower case already (`lower_of_settled`), and whatever it makes of
a word is in lower case (`settled_of_mem_lowerAfter`). It makes a word of the same length of a word,
with one exception: the dotted capital, which has a mark in lower case that is no letter
(`mark_mem_lower_iff`).

What is said of the tables is checked run by run, not code point by code point. No run gives
anything that a run takes (`CaseRun.misses`), and runs take letters to letters
(`CaseRun.keepsLetters`).
-/

namespace ScatterSearch.Text

/-! ## Ranges -/

/-- Whether one of the ranges has all code points from `lo` to `hi`. -/
def within : List (Nat × Nat) → Nat → Nat → Bool
  | [], _, _ => false
  | (a, b) :: rest, lo, hi => a.ble lo && (hi.ble b || within rest lo hi)

/-- Whether none of the ranges has a code point. -/
def outside : List (Nat × Nat) → Nat → Bool
  | [], _ => true
  | (a, b) :: rest, n => n.blt a || (b.blt n && outside rest n)

variable {ranges : List (Nat × Nat)} {lo hi n : Nat}

/-- What lies within a range is in the ranges. -/
theorem inRanges_of_within (h : within ranges lo hi = true) (hlo : lo ≤ n) (hhi : n ≤ hi) :
    inRanges ranges n = true := by
  induction ranges with
  | nil => cases h
  | cons range ranges ih =>
    obtain ⟨a, b⟩ := range
    rw [within, Bool.and_eq_true, Bool.or_eq_true, Nat.ble_eq, Nat.ble_eq] at h
    rw [inRanges, if_neg (by omega)]
    split
    · rfl
    · exact h.2.elim (fun hb => by omega) ih

/-- What lies outside all of them is not. -/
theorem inRanges_of_outside (h : outside ranges n = true) : inRanges ranges n = false := by
  induction ranges with
  | nil => rfl
  | cons range ranges ih =>
    obtain ⟨a, b⟩ := range
    rw [outside, Bool.or_eq_true, Bool.and_eq_true, Nat.blt_eq, Nat.blt_eq] at h
    rw [inRanges]
    split
    · rfl
    · rw [if_neg (by omega)]
      exact ih (h.resolve_left ‹_›).2

/-- What is in the ranges lies within one. -/
theorem exists_range (h : inRanges ranges n = true) : ∃ r ∈ ranges, r.1 ≤ n ∧ n ≤ r.2 := by
  induction ranges with
  | nil => cases h
  | cons range ranges ih =>
    obtain ⟨a, b⟩ := range
    rw [inRanges] at h
    split at h
    · cases h
    · split at h
      · exact ⟨(a, b), List.mem_cons_self, by omega, by omega⟩
      · obtain ⟨r, hr, hn⟩ := ih h
        exact ⟨r, List.mem_cons_of_mem _ hr, hn⟩

/-- Letters and numbers are characters. -/
theorem isValidChar_of_word (h : inRanges wordRanges n = true) : n.isValidChar := by
  have hvalid : (wordRanges.all fun r =>
      r.2.blt 0xD800 || (Nat.blt 0xDFFF r.1 && r.2.blt 0x110000)) = true := by decide +kernel
  obtain ⟨r, hr, hn⟩ := exists_range h
  have hrange := List.all_eq_true.1 hvalid r hr
  rw [Bool.or_eq_true, Bool.and_eq_true, Nat.blt_eq, Nat.blt_eq, Nat.blt_eq] at hrange
  rw [Nat.isValidChar]
  omega

/-! ## Runs -/

namespace CaseRun

variable {r s : CaseRun}

/-- Whether a run takes a code point. -/
def Takes (r : CaseRun) (n : Nat) : Prop := r.first ≤ n ∧ n ≤ r.last ∧ (n - r.first) % r.step = 0

/-- What a run gives for a code point that it takes. -/
def image (r : CaseRun) (n : Nat) : Nat := (n + r.distance).toNat

/-- The code points that a run takes. -/
def points (r : CaseRun) : List Nat :=
  (List.range ((r.last - r.first) / r.step + 1)).map fun i => r.first + i * r.step

/-- Whether a run takes nothing that another one gives: what is given lies before or behind it, or
between what it takes, where both go by twos. -/
def misses (r s : CaseRun) : Bool :=
  (r.image r.last).blt s.first || s.last.blt (r.image r.first) ||
    (r.step.beq 2 || r.first.beq r.last) && (s.step.beq 2 || s.first.beq s.last) &&
      ((r.image r.first + s.first) % 2).beq 1

/-- Whether what a run gives for letters are letters. -/
def keepsLetters (r : CaseRun) : Bool :=
  within wordRanges (r.image r.first) (r.image r.last) ||
    r.points.all fun n => outside wordRanges n || within wordRanges (r.image n) (r.image n)

/-- A run takes its points only. -/
theorem mem_points (h : r.Takes n) : n ∈ r.points := by
  obtain ⟨hfirst, hlast, hstep⟩ := h
  refine List.mem_map.2 ⟨(n - r.first) / r.step, List.mem_range.2 ?_, ?_⟩
  · exact Nat.lt_succ_of_le (Nat.div_le_div_right (by omega))
  · rw [Nat.div_mul_cancel (Nat.dvd_of_mod_eq_zero hstep)]
    omega

/-- A run does not take what another one that it misses makes. -/
theorem not_takes_image (hr : 0 ≤ r.first + r.distance) (h : r.misses s = true) (hn : r.Takes n) :
    ¬ s.Takes (r.image n) := by
  obtain ⟨hfirst, hlast, hstep⟩ := hn
  rintro ⟨hfirst', hlast', hstep'⟩
  simp only [misses, image, Bool.or_eq_true, Bool.and_eq_true, Nat.blt_eq, Nat.beq_eq] at h
  rw [image] at hfirst' hlast' hstep'
  rcases h with (h | h) | ⟨⟨htwos | hone, htwos' | hone'⟩, hodd⟩
  · omega
  · omega
  · rw [htwos] at hstep
    rw [htwos'] at hstep'
    omega
  · rw [htwos] at hstep
    omega
  · rw [htwos'] at hstep'
    omega
  · omega

/-- A run that keeps letters makes letters of letters. -/
theorem isWord_image (h : r.keepsLetters = true) (hn : r.Takes n)
    (hword : inRanges wordRanges n = true) : inRanges wordRanges (r.image n) = true := by
  rw [keepsLetters, Bool.or_eq_true] at h
  rcases h with h | h
  · obtain ⟨hfirst, hlast, -⟩ := hn
    exact inRanges_of_within h (by unfold image; omega) (by unfold image; omega)
  · have hpoint := List.all_eq_true.1 h n (mem_points hn)
    rw [Bool.or_eq_true] at hpoint
    rcases hpoint with hout | hin
    · rw [inRanges_of_outside hout] at hword
      cases hword
    · exact inRanges_of_within hin (Nat.le_refl _) (Nat.le_refl _)

end CaseRun

/-- The dotted capital as a run, which the others leave out. -/
def dottedRun : CaseRun := ⟨0x130, 0x130, 1, 0⟩

variable {r s : CaseRun} {runs : List CaseRun}

/-- A character is its own lower case, or a run makes it. -/
theorem lowerIn_cases (runs : List CaseRun) (n : Nat) :
    lowerIn runs n = n ∨ ∃ r ∈ runs, r.Takes n ∧ lowerIn runs n = r.image n := by
  induction runs with
  | nil => exact .inl rfl
  | cons r runs ih =>
    rw [lowerIn]
    split
    · exact .inl rfl
    · split
      · rename_i hfirst hlast
        exact .inr ⟨r, List.mem_cons_self, ⟨Nat.le_of_not_lt hfirst, hlast⟩, rfl⟩
      · rcases ih with h | ⟨s, hs, h⟩
        · exact .inl h
        · exact .inr ⟨s, List.mem_cons_of_mem _ hs, h⟩

/-- Where no run takes a character, it is its own lower case. -/
theorem lowerIn_eq_self (h : ∀ r ∈ runs, ¬ r.Takes n) : lowerIn runs n = n := by
  rcases lowerIn_cases runs n with heq | ⟨r, hr, htakes, -⟩
  · exact heq
  · exact absurd htakes (h r hr)

/-! What the runs give is final: no run takes it, and it is not the dotted capital. -/

/-- No run of the table makes what another one takes. -/
theorem misses_of_mem (hr : r ∈ caseRuns) (hs : s ∈ dottedRun :: caseRuns) :
    r.misses s = true := by
  have hall : (caseRuns.all fun r => (dottedRun :: caseRuns).all r.misses) = true := by
    decide +kernel
  exact List.all_eq_true.1 (List.all_eq_true.1 hall r hr) s hs

theorem distance_of_mem (hr : r ∈ caseRuns) : 0 ≤ r.first + r.distance := by
  have hall : (caseRuns.all fun r => decide (0 ≤ r.first + r.distance)) = true := by
    decide +kernel
  exact of_decide_eq_true (List.all_eq_true.1 hall r hr)

/-- What a run of the table makes is taken by none. -/
theorem not_takes_of_image (hr : r ∈ caseRuns) (hn : r.Takes n) (hs : s ∈ dottedRun :: caseRuns) :
    ¬ s.Takes (r.image n) :=
  CaseRun.not_takes_image (distance_of_mem hr) (misses_of_mem hr hs) hn

/-- Lower case is lower case already. -/
theorem lowerIn_lowerIn (n : Nat) : lowerIn caseRuns (lowerIn caseRuns n) = lowerIn caseRuns n := by
  rcases lowerIn_cases caseRuns n with h | ⟨r, hr, hn, h⟩
  · rw [h, h]
  · rw [h]
    exact lowerIn_eq_self fun s hs => not_takes_of_image hr hn (List.mem_cons_of_mem _ hs)

/-- The dotted capital is no lower case. -/
theorem lowerIn_ne_dotted (hn : n ≠ 0x130) : lowerIn caseRuns n ≠ 0x130 := by
  rcases lowerIn_cases caseRuns n with h | ⟨r, hr, htakes, h⟩
  · rwa [h]
  · rw [h]
    intro heq
    refine not_takes_of_image hr htakes List.mem_cons_self ?_
    rw [heq]
    exact ⟨Nat.le_refl _, Nat.le_refl _, rfl⟩

/-- The runs of the table make letters of letters. -/
theorem keepsLetters_of_mem (hr : r ∈ caseRuns) : r.keepsLetters = true := by
  have hall : caseRuns.all CaseRun.keepsLetters = true := by decide +kernel
  exact List.all_eq_true.1 hall r hr

/-- The lower case of a letter is a letter. -/
theorem isWord_lowerIn (h : inRanges wordRanges n = true) :
    inRanges wordRanges (lowerIn caseRuns n) = true := by
  rcases lowerIn_cases caseRuns n with heq | ⟨r, hr, hn, heq⟩
  · rw [heq]
    exact h
  · rw [heq]
    exact CaseRun.isWord_image (keepsLetters_of_mem hr) hn h

/-! ## Characters -/

/-- The dotted capital, whose lower case is not one letter. -/
def dottedCapital : Char := 'İ'

/-- The mark that the dotted capital leaves behind an `i`. -/
def dotMark : Char := Char.ofNat 0x307

/-- Whether lower case leaves a character as it is. -/
def Settled (c : Char) : Prop := c ≠ capitalSigma ∧ lowerChar c = [c]

instance : DecidablePred Settled := fun c =>
  inferInstanceAs (Decidable (c ≠ capitalSigma ∧ lowerChar c = [c]))

/-- The lower case of a character where it stands. -/
def lowerAt (before : List Char) (c : Char) (rest : List Char) : List Char :=
  if c = capitalSigma then
    if startsCased before && !startsCased rest then ['ς'] else ['σ']
  else lowerChar c

variable {c : Char} {cs before after word : List Char}

/-- The lower case of a text is that of its characters, in their places. -/
theorem lowerAfter_cons (before : List Char) (c : Char) (rest : List Char) :
    lowerAfter before (c :: rest) = lowerAt before c rest ++ lowerAfter (c :: before) rest := rfl

/-- The mark of the dotted capital is no letter. -/
theorem isWordChar_dotMark : isWordChar dotMark = false := by decide +kernel

/-- The dotted capital becomes a letter and a mark. -/
theorem lowerAt_dottedCapital (before rest : List Char) :
    lowerAt before dottedCapital rest = ['i', dotMark] := rfl

/-- Any other character becomes one. -/
theorem lowerChar_eq (h : c ≠ dottedCapital) :
    lowerChar c = [Char.ofNat (lowerIn caseRuns c.toNat)] :=
  if_neg fun heq => h (Char.toNat_inj.1 heq)

/-- A letter other than the dotted capital has one letter as its lower case, and that is settled. -/
theorem exists_lowerAt (hword : isWordChar c = true) (hdotted : c ≠ dottedCapital)
    (before rest : List Char) :
    ∃ d, lowerAt before c rest = [d] ∧ isWordChar d = true ∧ Settled d := by
  rw [lowerAt]
  split
  · split
    · exact ⟨'ς', rfl, by decide +kernel, by decide +kernel⟩
    · exact ⟨'σ', rfl, by decide +kernel, by decide +kernel⟩
  · rename_i hsigma
    have hn : inRanges wordRanges (lowerIn caseRuns c.toNat) = true := isWord_lowerIn hword
    have htoNat : (Char.ofNat (lowerIn caseRuns c.toNat)).toNat = lowerIn caseRuns c.toNat := by
      rw [Char.ofNat, dif_pos (isValidChar_of_word hn)]
      rfl
    refine ⟨_, lowerChar_eq hdotted, ?_, ?_, ?_⟩
    · rw [isWordChar, htoNat]
      exact hn
    · -- the runs take the capital sigma
      intro heq
      have hfixed := lowerIn_lowerIn c.toNat
      rw [← htoNat, heq] at hfixed
      exact absurd hfixed (by decide +kernel)
    · have hne : Char.ofNat (lowerIn caseRuns c.toNat) ≠ dottedCapital := by
        intro heq
        have hdot : c.toNat ≠ 0x130 := fun h => hdotted (Char.toNat_inj.1 h)
        exact lowerIn_ne_dotted hdot (htoNat.symm.trans (congrArg Char.toNat heq))
      rw [lowerChar_eq hne, htoNat, lowerIn_lowerIn]

/-! ## Words -/

/-- What is in lower case stays as it is, wherever it stands. -/
theorem lowerAfter_of_settled (h : ∀ c ∈ cs, Settled c) (before : List Char) :
    lowerAfter before cs = cs := by
  induction cs generalizing before with
  | nil => rfl
  | cons c cs ih =>
    obtain ⟨⟨hsigma, hlower⟩, hcs⟩ := List.forall_mem_cons.1 h
    rw [lowerAfter_cons, lowerAt, if_neg hsigma, hlower, ih hcs, List.singleton_append]

/-- A text of settled characters is its own lower case. -/
theorem lower_of_settled (h : ∀ c ∈ cs, Settled c) : lower cs = cs := lowerAfter_of_settled h []

/-- The lower case of a word is in lower case. -/
theorem settled_of_mem_lowerAfter (hword : ∀ c ∈ cs, isWordChar c = true) (before : List Char) :
    ∀ d ∈ lowerAfter before cs, Settled d := by
  induction cs generalizing before with
  | nil => simp [lowerAfter]
  | cons c cs ih =>
    obtain ⟨hc, hcs⟩ := List.forall_mem_cons.1 hword
    intro d hd
    rw [lowerAfter_cons, List.mem_append] at hd
    rcases hd with hd | hd
    · by_cases hdotted : c = dottedCapital
      · rw [hdotted, lowerAt_dottedCapital, List.mem_pair] at hd
        rcases hd with rfl | rfl
        · decide +kernel
        · decide +kernel
      · obtain ⟨d', hd', -, hsettled⟩ := exists_lowerAt hc hdotted before cs
        rw [hd', List.mem_singleton] at hd
        exact hd ▸ hsettled
    · exact ih hcs _ d hd

/-- Without the dotted capital, the lower case of a word is a word of the same length. -/
theorem word_lowerAfter (hword : ∀ c ∈ cs, isWordChar c = true) (hdotted : dottedCapital ∉ cs)
    (before : List Char) : (lowerAfter before cs).length = cs.length ∧
      ∀ d ∈ lowerAfter before cs, isWordChar d = true := by
  induction cs generalizing before with
  | nil => simp [lowerAfter]
  | cons c cs ih =>
    obtain ⟨hc, hcs⟩ := List.forall_mem_cons.1 hword
    obtain ⟨hne, hnot⟩ := not_or.1 (mt List.mem_cons.2 hdotted)
    obtain ⟨d, hd, hletter, -⟩ := exists_lowerAt hc (Ne.symm hne) before cs
    obtain ⟨hlength, hletters⟩ := ih hcs hnot (c :: before)
    rw [lowerAfter_cons, hd, List.singleton_append]
    exact ⟨congrArg (· + 1) hlength, List.forall_mem_cons.2 ⟨hletter, hletters⟩⟩

/-- The mark is in the lower case of what has a dotted capital. -/
theorem mark_mem_lowerAfter (h : dottedCapital ∈ cs) (before : List Char) :
    dotMark ∈ lowerAfter before cs := by
  induction cs generalizing before with
  | nil => cases h
  | cons c cs ih =>
    rw [lowerAfter_cons, List.mem_append]
    rcases List.mem_cons.1 h with rfl | h
    · exact .inl (by rw [lowerAt_dottedCapital]; simp)
    · exact .inr (ih h _)

/-- The lower case of a word has the mark just if the word has the dotted capital. -/
theorem mark_mem_lower_iff (hword : ∀ c ∈ word, isWordChar c = true) :
    dotMark ∈ lower word ↔ dottedCapital ∈ word := by
  refine ⟨fun h => ?_, fun h => mark_mem_lowerAfter h []⟩
  refine Decidable.byContradiction fun hnot => ?_
  have hletter := (word_lowerAfter hword hnot []).2 dotMark h
  rw [isWordChar_dotMark] at hletter
  cases hletter

end ScatterSearch.Text
