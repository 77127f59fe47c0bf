import Mathlib.Algebra.Order.Floor.Div
import ScatterSearch.Call.Reconnect

/-!
# What comes of coming back

A call is told one answer after the other, each after some delay. Which of them ends its talk with
the remote, when, and with what result, can be read off the answers: by the first that does not say
that the work goes on (`Decisive`), if this one counts (`InTime`), or else by the budget and the
last id that the call was told (`LastReported`).

`Retrieval.Ends` is what the call goes by, one answer at a time. It ends in one way only
(`Ends.unique`), in the way that the answers say (`Decisive.ends`, `exists_ends_of_budget`), and
`converse` computes it (`Ends.takes`).
-/

namespace ScatterSearch

/-- The id of an answer that says that the work goes on. -/
def reported? : Except CallError Response → Option ExecutionId
  | .error (.stillRunning id) => some id
  | _ => none

/-- What an answer tells that does not say that the work goes on. -/
def CallTerms.told? (t : CallTerms) : Except CallError Response →
    Option (Except ClusterError Response)
  | .ok response => some (.ok response)
  | .error (.failed message) => some (.error (.remoteCall t.server.name message))
  | .error (.stillRunning _) => none

/-- A call, and the answers of the remote: to the request to execute, then to reconnects. -/
structure Retrieval where
  terms : CallTerms
  answers : Nat → Answer

namespace Retrieval

variable (q : Retrieval)

/-- When an answer arrives, counted from the request to execute, if the call comes back at once each
time. -/
def arrival : Nat → Nat
  | 0 => (q.answers 0).delay
  | k + 1 => arrival k + (q.answers (k + 1)).delay

/-- The id that an answer reports, if it says that the work goes on. -/
def id? (k : Nat) : Option ExecutionId := reported? (q.answers k).answer

/-- The id that the call comes back with after an answer. -/
def id (k : Nat) : ExecutionId := (q.id? k).getD ⟨""⟩

/-- What an answer tells, unless it says that the work goes on. -/
def told? (k : Nat) : Option (Except ClusterError Response) := q.terms.told? (q.answers k).answer

/-- The first answer that does not say that the work goes on, and what it tells. -/
structure Decisive (k : Nat) (result : Except ClusterError Response) : Prop where
  before : ∀ i < k, q.told? i = none
  told : q.told? k = some result

/-- An answer counts if it is the first one, if there is no budget, or if it arrives before the
budget is over, or just then, and those before it had arrived earlier than that. -/
def InTime (k : Nat) : Prop :=
  k = 0 ∨ ∀ b ∈ q.terms.budget, q.arrival k ≤ b ∧ ∀ i < k, q.arrival i < b

/-- The last id that is reported to a call within its budget. The answer is the first one, or it
arrives within the budget, and those before it had arrived earlier. The next one arrives too late,
unless the budget is over already. -/
structure LastReported (b j : Nat) (id : ExecutionId) : Prop where
  reported : q.id? j = some id
  before : ∀ i < j, q.told? i = none ∧ q.arrival i < b
  inTime : j = 0 ∨ q.arrival j ≤ b
  last : b ≤ q.arrival j ∨ b < q.arrival (j + 1)

/-- How long `converse` says that the call takes, and what it says that the call returns. The call
comes back with the ids that it was told, in order. -/
def Takes (time : Nat) (result : Except ClusterError Response) : Prop :=
  ∃ n, q.terms.converse (q.answers 0) (fun k => q.answers (k + 1)) n =
    some ⟨time, result, (List.range n).map q.id⟩

/-! ## One answer at a time -/

/-- What an answer means for the call. -/
def verdict (k : Nat) : Verdict := q.terms.judge (q.arrival k) (q.answers k).answer

/-- The call comes back after an answer. -/
def ComesBack (k : Nat) : Prop := q.told? k = none ∧ ∀ b ∈ q.terms.budget, q.arrival k < b

/-- How the talk ends: after how many reconnects, how long after the request to execute, and with
which result. -/
inductive Ends : Nat → Nat → Except ClusterError Response → Prop
  | settled {k : Nat} {result : Except ClusterError Response} (before : ∀ i < k, q.ComesBack i)
    (inTime : k = 0 ∨ ∀ b ∈ q.terms.budget, q.arrival k ≤ b)
    (verdict : q.verdict k = .settled result) : Ends k (q.arrival k) result
  | gaveUp {k b : Nat} (before : ∀ i < k + 1, q.ComesBack i) (budget : q.terms.budget = some b)
    (late : b < q.arrival (k + 1)) : Ends (k + 1) b (.error (q.terms.gaveUp b (q.id k)))

variable {q} {k : Nat} {result : Except ClusterError Response}

/-- An answer says that the work goes on, or it settles what the call returns. -/
theorem answer_cases (q : Retrieval) (k : Nat) :
    (q.told? k = none ∧ (q.answers k).answer = .error (.stillRunning (q.id k)) ∧
      q.id? k = some (q.id k)) ∨
    ∃ result, q.told? k = some result ∧ q.id? k = none ∧ q.verdict k = .settled result := by
  rw [told?, id, id?, verdict]
  rcases (q.answers k).answer with (id | message) | response
  · exact .inl ⟨rfl, rfl, rfl⟩
  · exact .inr ⟨_, rfl, rfl, rfl⟩
  · exact .inr ⟨_, rfl, rfl, rfl⟩

theorem id?_eq (h : q.told? k = none) : q.id? k = some (q.id k) := by
  rcases q.answer_cases k with ⟨-, -, hid⟩ | ⟨result, htold, -⟩
  · exact hid
  · rw [h] at htold
    cases htold

/-- What the call is told settles it. -/
theorem verdict_of_told (h : q.told? k = some result) : q.verdict k = .settled result := by
  rcases q.answer_cases k with ⟨hnone, -⟩ | ⟨result', htold, -, hverdict⟩
  · rw [h] at hnone
    cases hnone
  · obtain rfl := Option.some.inj (h.symm.trans htold)
    exact hverdict

/-- What it means that the work goes on. -/
theorem verdict_of_running (h : q.told? k = none) :
    q.verdict k = match q.terms.budget with
      | none => .comeBack (q.id k)
      | some b => if b ≤ q.arrival k then .settled (.error (q.terms.gaveUp b (q.id k)))
        else .comeBack (q.id k) := by
  rcases q.answer_cases k with ⟨-, hanswer, -⟩ | ⟨result, htold, -⟩
  · rw [verdict, hanswer]
    rfl
  · rw [h] at htold
    cases htold

/-- A call that comes back does so by the id that it has. -/
theorem verdict_of_comesBack (h : q.ComesBack k) : q.verdict k = .comeBack (q.id k) := by
  rw [verdict_of_running h.1]
  cases hb : q.terms.budget with
  | none => rfl
  | some b => exact if_neg (Nat.not_le_of_lt (h.2 b hb))

/-- A call that would come back too late gives up. -/
theorem verdict_of_late {b : Nat} (h : q.told? k = none) (hb : q.terms.budget = some b)
    (hlate : b ≤ q.arrival k) : q.verdict k = .settled (.error (q.terms.gaveUp b (q.id k))) := by
  rw [verdict_of_running h, hb]
  exact if_pos hlate

/-- The call comes back after an answer, or it does not. -/
theorem comesBack_or_settled (q : Retrieval) (k : Nat) :
    q.ComesBack k ∨ ∃ result, q.verdict k = .settled result := by
  cases htold : q.told? k with
  | some result => exact .inr ⟨result, verdict_of_told htold⟩
  | none =>
    cases hb : q.terms.budget with
    | none => exact .inl ⟨htold, fun b hb' => by rw [hb] at hb'; cases hb'⟩
    | some b =>
      rcases Nat.lt_or_ge (q.arrival k) b with hlt | hge
      · refine .inl ⟨htold, fun b' hb' => ?_⟩
        obtain rfl := Option.some.inj (hb.symm.trans hb')
        exact hlt
      · exact .inr ⟨_, verdict_of_late htold hb hge⟩

theorem not_comesBack_of_settled (h : q.verdict k = .settled result) : ¬ q.ComesBack k := by
  intro hback
  rw [verdict_of_comesBack hback] at h
  cases h

/-! ## The talk ends in one way only -/

namespace Ends

variable {n n' time time' : Nat} {result' : Except ClusterError Response}

theorem comesBack (h : q.Ends n time result) {i : Nat} (hi : i < n) : q.ComesBack i := by
  cases h with
  | settled before => exact before i hi
  | gaveUp before => exact before i hi

theorem not_comesBack (h : q.Ends n time result) : ¬ q.ComesBack n := by
  cases h with
  | settled _ _ verdict => exact not_comesBack_of_settled verdict
  | gaveUp _ hb late => exact fun hback => Nat.lt_asymm late (hback.2 _ hb)

/-- The number of reconnects is that of the answers after which the call comes back. -/
theorem count_unique (h : q.Ends n time result) (h' : q.Ends n' time' result') : n = n' := by
  rcases Nat.lt_trichotomy n n' with hlt | heq | hgt
  · exact absurd (h'.comesBack hlt) h.not_comesBack
  · exact heq
  · exact absurd (h.comesBack hgt) h'.not_comesBack

/-- A retrieval ends once, in one way. -/
theorem unique (h : q.Ends n time result) (h' : q.Ends n' time' result') :
    n = n' ∧ time = time' ∧ result = result' := by
  obtain rfl := h.count_unique h'
  refine ⟨rfl, ?_⟩
  cases h with
  | settled _ inTime verdict =>
    cases h' with
    | settled _ _ verdict' => exact ⟨rfl, Verdict.settled.inj (verdict.symm.trans verdict')⟩
    | gaveUp _ hb late =>
      rcases inTime with hzero | inTime
      · cases hzero
      · exact absurd (inTime _ hb) (Nat.not_le_of_lt late)
  | gaveUp _ hb late =>
    cases h' with
    | settled _ inTime =>
      rcases inTime with hzero | inTime
      · cases hzero
      · exact absurd (inTime _ hb) (Nat.not_le_of_lt late)
    | gaveUp _ hb' =>
      obtain rfl := Option.some.inj (hb.symm.trans hb')
      exact ⟨rfl, rfl⟩

end Ends

/-! ## It ends as the answers say -/

/-- Later answers arrive later. -/
theorem arrival_mono (q : Retrieval) {i j : Nat} (h : i ≤ j) : q.arrival i ≤ q.arrival j := by
  induction h with
  | refl => exact Nat.le_refl _
  | step _ ih => exact Nat.le_trans ih (Nat.le_add_right _ _)

/-- A decisive answer that counts is the call's result when it arrives. -/
theorem Decisive.ends (h : q.Decisive k result) (hin : q.InTime k) :
    q.Ends k (q.arrival k) result := by
  refine .settled (fun i hi => ⟨h.before i hi, fun b hb => ?_⟩) (hin.imp_right fun hin b hb =>
    (hin b hb).1) (verdict_of_told h.told)
  rcases hin with rfl | hin
  · cases hi
  · exact (hin b hb).2 i hi

/-- Some answer is the last one for a call that has a budget. -/
theorem exists_not_comesBack {b : Nat} (hb : q.terms.budget = some b)
    (hfinite : ∀ time, ∃ k, time < q.arrival k) :
    ∃ n, (∀ i < n, q.ComesBack i) ∧ ¬ q.ComesBack n := by
  classical
  obtain ⟨k, hk⟩ := hfinite b
  have hex : ∃ n, ¬ q.ComesBack n := ⟨k, fun hback => Nat.lt_asymm hk (hback.2 b hb)⟩
  exact ⟨Nat.find hex, fun i hi => not_not.1 (Nat.find_min hex hi), Nat.find_spec hex⟩

/-- A call that is told nothing decisive that counts gives up when its budget is over, but not
before the first answer. -/
theorem exists_ends_of_budget {b : Nat} (hb : q.terms.budget = some b)
    (hfinite : ∀ time, ∃ k, time < q.arrival k)
    (hnone : ∀ k result, q.Decisive k result → ¬ q.InTime k) :
    ∃ n j id, q.LastReported b j id ∧
      q.Ends n (max b (q.arrival 0)) (.error (q.terms.gaveUp b id)) := by
  obtain ⟨n, hbefore, hnot⟩ := exists_not_comesBack hb hfinite
  have hall : ∀ i < n, q.told? i = none ∧ q.arrival i < b := fun i hi =>
    ⟨(hbefore i hi).1, (hbefore i hi).2 b hb⟩
  have hfirst : 0 < n → max b (q.arrival 0) = b := fun hn =>
    Nat.max_eq_left (Nat.le_of_lt (hall 0 hn).2)
  -- the call hears the last answer, or it gives up before
  rcases Nat.eq_zero_or_pos n with rfl | hpos
  · have hrunning : q.told? 0 = none := by
      cases htold : q.told? 0 with
      | none => rfl
      | some result => exact absurd (.inl rfl) (hnone 0 result ⟨by simp, htold⟩)
    have hlate : b ≤ q.arrival 0 := by
      by_contra hlt
      refine hnot ⟨hrunning, fun b' hb' => ?_⟩
      obtain rfl := Option.some.inj (hb.symm.trans hb')
      exact Nat.lt_of_not_le hlt
    rw [Nat.max_eq_right hlate]
    exact ⟨0, 0, q.id 0, ⟨id?_eq hrunning, by simp, .inl rfl, .inl hlate⟩,
      .settled (by simp) (.inl rfl) (verdict_of_late hrunning hb hlate)⟩
  · obtain ⟨k, rfl⟩ := Nat.exists_eq_succ_of_ne_zero (Nat.ne_of_gt hpos)
    rw [hfirst hpos]
    rcases Nat.lt_or_ge b (q.arrival (k + 1)) with hlate | hin
    · refine ⟨k + 1, k, q.id k, ⟨id?_eq (hall k (Nat.lt_succ_self k)).1,
        fun i hi => hall i (Nat.lt_succ_of_lt hi),
        .inr (Nat.le_of_lt (hall k (Nat.lt_succ_self k)).2), .inr hlate⟩, .gaveUp hbefore hb hlate⟩
    · have htime : q.InTime (k + 1) := by
        refine .inr fun b' hb' => ?_
        obtain rfl := Option.some.inj (hb.symm.trans hb')
        exact ⟨hin, fun i hi => (hall i hi).2⟩
      have hrunning : q.told? (k + 1) = none := by
        cases htold : q.told? (k + 1) with
        | none => rfl
        | some result =>
          exact absurd htime (hnone (k + 1) result ⟨fun i hi => (hall i hi).1, htold⟩)
      have hexact : b = q.arrival (k + 1) := by
        refine Nat.le_antisymm ?_ hin
        by_contra hlt
        refine hnot ⟨hrunning, fun b' hb' => ?_⟩
        obtain rfl := Option.some.inj (hb.symm.trans hb')
        exact Nat.lt_of_not_le hlt
      refine ⟨k + 1, k + 1, q.id (k + 1), ⟨id?_eq hrunning, hall, .inr hin,
        .inl (Nat.le_of_eq hexact)⟩, ?_⟩
      have hends : q.Ends (k + 1) (q.arrival (k + 1)) (.error (q.terms.gaveUp b (q.id (k + 1)))) :=
        .settled hbefore (.inr fun b' hb' => by
          obtain rfl := Option.some.inj (hb.symm.trans hb')
          exact hin) (verdict_of_late hrunning hb (Nat.le_of_eq hexact))
      rwa [← hexact] at hends

/-! ## How often the call comes back -/

/-- Answers that take some time each arrive after so many times as long. -/
theorem mul_le_arrival {δ : Nat} (h : ∀ k, δ ≤ (q.answers (k + 1)).delay) (k : Nat) :
    δ * k ≤ q.arrival k := by
  induction k with
  | zero => simp
  | succ k ih =>
    rw [Nat.mul_succ]
    exact Nat.add_le_add ih (h k)

/-- A call comes back only so often in its budget if every reconnect takes its time. -/
theorem count_le {b δ n : Nat} (hb : q.terms.budget = some b) (hδ : 0 < δ)
    (hdelay : ∀ k, δ ≤ (q.answers (k + 1)).delay) (h : ∀ i < n, q.ComesBack i) :
    n ≤ b ⌈/⌉ δ := by
  cases n with
  | zero => exact Nat.zero_le _
  | succ n =>
    by_contra hmany
    have hle : b ⌈/⌉ δ ≤ n := Nat.lt_succ_iff.1 (Nat.lt_of_not_le hmany)
    have hbudget : b ≤ δ * n := (ceilDiv_le_iff_le_mul hδ).1 hle
    have harrival : δ * n ≤ q.arrival n := mul_le_arrival hdelay n
    have hbefore : q.arrival n < b := (h n (Nat.lt_succ_self n)).2 b hb
    omega

/-! ## What `converse` computes -/

/-- The call is not out of time before an answer that arrives within its budget. -/
theorem filter_budget (h : ∀ b ∈ q.terms.budget, q.arrival k ≤ b) :
    q.terms.budget.filter (· < q.arrival k) = none := by
  rw [Option.filter_eq_none_iff]
  intro b hb
  simpa using h b hb

/-- One more reconnect. -/
theorem comeBack_succ (q : Retrieval) (fuel j : Nat) :
    q.terms.comeBack (fun i => q.answers (i + 1)) (fuel + 1) j (q.arrival j) (q.id j) =
      match q.terms.budget.filter (· < q.arrival (j + 1)) with
      | some b => some ⟨b, .error (q.terms.gaveUp b (q.id j)), [q.id j]⟩
      | none =>
        match q.verdict (j + 1) with
        | .settled result => some ⟨q.arrival (j + 1), result, [q.id j]⟩
        | .comeBack next =>
          (q.terms.comeBack (fun i => q.answers (i + 1)) fuel (j + 1) (q.arrival (j + 1)) next).map
            fun c => { c with reconnects := q.id j :: c.reconnects } := rfl

namespace Ends

variable {n time : Nat}

/-- The conversation goes on after its answer `j` to its end. -/
theorem comeBack_eq (h : q.Ends n time result) (rest : Nat) :
    ∀ j, j + (rest + 1) = n →
      q.terms.comeBack (fun i => q.answers (i + 1)) (rest + 1) j (q.arrival j) (q.id j) =
        some ⟨time, result, (List.range' j (rest + 1)).map q.id⟩ := by
  induction rest with
  | zero =>
    rintro j rfl
    rw [comeBack_succ]
    cases h with
    | settled _ inTime verdict =>
      rw [filter_budget (inTime.resolve_left (Nat.succ_ne_zero j)), verdict]
      rfl
    | gaveUp _ hb late =>
      rw [hb, Option.filter_some, if_pos (decide_eq_true late)]
      rfl
  | succ rest ih =>
    intro j hj
    have hback : q.ComesBack (j + 1) := h.comesBack (by omega)
    rw [comeBack_succ, filter_budget fun b hb => Nat.le_of_lt (hback.2 b hb),
      verdict_of_comesBack hback]
    dsimp only
    rw [ih (j + 1) (by omega), List.range'_succ]
    rfl

/-- What `converse` says is how the talk ends. -/
theorem takes (h : q.Ends n time result) : q.Takes time result := by
  refine ⟨n, ?_⟩
  rw [CallTerms.converse, show q.terms.judge (q.answers 0).delay (q.answers 0).answer = q.verdict 0
    from rfl]
  cases n with
  | zero =>
    cases h with
    | settled _ _ verdict =>
      rw [verdict]
      rfl
  | succ n =>
    rw [verdict_of_comesBack (h.comesBack (Nat.succ_pos n)), List.range_eq_range']
    exact h.comeBack_eq n 0 (Nat.zero_add _)

end Ends

end Retrieval

end ScatterSearch
