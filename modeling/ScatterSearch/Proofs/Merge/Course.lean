import ScatterSearch.Proofs.Lists
import ScatterSearch.Proofs.Merge.FirstEvent

/-!
# The course of a merge

Where it is known when calls end, `Merge.course` says what comes of a merge. It goes from moment to
moment and so never looks when nothing happens. `timeline` lists what a merge sees that looks at
every instant, first at the clock alone and then at what happens: it comes to the same
(`watch_timeline`), and so `FirstEvent` says what ends a course.
-/

namespace ScatterSearch.Merge

variable {α π : Type}

/-- What a merge sees at an instant: that it is there, and then what happens. -/
def seenAt (moments : List (Moment π)) (instant : Nat) : List (Moment π) :=
  ⟨instant, none, []⟩ :: moments.filter (·.instant = instant)

/-- What a merge sees that begins at zero and looks at every instant up to `finish`. -/
def timeline (already : Moment π) (later : List (Moment π)) (finish : Nat) : List (Moment π) :=
  already :: (List.range' 0 (finish + 1)).flatMap (seenAt later)

variable {acc : Accumulator α π} {m m' : Merge α} {now : Nat}

/-! ## Looking at nothing -/

/-- A look at nothing does not change a merge that has time. -/
theorem watch_nothing {looks : List (Moment π)} (hpending : m.pending ≠ 0)
    (htime : now < m.deadline) :
    watch acc m (⟨now, none, []⟩ :: looks) = watch acc m looks := by
  have hpoll : m.poll acc now none [] = .waiting m := by
    rw [poll, consume, if_neg hpending, if_neg (Nat.not_le_of_lt htime)]
  rw [watch]
  simp only [Moment.results, List.map_nil, hpoll]

/-- A look at nothing shows that the time is over. -/
theorem watch_deadline {looks : List (Moment π)} (hpending : m.pending ≠ 0)
    (htime : m.deadline ≤ now) :
    watch acc m (⟨now, none, []⟩ :: looks) = some (.returned (.error m.timeout), now) := by
  have hpoll : m.poll acc now none [] = .ended (.error m.timeout) := by
    rw [poll, consume, if_neg hpending, if_pos htime]
  rw [watch]
  simp only [Moment.results, List.map_nil, hpoll]

/-- While nothing happens and there is time, a merge goes on. -/
theorem watch_pause {moments looks : List (Moment π)} {first count : Nat} (hpending : m.pending ≠ 0)
    (htime : first + count ≤ m.deadline)
    (hmoments : ∀ l ∈ moments, first + count ≤ l.instant) :
    watch acc m ((List.range' first count).flatMap (seenAt moments) ++ looks) =
      watch acc m looks := by
  induction count generalizing first with
  | zero => rfl
  | succ count ih =>
    have hnone : moments.filter (·.instant = first) = [] := by
      refine List.filter_eq_nil_iff.2 fun l hl => ?_
      have hle := hmoments l hl
      simp only [decide_eq_true_eq]
      omega
    rw [List.range'_succ, List.flatMap_cons, seenAt, hnone, List.cons_append, List.cons_append,
      List.nil_append, watch_nothing hpending (by omega)]
    exact ih (by omega) fun l hl => by
      have hle := hmoments l hl
      omega

/-! ## Following moments -/

theorem range'_split {first t finish : Nat} (hfirst : first ≤ t) (hfinish : t ≤ finish) :
    List.range' first (finish + 1 - first) =
      List.range' first (t - first) ++ t :: List.range' (t + 1) (finish - t) := by
  have hlength : finish + 1 - first = (t - first) + (finish - t + 1) := by omega
  rw [hlength, ← List.range'_append_1, Nat.add_sub_cancel' hfirst, List.range'_succ]

/-- When the time is over before anything else happens, that is what the merge reports. -/
theorem watch_timeout {moments : List (Moment π)} {first : Nat} (hpending : m.pending ≠ 0)
    (hfirst : first ≤ m.deadline) (hlater : ∀ l ∈ moments, m.deadline ≤ l.instant) :
    watch acc m ((List.range' first (m.deadline + 1 - first)).flatMap (seenAt moments)) =
      some (.returned (.error m.timeout), m.deadline) := by
  have hpause : first + (m.deadline - first) = m.deadline := Nat.add_sub_cancel' hfirst
  rw [range'_split hfirst (Nat.le_refl _), List.flatMap_append,
    watch_pause hpending (Nat.le_of_eq hpause) fun l hl => by rw [hpause]; exact hlater l hl,
    List.flatMap_cons, seenAt, List.cons_append]
  exact watch_deadline hpending (Nat.le_refl _)

/-- Up to the next moment a merge that has time sees nothing, and then the moment. -/
theorem watch_reach {moment : Moment π} {later : List (Moment π)} {first finish : Nat}
    (hpending : m.pending ≠ 0) (htime : moment.instant < m.deadline)
    (hfirst : first ≤ moment.instant) (hfinish : moment.instant ≤ finish)
    (hafter : ∀ l ∈ later, moment.instant < l.instant) :
    watch acc m ((List.range' first (finish + 1 - first)).flatMap (seenAt (moment :: later))) =
      watch acc m (moment ::
        (List.range' (moment.instant + 1) (finish - moment.instant)).flatMap (seenAt later)) := by
  have hpause : first + (moment.instant - first) = moment.instant := Nat.add_sub_cancel' hfirst
  have hnow : (moment :: later).filter (·.instant = moment.instant) = [moment] := by
    rw [List.filter_cons_of_pos (by simp), List.filter_eq_nil_iff.2]
    intro l hl
    have hlt := hafter l hl
    simp only [decide_eq_true_eq]
    omega
  have hthen : (List.range' (moment.instant + 1) (finish - moment.instant)).flatMap
      (seenAt (moment :: later)) =
    (List.range' (moment.instant + 1) (finish - moment.instant)).flatMap (seenAt later) := by
    refine List.flatMap_congr fun t ht => ?_
    have hlt : moment.instant < t := (List.mem_range'_1.1 ht).1
    rw [seenAt, seenAt, List.filter_cons_of_neg]
    simp only [decide_eq_true_eq]
    omega
  -- the looks before the moment, the look at that instant which sees nothing else, and the rest
  rw [range'_split hfirst hfinish, List.flatMap_append, watch_pause hpending (by omega),
    List.flatMap_cons, seenAt, hnow, hthen, List.cons_append, watch_nothing hpending htime]
  · rfl
  · intro l hl
    rw [hpause]
    rcases List.mem_cons.1 hl with rfl | hl
    · exact Nat.le_refl _
    · exact Nat.le_of_lt (hafter l hl)

/-- Going from moment to moment comes to the same as looking at every instant. -/
theorem watch_follow {moments : List (Moment π)} {seen : List Nat} {first : Nat}
    (hpending : m.pending ≠ 0) (hfirst : first ≤ m.deadline)
    (hsorted : moments.Pairwise (·.instant < ·.instant))
    (hlater : ∀ l ∈ moments, first ≤ l.instant) :
    first ≤ (m.follow acc seen moments).finish ∧
      watch acc m ((List.range' first ((m.follow acc seen moments).finish + 1 - first)).flatMap
        (seenAt moments)) =
        some ((m.follow acc seen moments).result, (m.follow acc seen moments).finish) := by
  induction moments generalizing m seen first with
  | nil => exact ⟨hfirst, watch_timeout hpending hfirst fun l hl => by cases hl⟩
  | cons moment later ih =>
    obtain ⟨hafter, hsorted⟩ := List.pairwise_cons.1 hsorted
    rw [follow]
    split
    · rename_i htime
      refine ⟨hfirst, watch_timeout hpending hfirst fun l hl => ?_⟩
      rcases List.mem_cons.1 hl with rfl | hl
      · exact htime
      · exact Nat.le_trans htime (Nat.le_of_lt (hafter l hl))
    · rename_i htime
      have hinstant : first ≤ moment.instant := hlater moment List.mem_cons_self
      have htime := Nat.lt_of_not_le htime
      cases hpoll : m.poll acc moment.instant moment.cancelled (moment.ended.map (·.2)) with
      | ended result =>
        refine ⟨hinstant, (watch_reach hpending htime hinstant (Nat.le_refl _) hafter).trans ?_⟩
        rw [watch, Moment.results, hpoll]
      | panicked =>
        refine ⟨hinstant, (watch_reach hpending htime hinstant (Nat.le_refl _) hafter).trans ?_⟩
        rw [watch, Moment.results, hpoll]
      | waiting m' =>
        obtain ⟨hpending', htime'⟩ := waiting_of_poll hpoll
        obtain ⟨hfinish, hwatch⟩ := @ih m' (seen ++ moment.ended.map (·.1)) _ hpending' htime'
          hsorted fun l hl => hafter l hl
        refine ⟨Nat.le_trans hinstant (Nat.le_of_succ_le hfinish), ?_⟩
        rw [watch_reach hpending htime hinstant (Nat.le_of_succ_le hfinish) hafter, watch,
          Moment.results, hpoll]
        rw [Nat.succ_sub_succ] at hwatch
        exact hwatch

variable {limits : MergeLimits} {query : String}

/-- A merge whose moments are known reports what it would report if it looked at every instant. -/
theorem watch_timeline {calls : Nat} {already : Moment π} {later : List (Moment π)}
    (halready : already.instant = 0) (hsorted : later.Pairwise (·.instant < ·.instant)) :
    watch acc (start acc limits query calls 0)
        (timeline already later (run acc limits query calls already later).finish) =
      some ((run acc limits query calls already later).result,
        (run acc limits query calls already later).finish) := by
  rw [run]
  cases hpoll : (start acc limits query calls 0).poll acc 0 already.cancelled
      (already.ended.map (·.2)) with
  | ended result =>
    dsimp only
    rw [timeline, watch, Moment.results, halready, hpoll]
  | panicked =>
    dsimp only
    rw [timeline, watch, Moment.results, halready, hpoll]
  | waiting m' =>
    dsimp only
    obtain ⟨hpending, -⟩ := waiting_of_poll hpoll
    rw [timeline, watch, Moment.results, halready, hpoll]
    exact (watch_follow hpending (Nat.zero_le _) hsorted fun _ _ => Nat.zero_le _).2

/-! ## The moments of given calls -/

/-- The instants at which something happens. -/
def instants (calls : List (TimedCall π)) (cancel : Option (Nat × CancelReason)) : List Nat :=
  (calls.filterMap (·.ends) ++ (cancel.map (·.1)).toList).eraseDups.mergeSort fun a b =>
    decide (a ≤ b)

theorem instants_sorted (calls : List (TimedCall π)) (cancel : Option (Nat × CancelReason)) :
    (instants calls cancel).Pairwise (· < ·) := by
  have hle : (instants calls cancel).Pairwise fun a b => decide (a ≤ b) = true := by
    rw [instants]
    refine List.pairwise_mergeSort ?_ ?_ _
    · intro a b c hab hbc
      exact decide_eq_true (Nat.le_trans (of_decide_eq_true hab) (of_decide_eq_true hbc))
    · intro a b
      rw [Bool.or_eq_true, decide_eq_true_eq, decide_eq_true_eq]
      exact Nat.le_total a b
  have hnodup : (instants calls cancel).Nodup :=
    (List.mergeSort_perm _ _).nodup_iff.2 (Lists.nodup_eraseDups _)
  refine (hle.and hnodup).imp fun h => ?_
  exact Nat.lt_of_le_of_ne (of_decide_eq_true h.1) h.2

/-- What has happened when the merge looks for the first time. -/
def alreadyThere (calls : List (TimedCall π)) (settled : Bool) (before : Option CancelReason) :
    Moment π :=
  ⟨0, before, if settled then endingAt calls 0 else []⟩

/-- What happens later, as far as it was not there already. -/
def afterwards (calls : List (TimedCall π)) (settled : Bool)
    (cancel : Option (Nat × CancelReason)) : List (Moment π) :=
  (moments calls cancel).filterMap fun m =>
    if settled && m.instant = 0 then m.cancelled.map fun _ => { m with ended := [] } else some m

theorem course_eq_run {calls : List (TimedCall π)} {settled : Bool} {before : Option CancelReason}
    {cancel : Option (Nat × CancelReason)} :
    course acc limits query calls settled before cancel =
      run acc limits query calls.length (alreadyThere calls settled before)
        (afterwards calls settled cancel) := rfl

theorem afterwards_sorted (calls : List (TimedCall π)) (settled : Bool)
    (cancel : Option (Nat × CancelReason)) :
    (afterwards calls settled cancel).Pairwise (·.instant < ·.instant) := by
  have hmoments : (moments calls cancel).Pairwise (·.instant < ·.instant) :=
    List.pairwise_map.2 (instants_sorted calls cancel)
  refine hmoments.filterMap _ fun a a' hlt b hb b' hb' => ?_
  have hsame : ∀ {m l : Moment π}, (if settled && m.instant = 0 then
      m.cancelled.map fun _ => { m with ended := [] } else some m) = some l →
      l.instant = m.instant := by
    intro m l h
    split at h
    · obtain ⟨_, -, rfl⟩ := Option.map_eq_some_iff.1 h
      rfl
    · rw [Option.some.inj h]
  rw [hsame hb, hsame hb']
  exact hlt

/-! ## Each call ends once -/

theorem length_endingAt (calls : List (TimedCall π)) (instant : Nat) :
    (endingAt calls instant).length = (calls.filter (·.ends = some instant)).length := by
  rw [endingAt, List.mapIdx_eq_zipIdx_map, List.filterMap_map, List.length_filterMap_eq_countP,
    ← List.countP_eq_length_filter]
  have hcalls : calls.zipIdx.map (·.1) = calls := List.zipIdx_map_fst ..
  conv_rhs => rw [← hcalls, List.countP_map]
  refine List.countP_congr fun x _ => ?_
  by_cases h : x.1.ends = some instant <;> simp [h]

/-- Different instants bring different calls. -/
theorem length_flatMap_endingAt_le (calls : List (TimedCall π)) {instants : List Nat}
    (h : instants.Nodup) : (instants.flatMap (endingAt calls)).length ≤ calls.length := by
  have hkeys : (instants.map some).Nodup := h.map fun _ _ => Option.some.inj
  have hle := Lists.length_flatMap_filter_le (·.ends) (fun c => [c]) (instants.map some) calls hkeys
  simp only [List.flatMap_map, List.flatMap_singleton'] at hle
  rw [List.length_flatMap] at hle ⊢
  simp only [length_endingAt]
  exact hle

/-- The calls that end at zero are not seen again if they were there already. -/
theorem length_afterwards_eq (calls : List (TimedCall π)) (settled : Bool)
    (cancel : Option (Nat × CancelReason)) :
    ((afterwards calls settled cancel).flatMap Moment.results).length =
      (((instants calls cancel).filter fun t => !(settled && decide (t = 0))).flatMap
        (endingAt calls)).length := by
  rw [afterwards, show moments calls cancel = (instants calls cancel).map _ from rfl,
    List.filterMap_map]
  induction instants calls cancel with
  | nil => rfl
  | cons t ts ih =>
    rw [List.filterMap_cons, List.filter_cons]
    cases hagain : (settled && decide (t = 0)) with
    | true =>
      simp only [Function.comp_apply, hagain, if_true, Bool.not_true, Bool.false_eq_true, if_false]
      cases (cancel.filter (·.1 = t)).map (·.2) with
      | none => exact ih
      | some reason => exact ih
    | false =>
      simp only [Function.comp_apply, hagain, Bool.false_eq_true, if_false, Bool.not_false, if_true,
        List.flatMap_cons, List.length_append, Moment.results, List.length_map]
      exact congrArg _ ih

theorem length_afterwards_le (calls : List (TimedCall π)) (settled : Bool)
    (before : Option CancelReason) (cancel : Option (Nat × CancelReason)) :
    (alreadyThere calls settled before).results.length +
      ((afterwards calls settled cancel).flatMap Moment.results).length ≤ calls.length := by
  have hnodup : (instants calls cancel).Nodup :=
    (instants_sorted calls cancel).imp Nat.ne_of_lt
  rw [length_afterwards_eq]
  cases settled with
  | false =>
    refine Nat.le_trans (Nat.le_of_eq (Nat.zero_add _)) (length_flatMap_endingAt_le calls ?_)
    exact hnodup.filter _
  | true =>
    have hkeys :
        (0 :: (instants calls cancel).filter fun t => !(true && decide (t = 0))).Nodup := by
      refine List.nodup_cons.2 ⟨fun hmem => ?_, hnodup.filter _⟩
      simp at hmem
    have hle := length_flatMap_endingAt_le calls hkeys
    rw [List.flatMap_cons, List.length_append] at hle
    refine Nat.le_trans (Nat.le_of_eq ?_) hle
    rw [Moment.results, List.length_map]
    rfl

/-- What a merge sees, each call only once. -/
theorem length_timeline_le {calls finish : Nat} {already : Moment π} {later : List (Moment π)}
    (h : already.results.length + (later.flatMap Moment.results).length ≤ calls) :
    ((timeline already later finish).flatMap Moment.results).length ≤ calls := by
  have hseen : ∀ t, (seenAt later t).flatMap Moment.results =
      (later.filter (·.instant = t)).flatMap Moment.results := fun t => rfl
  have hle := Lists.length_flatMap_filter_le Moment.instant Moment.results
    (List.range' 0 (finish + 1)) later List.nodup_range'
  rw [timeline, List.flatMap_cons, List.length_append, List.flatMap_assoc]
  simp only [hseen]
  exact Nat.le_trans (Nat.add_le_add_left hle _) h

/-- A merge reports the first event that ends it, and nothing else: whatever its calls bring, in
whatever order and at whatever looks, and so in every course of calls whose ends are known. -/
theorem merge_reports_first_event (acc : Accumulator α π) (limits : MergeLimits) (query : String) :
    (∀ (calls start : Nat) (looks : List (Moment π)), 0 < calls →
      (looks.flatMap Moment.results).length ≤ calls →
      ∀ result finish,
        watch acc (Merge.start acc limits query calls start) looks = some (result, finish) ↔
          FirstEvent acc limits query calls start looks result finish) ∧
    ∀ (calls : List (TimedCall π)) (settled : Bool) (before : Option CancelReason)
      (cancel : Option (Nat × CancelReason)), calls ≠ [] →
      FirstEvent acc limits query calls.length 0
        (timeline (alreadyThere calls settled before) (afterwards calls settled cancel)
          (course acc limits query calls settled before cancel).finish)
        (course acc limits query calls settled before cancel).result
        (course acc limits query calls settled before cancel).finish := by
  refine ⟨fun calls start looks hpos hcalls result finish => watch_eq_some_iff hpos hcalls,
    fun calls settled before cancel hne => ?_⟩
  have hpos : 0 < calls.length := List.length_pos_iff.2 hne
  rw [course_eq_run]
  refine (watch_eq_some_iff hpos (length_timeline_le ?_)).1 ?_
  · exact length_afterwards_le calls settled before cancel
  · exact watch_timeline rfl (afterwards_sorted calls settled cancel)

/-- Parts that are counted. -/
def counting : Accumulator UInt64 UInt64 :=
  ⟨0, (· + ·), id, fun total part => decide (UInt64.size ≤ total.toNat + part.toNat)⟩

/-- Of three calls two bring enough, and the third, which has not ended, is cancelled; and the same
calls given by their times. -/
theorem counting_stops_early :
    FirstEvent counting ⟨5, 60⟩ "q" 3 0
      [⟨1, none, [(0, .ok 2)]⟩, ⟨1, none, []⟩, ⟨2, none, [(1, .ok 5)]⟩, ⟨10, none, [(2, .ok 9)]⟩]
      (.returned (.ok ⟨7, .earlyStop, 2, 1⟩)) 2 ∧
    FirstEvent counting ⟨5, 60⟩ "q" 1 0
      (timeline (alreadyThere [⟨"a", some 1, .ok 2⟩] false none)
        (afterwards [⟨"a", some 1, .ok 2⟩] false (some (3, .user)))
        (course counting ⟨5, 60⟩ "q" [⟨"a", some 1, .ok 2⟩] false none (some (3, .user))).finish)
      (course counting ⟨5, 60⟩ "q" [⟨"a", some 1, .ok 2⟩] false none (some (3, .user))).result
      (course counting ⟨5, 60⟩ "q" [⟨"a", some 1, .ok 2⟩] false none (some (3, .user))).finish :=
  ⟨((merge_reports_first_event counting ⟨5, 60⟩ "q").1 3 0 _ (by decide) (by decide) _ _).1 rfl,
    (merge_reports_first_event counting ⟨5, 60⟩ "q").2 [⟨"a", some 1, .ok 2⟩] false none
      (some (3, .user)) (by simp)⟩

end ScatterSearch.Merge
