import Mathlib.Data.List.Induction
import ScatterSearch.Merge.Timeline

/-!
# The first event of a merge

A merge looks at its calls again and again, and stops at the first thing that ends it. Here is what
that is, said of the looks alone:

* `Quiet` says that nothing has happened yet that ends the merge;
* `Event` lists what can happen at one look, and what the merge then reports;
* `FirstEvent` says that something ends the merge at a look, and nothing did before.

How a merge counts, what it keeps and when its time is over are nowhere in these. That they describe
every merge is shown with `going`, the state of a merge that has consumed some parts.
-/

namespace ScatterSearch

variable {α π : Type}

namespace Moment

/-- The results that are there at a moment, in order. -/
def results (look : Moment π) : List (Except ClusterError π) := look.ended.map (·.2)

/-- When something was consumed for the last time, after one more look. -/
def lastConsumed (last : Nat) (look : Moment π) : Nat :=
  if look.ended.isEmpty then last else look.instant

end Moment

/-- How a merge stands that ended. -/
def MergeExit.progress : MergeExit α → MergeProgress α
  | .returned result => .ended result
  | .panicked => .panicked

namespace Merge

/-- What comes of a merge that looks at the given moments, and when; none if it goes on. -/
def watch (acc : Accumulator α π) (m : Merge α) : List (Moment π) → Option (MergeExit α × Nat)
  | [] => none
  | look :: later =>
    match m.poll acc look.instant look.cancelled look.results with
    | .ended result => some (.returned result, look.instant)
    | .panicked => some (.panicked, look.instant)
    | .waiting m => watch acc m later

/-! ## One look -/

/-- What one look at the results that are there comes to, when the query was not cancelled: the
results are parts up to the one that ends the merge, and all of them if none does. -/
inductive Consumed (acc : Accumulator α π) (now : Nat) (m : Merge α) :
    List (Except ClusterError π) → MergeProgress α → Prop
  | waiting (parts : List π) : (parts.foldl (take acc now) m).pending ≠ 0 →
      now < (parts.foldl (take acc now) m).deadline →
      Consumed acc now m (parts.map .ok) (.waiting (parts.foldl (take acc now) m))
  | exhausted (parts : List π) : (parts.foldl (take acc now) m).pending = 0 →
      Consumed acc now m (parts.map .ok) (.ended (.ok (parts.foldl (take acc now) m).exhaust))
  | timedOut (parts : List π) : (parts.foldl (take acc now) m).pending ≠ 0 →
      (parts.foldl (take acc now) m).deadline ≤ now →
      Consumed acc now m (parts.map .ok) (.ended (.error (parts.foldl (take acc now) m).timeout))
  | failed (parts : List π) (e : ClusterError) (rest : List (Except ClusterError π)) :
      Consumed acc now m (parts.map .ok ++ .error e :: rest) (.ended (.error e))
  | enough (parts : List π) (part : π) (rest : List (Except ClusterError π)) :
      ((parts ++ [part]).foldl (take acc now) m).isEnough acc = true →
      Consumed acc now m (parts.map .ok ++ .ok part :: rest)
        (.ended (.ok (((parts ++ [part]).foldl (take acc now) m).stopEarly rest.length)))
  | panicked (parts : List π) (part : π) (rest : List (Except ClusterError π)) :
      acc.panics (parts.foldl (take acc now) m).aggregate part = true →
      Consumed acc now m (parts.map .ok ++ .ok part :: rest) .panicked

section

variable {acc : Accumulator α π} {now : Nat} {m m' : Merge α}
  {ready : List (Except ClusterError π)} {cancelled : Option CancelReason} {p : MergeProgress α}

/-- A part that is taken in comes before what is consumed after it. -/
theorem Consumed.cons {part : π} (h : Consumed acc now (m.take acc now part) ready p) :
    Consumed acc now m (.ok part :: ready) p := by
  cases h with
  | waiting parts hpending htime => exact .waiting (part :: parts) hpending htime
  | exhausted parts hpending => exact .exhausted (part :: parts) hpending
  | timedOut parts hpending htime => exact .timedOut (part :: parts) hpending htime
  | failed parts e rest => exact .failed (part :: parts) e rest
  | enough parts last rest henough => exact .enough (part :: parts) last rest henough
  | panicked parts last rest hpanics => exact .panicked (part :: parts) last rest hpanics

/-- A merge consumes what is there until it ends. -/
theorem consumed (acc : Accumulator α π) (now : Nat) (m : Merge α)
    (ready : List (Except ClusterError π)) :
    Consumed acc now m ready (m.consume acc now ready) := by
  induction ready generalizing m with
  | nil =>
    rw [consume]
    split
    · rename_i hpending
      exact .exhausted [] hpending
    · rename_i hpending
      split
      · rename_i htime
        exact .timedOut [] hpending htime
      · rename_i htime
        exact .waiting [] hpending (Nat.lt_of_not_le htime)
  | cons result ready ih =>
    cases result with
    | error e => exact .failed [] e ready
    | ok part =>
      simp only [consume]
      split
      · rename_i hpanics
        exact .panicked [] part ready hpanics
      · split
        · rename_i henough
          exact .enough [] part ready henough
        · exact (ih (m.take acc now part)).cons

/-- A part that can be added is taken in, and may be enough. -/
theorem consume_of_adds {part : π} (h : acc.panics m.aggregate part = false) :
    m.consume acc now (.ok part :: ready) =
      if (m.take acc now part).isEnough acc then
        .ended (.ok ((m.take acc now part).stopEarly ready.length))
      else (m.take acc now part).consume acc now ready := by
  rw [consume, h]
  rfl

theorem consume_nil_ne_panicked : m.consume acc now [] ≠ .panicked := by
  rw [consume]
  split
  · exact fun h => nomatch h
  · split <;> exact fun h => nomatch h

/-- A merge that goes on waits for some call, and has time. -/
theorem waiting_of_poll (h : m.poll acc now cancelled ready = .waiting m') :
    m'.pending ≠ 0 ∧ now < m'.deadline := by
  cases cancelled with
  | some reason =>
    simp only [poll] at h
    split at h <;> cases h
  | none =>
    have hlook := consumed acc now m ready
    rw [show m.consume acc now ready = .waiting m' from h] at hlook
    cases hlook with
    | waiting parts hpending htime => exact ⟨hpending, htime⟩

end

/-! ## Events -/

/-- All the parts can be added, and there are never enough results while they come in. -/
def Below (acc : Accumulator α π) (limits : MergeLimits) (parts : List π) : Prop :=
  ∀ taken part, taken ++ [part] <+: parts → acc.panics (acc.fold taken) part = false ∧
    acc.total (acc.fold (taken ++ [part])) < limits.minimum

/-- After the given looks a merge of `calls` calls that began at `start` goes on: the query was
not cancelled, there were only parts, not from all calls and never enough of them, and at no look
was the time over. -/
structure Quiet (acc : Accumulator α π) (limits : MergeLimits) (calls start : Nat)
    (looks : List (Moment π)) (parts : List π) : Prop where
  cancelled : ∀ look ∈ looks, look.cancelled = none
  results : looks.flatMap Moment.results = parts.map .ok
  below : Below acc limits parts
  pending : parts.length < calls
  time : ∀ before look after, looks = before ++ look :: after →
    look.instant < (before ++ [look]).foldl Moment.lastConsumed start + limits.maxQueryTime

/-- What ends a merge at one look, after it has consumed the given parts, the last of them at
`last`; and what it reports. -/
inductive Event (acc : Accumulator α π) (limits : MergeLimits) (query : String) (calls last : Nat)
    (parts : List π) (look : Moment π) : MergeExit α → Prop
  /-- the query is cancelled, whatever else there is -/
  | cancelled (reason : CancelReason) : look.cancelled = some reason →
      Event acc limits query calls last parts look (.returned (.error (.cancelled reason)))
  /-- a call failed -/
  | failed (more : List π) (e : ClusterError) (rest : List (Except ClusterError π)) :
      look.cancelled = none → look.results = more.map .ok ++ .error e :: rest →
      Below acc limits (parts ++ more) →
      Event acc limits query calls last parts look (.returned (.error e))
  /-- there are enough results for the first time; the calls that have not ended are cancelled -/
  | enough (more : List π) (part : π) (rest : List (Except ClusterError π)) :
      look.cancelled = none → look.results = more.map .ok ++ .ok part :: rest →
      Below acc limits (parts ++ more) → acc.panics (acc.fold (parts ++ more)) part = false →
      limits.minimum ≤ acc.total (acc.fold (parts ++ more ++ [part])) →
      Event acc limits query calls last parts look
        (.returned (.ok ⟨acc.fold (parts ++ more ++ [part]), .earlyStop,
          (parts ++ more ++ [part]).length,
          calls - (parts ++ more ++ [part]).length - rest.length⟩))
  /-- a part cannot be added -/
  | panicked (more : List π) (part : π) (rest : List (Except ClusterError π)) :
      look.cancelled = none → look.results = more.map .ok ++ .ok part :: rest →
      Below acc limits (parts ++ more) → acc.panics (acc.fold (parts ++ more)) part = true →
      Event acc limits query calls last parts look .panicked
  /-- all calls were consumed -/
  | exhausted (more : List π) : look.cancelled = none → look.results = more.map .ok →
      Below acc limits (parts ++ more) → (parts ++ more).length = calls →
      Event acc limits query calls last parts look
        (.returned (.ok ⟨acc.fold (parts ++ more), .exhausted, calls, 0⟩))
  /-- nothing more is there, and the time since something was consumed is over -/
  | timedOut (more : List π) : look.cancelled = none → look.results = more.map .ok →
      Below acc limits (parts ++ more) → (parts ++ more).length < calls →
      look.lastConsumed last + limits.maxQueryTime ≤ look.instant →
      Event acc limits query calls last parts look
        (.returned (.error (.queryTimeout limits.maxQueryTime query)))

/-- Something ends the merge at one of the looks, and nothing did before. -/
def FirstEvent (acc : Accumulator α π) (limits : MergeLimits) (query : String) (calls start : Nat)
    (looks : List (Moment π)) (result : MergeExit α) (finish : Nat) : Prop :=
  ∃ before look after parts, looks = before ++ look :: after ∧
    Quiet acc limits calls start before parts ∧
    Event acc limits query calls (before.foldl Moment.lastConsumed start) parts look result ∧
    finish = look.instant

/-! ## A merge that goes on -/

variable {acc : Accumulator α π} {limits : MergeLimits} {query : String}
  {calls start last now : Nat} {looks : List (Moment π)} {look : Moment π} {parts : List π}
  {result : MergeExit α}

/-- A merge that has consumed some parts, the last of them at the instant `last`. -/
def going (acc : Accumulator α π) (limits : MergeLimits) (query : String) (calls : Nat)
    (parts : List π) (last : Nat) : Merge α :=
  ⟨limits, query, calls - parts.length, acc.fold parts, parts.length, last + limits.maxQueryTime⟩

theorem start_eq_going : Merge.start acc limits query calls start =
    going acc limits query calls [] start := rfl

/-- One more part is added at the end. -/
theorem fold_concat (part : π) : acc.fold (parts ++ [part]) = acc.add (acc.fold parts) part := by
  simp [Accumulator.fold]

/-- A merge that takes one more part in goes on with it. -/
theorem take_going (part : π) : (going acc limits query calls parts last).take acc now part =
    going acc limits query calls (parts ++ [part]) now := by
  rw [going, take, going, fold_concat, List.length_append]
  rfl

theorem isEnough_going : (going acc limits query calls parts last).isEnough acc =
    decide (limits.minimum ≤ acc.total (acc.fold parts)) := rfl

/-- Before any part a merge is short of results. -/
theorem below_nil : Below acc limits [] := by
  intro taken part h
  simp at h

theorem below_concat {part : π} : Below acc limits (parts ++ [part]) ↔
    Below acc limits parts ∧ acc.panics (acc.fold parts) part = false ∧
      acc.total (acc.fold (parts ++ [part])) < limits.minimum := by
  constructor
  · intro h
    exact ⟨fun taken last htaken => h taken last (htaken.trans (List.prefix_append parts [part])),
      h _ _ (List.prefix_refl _)⟩
  · rintro ⟨hbelow, hlast⟩ taken last htaken
    rcases List.prefix_concat_iff.1 htaken with heq | htaken
    · obtain ⟨rfl, hpart⟩ := List.append_inj' heq rfl
      obtain rfl := List.singleton_inj.1 hpart
      exact hlast
    · exact hbelow taken last htaken

theorem Below.of_append {more : List π} (h : Below acc limits (parts ++ more)) :
    Below acc limits parts :=
  fun taken part htaken => h taken part (htaken.trans (List.prefix_append parts more))

/-- As long as there are not enough results, parts are consumed one after the other. -/
theorem consume_parts {more : List π} (rest : List (Except ClusterError π))
    (h : Below acc limits (parts ++ more)) :
    (going acc limits query calls parts last).consume acc now (more.map .ok ++ rest) =
      (going acc limits query calls (parts ++ more)
        (if more.isEmpty then last else now)).consume acc now rest := by
  induction more generalizing parts last with
  | nil => simp
  | cons part more ih =>
    have happend : parts ++ part :: more = (parts ++ [part]) ++ more := by simp
    rw [happend] at h ⊢
    obtain ⟨-, hpanics, hless⟩ := below_concat.1 h.of_append
    rw [List.map_cons, List.cons_append, consume_of_adds hpanics, take_going, isEnough_going,
      decide_eq_false (UInt64.not_le.2 hless)]
    refine (ih h).trans ?_
    cases more <;> rfl

/-- The instant from which the time for the next part counts. -/
theorem lastConsumed_eq {more : List π} (h : look.results = more.map .ok) :
    look.lastConsumed last = if more.isEmpty then last else look.instant := by
  have hlength := congrArg List.length h
  rw [Moment.results, List.length_map, List.length_map] at hlength
  rw [Moment.lastConsumed]
  cases hended : look.ended <;> cases more <;> simp_all

/-- Looks at which nothing ends the merge leave it with the parts that they bring. -/
theorem consume_all {more : List π} (h : look.results = more.map .ok)
    (hbelow : Below acc limits (parts ++ more)) :
    (going acc limits query calls parts last).consume acc look.instant look.results =
      (going acc limits query calls (parts ++ more) (look.lastConsumed last)).consume acc
        look.instant [] := by
  rw [h, lastConsumed_eq h, ← List.append_nil (more.map _), consume_parts [] hbelow]

/-- What ends a merge is what it reports. -/
theorem poll_event (hpending : parts.length < calls)
    (h : Event acc limits query calls last parts look result) :
    (going acc limits query calls parts last).poll acc look.instant look.cancelled look.results =
      result.progress := by
  cases h with
  | cancelled reason hcancelled =>
    have hopen : (going acc limits query calls parts last).pending ≠ 0 :=
      Nat.sub_ne_zero_of_lt hpending
    simp only [poll, hcancelled, if_neg hopen, MergeExit.progress]
  | failed more e rest hcancelled hresults hbelow =>
    simp only [poll, hcancelled]
    rw [hresults, consume_parts _ hbelow]
    rfl
  | enough more part rest hcancelled hresults hbelow hpanics henough =>
    simp only [poll, hcancelled]
    rw [hresults, consume_parts _ hbelow, consume_of_adds hpanics, take_going, isEnough_going,
      decide_eq_true henough]
    rfl
  | panicked more part rest hcancelled hresults hbelow hpanics =>
    simp only [poll, hcancelled]
    rw [hresults, consume_parts _ hbelow]
    exact if_pos hpanics
  | exhausted more hcancelled hresults hbelow hall =>
    simp only [poll, hcancelled]
    rw [consume_all hresults hbelow, consume]
    have hnone : (going acc limits query calls (parts ++ more) (look.lastConsumed last)).pending =
        0 := by
      rw [going, hall, Nat.sub_self]
    rw [if_pos hnone, exhaust, going, hall]
    rfl
  | timedOut more hcancelled hresults hbelow hopen htime =>
    simp only [poll, hcancelled]
    rw [consume_all hresults hbelow, consume]
    have hsome : (going acc limits query calls (parts ++ more) (look.lastConsumed last)).pending ≠
        0 := Nat.sub_ne_zero_of_lt hopen
    rw [if_neg hsome]
    exact if_pos htime

/-- What does not end a merge leaves it going. -/
theorem poll_quiet {more : List π} (hcancelled : look.cancelled = none)
    (hresults : look.results = more.map .ok) (hbelow : Below acc limits (parts ++ more))
    (hpending : (parts ++ more).length < calls)
    (htime : look.instant < look.lastConsumed last + limits.maxQueryTime) :
    (going acc limits query calls parts last).poll acc look.instant look.cancelled look.results =
      .waiting (going acc limits query calls (parts ++ more) (look.lastConsumed last)) := by
  simp only [poll, hcancelled]
  rw [consume_all hresults hbelow, consume]
  have hsome : (going acc limits query calls (parts ++ more) (look.lastConsumed last)).pending ≠
      0 := Nat.sub_ne_zero_of_lt hpending
  rw [if_neg hsome]
  exact if_neg (Nat.not_le_of_lt htime)

/-! ## Quiet looks -/

/-- Before any look nothing has come. -/
theorem quiet_nil (hcalls : 0 < calls) : Quiet acc limits calls start [] [] where
  cancelled := by intro look hlook; cases hlook
  results := rfl
  below := below_nil
  pending := hcalls
  time := by
    intro before look after h
    cases before <;> cases h

/-- A look is quiet if nothing ends the merge at it. -/
theorem quiet_concat {more : List π} (h : Quiet acc limits calls start looks parts)
    (hcancelled : look.cancelled = none) (hresults : look.results = more.map .ok)
    (hbelow : Below acc limits (parts ++ more)) (hpending : (parts ++ more).length < calls)
    (htime : look.instant <
      look.lastConsumed (looks.foldl Moment.lastConsumed start) + limits.maxQueryTime) :
    Quiet acc limits calls start (looks ++ [look]) (parts ++ more) where
  cancelled := by
    intro l hl
    rcases List.mem_append.1 hl with hl | hl
    · exact h.cancelled l hl
    · rw [List.mem_singleton.1 hl]
      exact hcancelled
  results := by
    rw [List.flatMap_append, h.results, List.flatMap_singleton, hresults, List.map_append]
  below := hbelow
  pending := hpending
  time := by
    intro before l after heq
    -- the look in question is the new one, or one of those before
    rcases List.eq_nil_or_concat after with rfl | ⟨after, l', rfl⟩
    · obtain ⟨rfl, hl⟩ := List.append_inj' heq rfl
      obtain rfl := List.singleton_inj.1 hl
      rw [List.foldl_append]
      exact htime
    · rw [List.concat_eq_append, ← List.cons_append, ← List.append_assoc] at heq
      obtain ⟨hlooks, -⟩ := List.append_inj' heq rfl
      exact h.time before l after hlooks

/-- All looks of a quiet course are quiet. -/
theorem quiet_of_concat (h : Quiet acc limits calls start (looks ++ [look]) parts) :
    ∃ before more, parts = before ++ more ∧ Quiet acc limits calls start looks before ∧
      look.cancelled = none ∧ look.results = more.map .ok ∧
      look.instant < look.lastConsumed (looks.foldl Moment.lastConsumed start) +
        limits.maxQueryTime := by
  have hresults := h.results
  rw [List.flatMap_append, List.flatMap_singleton] at hresults
  obtain ⟨before, more, rfl, hbefore, hmore⟩ := List.map_eq_append_iff.1 hresults.symm
  refine ⟨before, more, rfl, ?_, ?_, hmore.symm, ?_⟩
  · refine ⟨fun l hl => h.cancelled l (List.mem_append_left _ hl), hbefore.symm, h.below.of_append,
      ?_, fun first l after heq => ?_⟩
    · have hpending := h.pending
      rw [List.length_append] at hpending
      omega
    · refine h.time first l (after ++ [look]) ?_
      rw [heq, List.append_assoc, List.cons_append]
  · exact h.cancelled look (List.mem_append_right _ (List.mem_singleton.2 rfl))
  · have htime := h.time looks look [] rfl
    rw [List.foldl_append] at htime
    exact htime

/-- Looks at which nothing ended the merge lead to the state with all parts that they brought. -/
theorem watch_quiet (h : Quiet acc limits calls start looks parts) (later : List (Moment π)) :
    watch acc (Merge.start acc limits query calls start) (looks ++ later) =
      watch acc (going acc limits query calls parts (looks.foldl Moment.lastConsumed start))
        later := by
  induction looks using List.reverseRecOn generalizing parts later with
  | nil =>
    obtain rfl : parts = [] := List.map_eq_nil_iff.1 h.results.symm
    rfl
  | append_singleton looks look ih =>
    obtain ⟨before, more, rfl, hquiet, hcancelled, hresults, htime⟩ := quiet_of_concat h
    rw [List.append_assoc, ih hquiet, List.singleton_append, watch,
      poll_quiet hcancelled hresults h.below h.pending htime, List.foldl_append]
    rfl

/-- Results are parts, as long as no call failed, all can be added and there are not enough
results. -/
theorem scan (hbelow : Below acc limits parts) (results : List (Except ClusterError π)) :
    (∃ more, results = more.map .ok ∧ Below acc limits (parts ++ more)) ∨
    (∃ more e rest, results = more.map .ok ++ .error e :: rest ∧
      Below acc limits (parts ++ more)) ∨
    ∃ more part rest, results = more.map .ok ++ .ok part :: rest ∧
      Below acc limits (parts ++ more) ∧ (acc.panics (acc.fold (parts ++ more)) part = true ∨
        acc.panics (acc.fold (parts ++ more)) part = false ∧
          limits.minimum ≤ acc.total (acc.fold (parts ++ more ++ [part]))) := by
  induction results generalizing parts with
  | nil => exact .inl ⟨[], rfl, by rwa [List.append_nil]⟩
  | cons result results ih =>
    cases result with
    | error e => exact .inr (.inl ⟨[], e, results, rfl, by rwa [List.append_nil]⟩)
    | ok part =>
      have hnone : parts ++ [] = parts := List.append_nil parts
      cases hpanics : acc.panics (acc.fold parts) part with
      | true =>
        exact .inr (.inr ⟨[], part, results, rfl, hnone.symm ▸ hbelow, .inl (hnone.symm ▸ hpanics)⟩)
      | false =>
        by_cases henough : limits.minimum ≤ acc.total (acc.fold (parts ++ [part]))
        · exact .inr (.inr ⟨[], part, results, rfl, hnone.symm ▸ hbelow,
            .inr ⟨hnone.symm ▸ hpanics, hnone.symm ▸ henough⟩⟩)
        · -- one more part is merged, and the rest is looked at from there
          have hmore : ∀ more, parts ++ [part] ++ more = parts ++ part :: more := fun more => by
            rw [List.append_assoc, List.singleton_append]
          rcases ih (below_concat.2 ⟨hbelow, hpanics, UInt64.not_le.1 henough⟩) with
            ⟨more, rfl, h⟩ | ⟨more, e, rest, rfl, h⟩ | ⟨more, last, rest, rfl, h, hlast⟩
          · exact .inl ⟨part :: more, rfl, hmore more ▸ h⟩
          · exact .inr (.inl ⟨part :: more, e, rest, rfl, hmore more ▸ h⟩)
          · exact .inr (.inr ⟨part :: more, last, rest, rfl, hmore more ▸ h, hmore more ▸ hlast⟩)

/-- A merge panics at a part that cannot be added, if nothing before it ends the merge. -/
theorem consume_eq_panicked_iff (hbelow : Below acc limits parts)
    {ready : List (Except ClusterError π)} :
    (going acc limits query calls parts last).consume acc now ready = .panicked ↔
      ∃ more part rest, ready = more.map .ok ++ .ok part :: rest ∧
        Below acc limits (parts ++ more) ∧ acc.panics (acc.fold (parts ++ more)) part = true := by
  constructor
  · intro h
    rcases scan hbelow ready with ⟨more, rfl, hmore⟩ | ⟨more, e, rest, rfl, hmore⟩ |
      ⟨more, part, rest, rfl, hmore, hpanics | ⟨hadds, henough⟩⟩
    · rw [← List.append_nil (more.map _), consume_parts [] hmore] at h
      exact absurd h consume_nil_ne_panicked
    · rw [consume_parts _ hmore] at h
      cases h
    · exact ⟨more, part, rest, rfl, hmore, hpanics⟩
    · rw [consume_parts _ hmore, consume_of_adds hadds, take_going, isEnough_going,
        decide_eq_true henough] at h
      cases h
  · rintro ⟨more, part, rest, rfl, hmore, hpanics⟩
    rw [consume_parts _ hmore]
    exact if_pos hpanics

/-- At every look something ends the merge, or the merge goes on with what the look brought. -/
theorem event_or_quiet (h : Quiet acc limits calls start looks parts)
    (hcalls : parts.length + look.results.length ≤ calls) :
    (∃ result, Event acc limits query calls (looks.foldl Moment.lastConsumed start) parts look
      result) ∨ ∃ more, Quiet acc limits calls start (looks ++ [look]) (parts ++ more) := by
  cases hcancelled : look.cancelled with
  | some reason => exact .inl ⟨_, .cancelled reason hcancelled⟩
  | none =>
    rcases scan h.below look.results with ⟨more, hresults, hbelow⟩ |
      ⟨more, e, rest, hresults, hbelow⟩ |
      ⟨more, part, rest, hresults, hbelow, hpanics | ⟨hadds, henough⟩⟩
    · rw [hresults, List.length_map, ← List.length_append] at hcalls
      rcases Nat.lt_or_eq_of_le hcalls with hpending | hall
      · rcases Nat.lt_or_ge look.instant
          (look.lastConsumed (looks.foldl Moment.lastConsumed start) + limits.maxQueryTime)
          with htime | htime
        · exact .inr ⟨more, quiet_concat h hcancelled hresults hbelow hpending htime⟩
        · exact .inl ⟨_, .timedOut more hcancelled hresults hbelow hpending htime⟩
      · exact .inl ⟨_, .exhausted more hcancelled hresults hbelow hall⟩
    · exact .inl ⟨_, .failed more e rest hcancelled hresults hbelow⟩
    · exact .inl ⟨_, .panicked more part rest hcancelled hresults hbelow hpanics⟩
    · exact .inl ⟨_, .enough more part rest hcancelled hresults hbelow hadds henough⟩

/-- Looks end a merge, or leave it going. -/
theorem firstEvent_or_quiet (hpos : 0 < calls)
    (hcalls : (looks.flatMap Moment.results).length ≤ calls) :
    (∃ result finish, FirstEvent acc limits query calls start looks result finish) ∨
      ∃ parts, Quiet acc limits calls start looks parts := by
  induction looks using List.reverseRecOn with
  | nil => exact .inr ⟨[], quiet_nil hpos⟩
  | append_singleton looks look ih =>
    rw [List.flatMap_append, List.flatMap_singleton, List.length_append] at hcalls
    rcases ih (Nat.le_of_add_right_le hcalls) with ⟨result, finish, hfirst⟩ | ⟨parts, hquiet⟩
    · obtain ⟨before, l, after, parts, rfl, hquiet, hevent, hfinish⟩ := hfirst
      refine .inl ⟨result, finish, before, l, after ++ [look], parts, ?_, hquiet, hevent, hfinish⟩
      rw [List.append_assoc, List.cons_append]
    · rw [hquiet.results, List.length_map] at hcalls
      rcases event_or_quiet hquiet hcalls with ⟨result, hevent⟩ | ⟨more, hquiet'⟩
      · exact .inl ⟨result, look.instant, looks, look, [], parts, rfl, hquiet, hevent, rfl⟩
      · exact .inr ⟨parts ++ more, hquiet'⟩

/-- The first event is what a merge reports. -/
theorem watch_firstEvent {finish : Nat}
    (h : FirstEvent acc limits query calls start looks result finish) :
    watch acc (Merge.start acc limits query calls start) looks = some (result, finish) := by
  obtain ⟨before, look, after, parts, rfl, hquiet, hevent, rfl⟩ := h
  rw [watch_quiet hquiet, watch, poll_event hquiet.pending hevent]
  cases result <;> rfl

/-- A merge that is watched ends with its first event, and then only. -/
theorem watch_eq_some_iff {finish : Nat} (hpos : 0 < calls)
    (hcalls : (looks.flatMap Moment.results).length ≤ calls) :
    watch acc (Merge.start acc limits query calls start) looks = some (result, finish) ↔
      FirstEvent acc limits query calls start looks result finish := by
  refine ⟨fun h => ?_, watch_firstEvent⟩
  rcases @firstEvent_or_quiet α π acc limits query calls start looks hpos hcalls with
    ⟨result', finish', hfirst⟩ | ⟨parts, hquiet⟩
  · rw [watch_firstEvent hfirst] at h
    cases h
    exact hfirst
  · rw [← List.append_nil looks, watch_quiet hquiet] at h
    cases h

end Merge

end ScatterSearch
