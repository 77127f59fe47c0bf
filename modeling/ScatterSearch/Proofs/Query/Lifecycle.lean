import Mathlib.Data.List.Induction
import ScatterSearch.Query.Registry

/-!
# How a query ends

Whatever is done with a registry, and in whatever order, each of its queries runs from its
registration until the first deed that ends it, and stays as it ended.

* `Deed` is what can be done with a registry, `after` what a list of deeds makes of it;
* `Deed.ending` says which deeds end a query that runs, and `firstEnd` which of them came first.
  Both look at the deeds alone, not at the registry;
* `QueryStatus.Became` says what has become of a record when its first end is known, and
  `became_perform` that it goes on so through any one deed.

A query that runs is always listed: only what has ended is swept. So a cancellation, which looks at
the listed queries only, misses none that runs.

`status_ends_once` is the law of all runs.
-/

namespace ScatterSearch

namespace QueryStatus

/-- A query as it is registered, after so many others. -/
def registered (earlier now : Nat) (table : String) (query : QueryDescriptor) : QueryStatus :=
  ⟨UInt64.ofNat (earlier + 1), table, query, .running, true, now, none, true⟩

/-- What has become of a record when the first end that came to it is `first`: nothing changes
without an end, and after it only the listing does. -/
def Became (fresh : QueryStatus) (first : Option (Nat × QueryState)) (s : QueryStatus) : Prop :=
  match first with
  | none => s = fresh
  | some (now, state) => state ≠ .running ∧
      ∃ listed, s = { fresh with state, running := false, finished := some now, listed }

variable {s : QueryStatus} {first : Option (Nat × QueryState)} {target : QueryState}
  {earlier now : Nat} {table : String} {query : QueryDescriptor}

/-- A query that runs comes to its end. -/
theorem moveTo_of_running (h : s.state = .running) :
    s.moveTo target now = { s with state := target, running := false, finished := some now } :=
  if_pos h

/-- One that has ended stays as it is. -/
theorem moveTo_of_ended (h : s.state ≠ .running) : s.moveTo target now = s := if_neg h

/-- No interruption reaches a query that has ended. -/
theorem reaches_of_ended {p : QueryStatus → Bool} (h : s.state ≠ .running) :
    StatusRegistry.reaches p s = false := by
  simp [StatusRegistry.reaches, h]

@[simp] theorem isFor_registered {t u : String} :
    (registered earlier now table query).isFor t u = decide (t = table ∧ u = query.uuid) := by
  rw [Bool.eq_iff_iff, isFor, Bool.and_eq_true, beq_iff_eq, beq_iff_eq, decide_eq_true_eq]
  exact and_congr eq_comm eq_comm

/-- The three places in which a record says whether its query runs agree, and what runs is listed.
-/
theorem Became.agree (h : Became (registered earlier now table query) first s) :
    (s.running = true ↔ s.state = .running) ∧ (s.state = .running ↔ s.finished = none) ∧
      (s.state = .running → s.listed = true) := by
  match first, h with
  | none, h =>
    rw [h]
    exact ⟨by simp [registered], by simp [registered], fun _ => rfl⟩
  | some (t, state), ⟨hstate, listed, h⟩ =>
    rw [h]
    exact ⟨by simp [hstate], by simp [hstate], fun hrun => absurd hrun hstate⟩

/-- A record stays that of the query for which it was made. -/
theorem Became.table_eq (h : Became (registered earlier now table query) first s) :
    s.table = table := by
  match first, h with
  | none, h => rw [h]; rfl
  | some (t, state), ⟨_, listed, h⟩ => rw [h]; rfl

/-- A query keeps what it asks. -/
theorem Became.query_eq (h : Became (registered earlier now table query) first s) :
    s.query = query := by
  match first, h with
  | none, h => rw [h]; rfl
  | some (t, state), ⟨_, listed, h⟩ => rw [h]; rfl

/-- Whatever comes after the end of a query, its record tells of this end. -/
theorem Became.stays (h : Became (registered earlier now table query) first s)
    (hended : s.state ≠ .running) {next : Option (Nat × QueryState)} {s' : QueryStatus}
    (h' : Became (registered earlier now table query) (first.or next) s') :
    s'.state = s.state ∧ s'.finished = s.finished ∧ s'.cancelReason = s.cancelReason ∧
      ∀ t t', s'.elapsed t' = s.elapsed t := by
  match first, h, h' with
  | none, h, _ =>
    rw [h] at hended
    exact absurd rfl hended
  | some (t, state), ⟨_, listed, h⟩, ⟨_, listed', h'⟩ =>
    rw [h, h']
    exact ⟨rfl, rfl, rfl, fun _ _ => rfl⟩

/-- An end comes to a record: it counts if it is the first. -/
theorem Became.moveTo (h : Became (registered earlier now table query) first s)
    (htarget : target ≠ .running) (t : Nat) :
    Became (registered earlier now table query) (first.or (some (t, target)))
      (s.moveTo target t) := by
  match first, h with
  | none, h =>
    subst h
    exact ⟨htarget, true, moveTo_of_running rfl⟩
  | some (t', state), ⟨hstate, listed, h⟩ =>
    subst h
    exact ⟨hstate, listed, moveTo_of_ended hstate⟩

/-- An interruption comes to those for whom it is meant. -/
theorem Became.interrupt (h : Became (registered earlier now table query) first s)
    (p : QueryStatus → Bool) (htarget : target ≠ .running) (t : Nat) :
    Became (registered earlier now table query)
      (first.or (if p (registered earlier now table query) then some (t, target) else none))
      (if StatusRegistry.reaches p s then s.moveTo target t else s) := by
  match first, h with
  | none, h =>
    subst h
    by_cases hp : p (registered earlier now table query) = true
    · rw [if_pos hp, if_pos (by rw [StatusRegistry.reaches, hp]; rfl)]
      exact ⟨htarget, true, moveTo_of_running rfl⟩
    · rw [if_neg hp, if_neg (by simp [StatusRegistry.reaches, hp])]
      rfl
  | some (t', state), ⟨hstate, listed, h⟩ =>
    subst h
    rw [reaches_of_ended hstate]
    exact ⟨hstate, listed, rfl⟩

/-- Only what has ended is swept. -/
theorem Became.cleanup (h : Became (registered earlier now table query) first s) (delay t : Nat) :
    Became (registered earlier now table query) first
      (if s.listed && s.isCleanable delay t then { s with listed := false } else s) := by
  match first, h with
  | none, h =>
    subst h
    rfl
  | some (t', state), ⟨hstate, listed, h⟩ =>
    subst h
    split
    · exact ⟨hstate, false, rfl⟩
    · exact ⟨hstate, listed, rfl⟩

end QueryStatus

namespace StatusRegistry

open QueryStatus (Became registered)

/-- What can be done with a registry. -/
inductive Deed where
  | register (table : String) (query : QueryDescriptor)
  /-- marks the query at a place as complete -/
  | finish (place : Nat)
  | cancel (table uuid : String)
  | cancelAll
  | cleanup

namespace Deed

/-- What becomes of a registry when a deed is done at an instant. -/
def perform (now : Nat) (r : StatusRegistry) : Deed → StatusRegistry
  | .register table query => r.register now table query
  | .finish place => r.finish now place
  | .cancel table uuid => (r.cancel now table uuid).2
  | .cancelAll => (r.cancelAll now).2
  | .cleanup => (r.cleanup now).2

def isRegistration : Deed → Bool
  | .register .. => true
  | _ => false

/-- The end that a deed brings to the query at a place, of a table and uuid, if it runs. -/
def ending (place : Nat) (table uuid : String) : Deed → Option QueryState
  | .finish p => if p = place then some .complete else none
  | .cancel t u => if t = table ∧ u = uuid then some .interrupted else none
  | .cancelAll => some .backPressureInterrupted
  | .register .. => none
  | .cleanup => none

end Deed

/-- What a registry is after some deeds, each done at its instant. -/
def after (r : StatusRegistry) (deeds : List (Nat × Deed)) : StatusRegistry :=
  deeds.foldl (fun r d => d.2.perform d.1 r) r

/-- The first of some deeds that ends the query at a place if it runs: its instant, and the end. -/
def firstEnd (place : Nat) (table uuid : String) (deeds : List (Nat × Deed)) :
    Option (Nat × QueryState) :=
  deeds.findSome? fun d => (d.2.ending place table uuid).map (d.1, ·)

variable {r : StatusRegistry} {deeds more : List (Nat × Deed)} {d : Deed} {q : QueryStatus}
  {first : Option (Nat × QueryState)} {earlier place now delay : Nat} {table uuid : String}
  {query : QueryDescriptor}

theorem after_append : r.after (deeds ++ more) = (r.after deeds).after more := List.foldl_append

theorem after_concat : r.after (deeds ++ [(now, d)]) = d.perform now (r.after deeds) :=
  after_append

/-- The first end is that of before, or else the one of the last deed. -/
theorem firstEnd_concat :
    firstEnd place table uuid (deeds ++ [(now, d)]) =
      (firstEnd place table uuid deeds).or ((d.ending place table uuid).map (now, ·)) := by
  rw [firstEnd, List.findSome?_append]
  simp [firstEnd]

/-! ## One deed -/

/-- A query that is registered comes last; the others stay. -/
theorem status?_register :
    (r.register now table query).status? place =
      if place = r.records.length then some (registered place now table query)
      else r.status? place := by
  change (r.records ++ [registered r.records.length now table query])[place]? = _
  split
  · rename_i hplace
    rw [hplace, List.getElem?_concat_length]
  · rename_i hplace
    rcases Nat.lt_or_gt_of_ne hplace with hlt | hgt
    · rw [List.getElem?_append_left hlt]
      rfl
    · rw [List.getElem?_eq_none (by rw [List.length_append]; exact hgt)]
      exact (List.getElem?_eq_none (Nat.le_of_lt hgt)).symm

theorem status?_register_self : (r.register now table query).status? r.records.length =
    some (registered r.records.length now table query) := by
  rw [status?_register, if_pos rfl]

/-- A query that is finished comes to its end; the others stay. -/
theorem status?_finish {p : Nat} :
    (r.finish now p).status? place =
      (r.status? place).map fun s => if p = place then s.moveTo .complete now else s := by
  rw [finish, modify, status?, List.getElem?_modify]
  by_cases hp : p = place
  · simp only [if_pos hp]
    rfl
  · simp only [if_neg hp]
    rfl

/-- An interruption ends the queries that it reaches; the others stay. -/
theorem status?_interrupt {p : QueryStatus → Bool} {target : QueryState} :
    (r.interrupt p target now).2.status? place =
      (r.status? place).map fun s => if reaches p s then s.moveTo target now else s :=
  List.getElem?_map

/-- A sweep takes queries that ended long ago off the list, and changes nothing else. -/
theorem status?_cleanup :
    (r.cleanup now).2.status? place = (r.status? place).map fun s =>
      if s.listed && s.isCleanable r.cleanupDelay now then { s with listed := false } else s :=
  List.getElem?_map

/-- Records are added by registrations only. -/
theorem length_perform :
    (d.perform now r).records.length = r.records.length + if d.isRegistration then 1 else 0 := by
  cases d with
  | register table query => exact List.length_append
  | finish place => exact List.length_modify _ _ _
  | cancel table uuid => exact List.length_map _
  | cancelAll => exact List.length_map _
  | cleanup => exact List.length_map _

/-- No deed forgets a record, and the record goes on as it did, ended by this deed if it ran. -/
theorem became_perform (hq : r.status? place = some q)
    (h : Became (registered earlier now table query) first q) (t : Nat) (d : Deed) :
    ∃ q', (d.perform t r).status? place = some q' ∧
      Became (registered earlier now table query)
        (first.or ((d.ending place table query.uuid).map (t, ·))) q' := by
  cases d with
  | register table' query' =>
    have hlt : place < r.records.length := (List.getElem?_eq_some_iff.1 hq).1
    refine ⟨q, ?_, by rw [Deed.ending, Option.map_none, Option.or_none]; exact h⟩
    rw [Deed.perform, status?_register, if_neg (Nat.ne_of_lt hlt), hq]
  | finish p =>
    refine ⟨_, by rw [Deed.perform, status?_finish, hq, Option.map_some], ?_⟩
    rw [Deed.ending]
    split
    · exact h.moveTo QueryState.noConfusion t
    · rw [Option.map_none, Option.or_none]
      exact h
  | cancel table' uuid' =>
    refine ⟨_, by rw [Deed.perform, cancel, status?_interrupt, hq, Option.map_some], ?_⟩
    have heq : ((Deed.cancel table' uuid').ending place table query.uuid).map (t, ·) =
        if (registered earlier now table query).isFor table' uuid' then
          some (t, QueryState.interrupted) else none := by
      rw [QueryStatus.isFor_registered, Deed.ending]
      by_cases hfor : table' = table ∧ uuid' = query.uuid <;> simp [hfor]
    rw [heq]
    exact h.interrupt (·.isFor table' uuid') QueryState.noConfusion t
  | cancelAll =>
    refine ⟨_, by rw [Deed.perform, cancelAll, status?_interrupt, hq, Option.map_some], ?_⟩
    exact h.interrupt (fun _ => true) QueryState.noConfusion t
  | cleanup =>
    refine ⟨_, by rw [Deed.perform, status?_cleanup, hq, Option.map_some], ?_⟩
    rw [Deed.ending, Option.map_none, Option.or_none]
    exact h.cleanup _ _

/-! ## Runs -/

/-- There are as many records more as there were registrations. -/
theorem length_after :
    (r.after deeds).records.length = r.records.length + deeds.countP (·.2.isRegistration) := by
  induction deeds using List.reverseRecOn with
  | nil => rfl
  | append_singleton deeds d ih =>
    rw [after_concat, length_perform, ih, List.countP_append, List.countP_singleton, Nat.add_assoc]

/-- A record goes on through any deeds, ended by the first of them that ends it. -/
theorem became_after (hq : r.status? place = some q)
    (h : Became (registered earlier now table query) first q) (deeds : List (Nat × Deed)) :
    ∃ q', (r.after deeds).status? place = some q' ∧
      Became (registered earlier now table query)
        (first.or (firstEnd place table query.uuid deeds)) q' := by
  induction deeds using List.reverseRecOn with
  | nil => exact ⟨q, hq, by rw [firstEnd, List.findSome?_nil, Option.or_none]; exact h⟩
  | append_singleton deeds d ih =>
    obtain ⟨q', hq', h'⟩ := ih
    rw [after_concat, firstEnd_concat, ← Option.or_assoc]
    exact became_perform hq' h' d.1 d.2

/-- A query that is registered becomes what the first end makes of it that comes later. -/
theorem after_register (r : StatusRegistry) (now : Nat) (table : String) (query : QueryDescriptor)
    (deeds : List (Nat × Deed)) :
    ∃ q, ((r.register now table query).after deeds).status? r.records.length = some q ∧
      Became (registered r.records.length now table query)
        (firstEnd r.records.length table query.uuid deeds) q := by
  have hfresh : Became (registered r.records.length now table query) none
      (registered r.records.length now table query) := rfl
  exact became_after status?_register_self hfresh deeds

/-- Every record comes from a registration. -/
theorem exists_registration (hq : ((empty delay).after deeds).status? place = some q) :
    ∃ before now table query later,
      deeds = before ++ (now, .register table query) :: later ∧
      before.countP (·.2.isRegistration) = place := by
  have hlt : place < deeds.countP (·.2.isRegistration) := by
    have h := (List.getElem?_eq_some_iff.1 hq).1
    rw [length_after] at h
    exact Nat.lt_of_lt_of_eq h (Nat.zero_add _)
  clear hq
  induction deeds using List.reverseRecOn with
  | nil => cases hlt
  | append_singleton deeds d ih =>
    by_cases hbefore : place < deeds.countP (·.2.isRegistration)
    · obtain ⟨before, now, table, query, later, rfl, hcount⟩ := ih hbefore
      exact ⟨before, now, table, query, later ++ [d], by simp, hcount⟩
    · obtain ⟨now, d⟩ := d
      rw [List.countP_append, List.countP_singleton] at hlt
      cases d with
      | register table query =>
        refine ⟨deeds, now, table, query, [], rfl, ?_⟩
        have hle : place < deeds.countP (·.2.isRegistration) + 1 := hlt
        exact Nat.le_antisymm (Nat.le_of_not_lt hbefore) (Nat.le_of_lt_succ hle)
      | finish | cancel | cancelAll | cleanup => exact absurd hlt hbefore

/-- **A query ends once.** After any deeds every record is that of one registration. It was running
when it was registered; it is unchanged as long as no deed ended it; and from the first deed on that
finished or cancelled it, its state, the instant of its end, the reason of its cancellation and the
time it took are for ever those of this end. Flag, state and end always agree, and the registry
counts the listed queries whose state is running; a query that runs is listed. -/
theorem status_ends_once (delay : Nat) (deeds : List (Nat × Deed)) :
    (∀ place q, ((empty delay).after deeds).status? place = some q →
      ∃ before now table query later,
        deeds = before ++ (now, .register table query) :: later ∧
        before.countP (·.2.isRegistration) = place ∧
        ((empty delay).after (before ++ [(now, .register table query)])).status? place =
          some (registered place now table query) ∧
        Became (registered place now table query) (firstEnd place table query.uuid later) q ∧
        (q.state ≠ .running → ∀ more, ∃ q',
          ((empty delay).after (deeds ++ more)).status? place = some q' ∧
          q'.state = q.state ∧ q'.finished = q.finished ∧ q'.cancelReason = q.cancelReason ∧
          ∀ t t', q'.elapsed t' = q.elapsed t)) ∧
    (∀ q ∈ ((empty delay).after deeds).records,
      (q.running = true ↔ q.state = .running) ∧ (q.state = .running ↔ q.finished = none) ∧
        (q.state = .running → q.listed = true)) ∧
    ((empty delay).after deeds).runningCount =
      (((empty delay).after deeds).listed.filter (·.state = .running)).length := by
  have records (place : Nat) (q : QueryStatus)
      (hq : ((empty delay).after deeds).status? place = some q) :
      ∃ before now table query later,
        deeds = before ++ (now, .register table query) :: later ∧
        before.countP (·.2.isRegistration) = place ∧
        ((empty delay).after (before ++ [(now, .register table query)])).status? place =
          some (registered place now table query) ∧
        Became (registered place now table query) (firstEnd place table query.uuid later) q := by
    obtain ⟨before, now, table, query, later, rfl, hcount⟩ := exists_registration hq
    have hplace : ((empty delay).after before).records.length = place := by
      rw [length_after, hcount]
      exact Nat.zero_add _
    obtain ⟨q', hq', h⟩ := after_register ((empty delay).after before) now table query later
    rw [hplace] at hq' h
    rw [after_append] at hq
    obtain rfl := Option.some.inj (hq.symm.trans hq')
    refine ⟨before, now, table, query, later, rfl, hcount, ?_, h⟩
    rw [after_concat, Deed.perform, status?_register, if_pos hplace.symm]
  have agree (q : QueryStatus) (hmem : q ∈ ((empty delay).after deeds).records) :
      (q.running = true ↔ q.state = .running) ∧ (q.state = .running ↔ q.finished = none) ∧
        (q.state = .running → q.listed = true) := by
    obtain ⟨place, hq⟩ := List.getElem?_of_mem hmem
    obtain ⟨before, now, table, query, later, -, -, -, h⟩ := records place q hq
    exact h.agree
  refine ⟨fun place q hq => ?_, agree, ?_⟩
  · obtain ⟨before, now, table, query, later, hdeeds, hcount, hfresh, h⟩ := records place q hq
    refine ⟨before, now, table, query, later, hdeeds, hcount, hfresh, h, fun hended more => ?_⟩
    obtain ⟨q', hq', h'⟩ := became_after hq h more
    rw [after_append]
    exact ⟨q', hq', h.stays hended h'⟩
  · rw [runningCount]
    refine congrArg List.length (List.filter_congr fun q hq => ?_)
    have h := (agree q (List.mem_filter.1 hq).1).1
    by_cases hstate : q.state = .running
    · simp [hstate, h.2 hstate]
    · have hflag : q.running = false := by
        rw [← Bool.not_eq_true, h]
        exact hstate
      simp [hstate, hflag]

end StatusRegistry

end ScatterSearch
