import Mathlib.Data.Set.Card
import ScatterSearch.Proofs.Lists
import ScatterSearch.Proofs.Query.Lifecycle

/-!
# What cancellations count

Whoever cancels queries is told how many. Over a whole run these counts add up: together with the
queries that were completed they are the queries that ended, none of them twice
(`every_end_counted_once`).

* `Act` is what can happen to a registry. Besides the deeds there are those who share the flag of a
  query with the registry and write it; no count depends on flags;
* `tally` is what a list of acts comes to: the sum of all counts that were told, and the registry;
* `MovesExactly` says of one cancellation what it moves, what it is told, and that nothing else
  changes.

What carries the sum is that the counts told are the records that stand as cancelled
(`tally_fst`): a cancellation adds to both alike, and nothing else touches either.
-/

namespace ScatterSearch

namespace Lists

variable {α : Type}

/-- The places that hold such elements are as many as the elements. -/
theorem ncard_getElem? (P : α → Prop) [DecidablePred P] (xs : List α) :
    {i : Nat | ∃ x, xs[i]? = some x ∧ P x}.ncard = xs.countP (P ·) := by
  induction xs using List.reverseRecOn with
  | nil => simp
  | append_singleton xs y ih =>
    have hbefore : {i : Nat | ∃ x, xs[i]? = some x ∧ P x}.Finite :=
      (Set.finite_lt_nat xs.length).subset fun i ⟨x, hx, _⟩ => (List.getElem?_eq_some_iff.1 hx).1
    have hsplit : {i : Nat | ∃ x, (xs ++ [y])[i]? = some x ∧ P x} =
        {i : Nat | ∃ x, xs[i]? = some x ∧ P x} ∪ {i : Nat | i = xs.length ∧ P y} := by
      ext i
      constructor
      · rintro ⟨x, hx, hP⟩
        rcases getElem?_concat hx with hx | ⟨hi, rfl⟩
        · exact .inl ⟨x, hx, hP⟩
        · exact .inr ⟨hi, hP⟩
      · rintro (⟨x, hx, hP⟩ | ⟨rfl, hP⟩)
        · exact ⟨x, getElem?_of_prefix (List.prefix_append _ _) hx, hP⟩
        · exact ⟨y, List.getElem?_concat_length, hP⟩
    have hdisjoint : Disjoint {i : Nat | ∃ x, xs[i]? = some x ∧ P x}
        {i : Nat | i = xs.length ∧ P y} := by
      rw [Set.disjoint_left]
      rintro i ⟨x, hx, -⟩ ⟨rfl, -⟩
      exact Nat.lt_irrefl _ (List.getElem?_eq_some_iff.1 hx).1
    have hlast : {i : Nat | i = xs.length ∧ P y}.ncard = if P y then 1 else 0 := by
      by_cases hP : P y <;> simp [hP]
    have hfinite : {i : Nat | i = xs.length ∧ P y}.Finite :=
      (Set.finite_singleton xs.length).subset fun i hi => hi.1
    rw [hsplit, Set.ncard_union_eq hdisjoint hbefore hfinite, ih, hlast, List.countP_append,
      List.countP_singleton]
    simp only [decide_eq_true_eq]

end Lists

namespace QueryStatus

variable {s s' : QueryStatus} {delay now : Nat}

/-- A query that runs is listed and has no end. -/
def Sound (s : QueryStatus) : Prop := s.state = .running → s.listed = true ∧ s.finished = none

/-- What can become of a record at an instant: an end is final and dated, the record stays sound,
and it is no longer listed only if it was swept. -/
structure Follows (delay now : Nat) (s s' : QueryStatus) : Prop where
  ended : s.state ≠ .running → s'.state = s.state ∧ s'.finished = s.finished
  ends : s.state = .running → s'.state = .running ∨ s'.finished = some now
  sound : s.Sound → s'.Sound
  listed : s'.listed = s.listed ∨ s'.listed = false ∧ s.isCleanable delay now = true

theorem Follows.refl (delay now : Nat) (s : QueryStatus) : Follows delay now s s :=
  ⟨fun _ => ⟨rfl, rfl⟩, .inl, fun h => h, .inl rfl⟩

theorem follows_moveTo {target : QueryState} (htarget : target ≠ .running) :
    Follows delay now s (s.moveTo target now) := by
  by_cases h : s.state = .running
  · rw [moveTo_of_running h]
    exact ⟨fun hne => absurd h hne, fun _ => .inr rfl, fun _ hrun => absurd hrun htarget, .inl rfl⟩
  · rw [moveTo_of_ended h]
    exact .refl delay now s

theorem follows_setFlag (value : Bool) : Follows delay now s { s with running := value } :=
  ⟨fun _ => ⟨rfl, rfl⟩, .inl, fun h => h, .inl rfl⟩

/-- What is swept has ended. -/
theorem follows_swept (h : s.isCleanable delay now = true) :
    Follows delay now s { s with listed := false } := by
  refine ⟨fun _ => ⟨rfl, rfl⟩, .inl, fun hsound hrun => ?_, .inr ⟨rfl, h⟩⟩
  rw [isCleanable, (hsound hrun).2] at h
  cases h

/-- An interruption reaches only what runs. -/
theorem running_of_reaches {p : QueryStatus → Bool} (h : StatusRegistry.reaches p s = true) :
    s.state = .running := by
  by_contra hended
  rw [reaches_of_ended hended] at h
  cases h

/-- A sound record is reached by an interruption that is meant for it exactly if it runs. -/
theorem Sound.reaches_iff (h : s.Sound) {p : QueryStatus → Bool} :
    StatusRegistry.reaches p s = true ↔ s.state = .running ∧ p s = true := by
  rw [StatusRegistry.reaches, Bool.and_eq_true, Bool.and_eq_true, decide_eq_true_eq]
  constructor
  · rintro ⟨⟨-, hp⟩, hrun⟩
    exact ⟨hrun, hp⟩
  · rintro ⟨hrun, hp⟩
    exact ⟨⟨(h hrun).1, hp⟩, hrun⟩

/-- Whether the query was cancelled. -/
def isCancelled (s : QueryStatus) : Bool := s.cancelReason.isSome

/-- To complete a query does not cancel it. -/
theorem isCancelled_complete : (s.moveTo .complete now).isCancelled = s.isCancelled := by
  by_cases h : s.state = .running
  · rw [moveTo_of_running h, isCancelled, isCancelled, cancelReason, cancelReason, h]
    rfl
  · rw [moveTo_of_ended h]

end QueryStatus

namespace StatusRegistry

open QueryStatus (Follows Sound)

/-- What can happen to a registry. -/
inductive Act where
  | deed (d : Deed)
  /-- the flag of the query at a place is written by those who share it -/
  | setFlag (place : Nat) (value : Bool)

namespace Act

/-- What becomes of a registry when something happens to it at an instant. -/
def perform (now : Nat) (r : StatusRegistry) : Act → StatusRegistry
  | .deed d => d.perform now r
  | .setFlag place value => r.modify place fun s => { s with running := value }

/-- How many queries somebody is told to have cancelled. -/
def count (now : Nat) (r : StatusRegistry) : Act → Nat
  | .deed (.cancel table uuid) => (r.cancel now table uuid).1
  | .deed .cancelAll => (r.cancelAll now).1
  | _ => 0

end Act

/-- What some acts come to, each done at its instant: the sum of all counts that were told, and the
registry. -/
def tally (delay : Nat) (acts : List (Nat × Act)) : Nat × StatusRegistry :=
  acts.foldl (fun t a => (t.1 + a.2.count a.1 t.2, a.2.perform a.1 t.2)) (0, .empty delay)

/-- The query at a place is in such a state. -/
def StateIs (r : StatusRegistry) (P : QueryState → Prop) (place : Nat) : Prop :=
  ∃ q, r.status? place = some q ∧ P q.state

/-- The query at a place was complete at some moment of a run. -/
def Completed (delay : Nat) (acts : List (Nat × Act)) (place : Nat) : Prop :=
  ∃ earlier later, acts = earlier ++ later ∧ (tally delay earlier).2.StateIs (· = .complete) place

/-- The query at a place ran at some moment of a run, and at a later one did not. -/
def EverLeft (delay : Nat) (acts : List (Nat × Act)) (place : Nat) : Prop :=
  ∃ earlier meanwhile later, acts = earlier ++ meanwhile ++ later ∧
    (tally delay earlier).2.StateIs (· = .running) place ∧
    (tally delay (earlier ++ meanwhile)).2.StateIs (· ≠ .running) place

/-- What comes of moving exactly the running queries that satisfy `p` to another state: the result
tells how many they are; they end now, all others are as they were, and so is what is listed. -/
structure MovesExactly (r : StatusRegistry) (p : QueryStatus → Prop) (target : QueryState)
    (now : Nat) (result : Nat × StatusRegistry) : Prop where
  count : result.1 = {place : Nat | ∃ q, r.status? place = some q ∧ q.state = .running ∧ p q}.ncard
  moved : ∀ (place : Nat) (q : QueryStatus), r.status? place = some q → q.state = .running → p q →
    result.2.status? place =
      some { q with state := target, running := false, finished := some now }
  others : ∀ (place : Nat) (q : QueryStatus), r.status? place = some q →
    ¬ (q.state = .running ∧ p q) → result.2.status? place = some q
  listed : result.2.records.map (fun s => (s.id, s.listed)) =
    r.records.map fun s => (s.id, s.listed)

variable {r : StatusRegistry} {a : Act} {acts more : List (Nat × Act)} {q q' : QueryStatus}
  {place now delay : Nat} {p : QueryStatus → Bool} {target : QueryState}

theorem tally_concat : tally delay (acts ++ [(now, a)]) =
    ((tally delay acts).1 + a.count now (tally delay acts).2,
      a.perform now (tally delay acts).2) := by
  rw [tally, List.foldl_append]
  rfl

/-! ## One act -/

/-- No act forgets a record, and what becomes of a record follows it. -/
theorem follows_perform (hq : r.status? place = some q) (now : Nat) (a : Act) :
    ∃ q', (a.perform now r).status? place = some q' ∧ Follows r.cleanupDelay now q q' := by
  have interrupt (p : QueryStatus → Bool) {target : QueryState} (htarget : target ≠ .running) :
      ∃ q', (r.interrupt p target now).2.status? place = some q' ∧
        Follows r.cleanupDelay now q q' := by
    refine ⟨_, by rw [status?_interrupt, hq, Option.map_some], ?_⟩
    split
    · exact QueryStatus.follows_moveTo htarget
    · exact .refl _ now q
  cases a with
  | setFlag other value =>
    refine ⟨_, by rw [Act.perform, modify, status?, List.getElem?_modify, ← status?, hq]; rfl, ?_⟩
    split
    · exact QueryStatus.follows_setFlag value
    · exact .refl _ now q
  | deed d =>
    cases d with
    | register table query =>
      refine ⟨q, ?_, .refl _ now q⟩
      have hlt : place < r.records.length := (List.getElem?_eq_some_iff.1 hq).1
      rw [Act.perform, Deed.perform, status?_register, if_neg (Nat.ne_of_lt hlt), hq]
    | finish other =>
      refine ⟨_, by rw [Act.perform, Deed.perform, status?_finish, hq, Option.map_some], ?_⟩
      split
      · exact QueryStatus.follows_moveTo QueryState.noConfusion
      · exact .refl _ now q
    | cancel table uuid => exact interrupt (·.isFor table uuid) QueryState.noConfusion
    | cancelAll => exact interrupt (fun _ => true) QueryState.noConfusion
    | cleanup =>
      refine ⟨_, by rw [Act.perform, Deed.perform, status?_cleanup, hq, Option.map_some], ?_⟩
      split
      · rename_i hswept
        exact QueryStatus.follows_swept (Bool.and_eq_true_iff.1 hswept).2
      · exact .refl _ now q

/-- Only a registration adds a record, and then one that runs. -/
theorem fresh_of_perform (hq' : (a.perform now r).status? place = some q')
    (hq : r.status? place = none) : q'.state = .running ∧ q'.Sound := by
  cases a with
  | setFlag other value =>
    rw [Act.perform, modify, status?, List.getElem?_modify, ← status?, hq] at hq'
    cases hq'
  | deed d =>
    cases d with
    | register table query =>
      rw [Act.perform, Deed.perform, status?_register, hq] at hq'
      split at hq'
      · obtain rfl := Option.some.inj hq'
        exact ⟨rfl, fun _ => ⟨rfl, rfl⟩⟩
      · cases hq'
    | finish other =>
      rw [Act.perform, Deed.perform, status?_finish, hq] at hq'
      cases hq'
    | cancel table uuid =>
      rw [Act.perform, Deed.perform, cancel, status?_interrupt, hq] at hq'
      cases hq'
    | cancelAll =>
      rw [Act.perform, Deed.perform, cancelAll, status?_interrupt, hq] at hq'
      cases hq'
    | cleanup =>
      rw [Act.perform, Deed.perform, status?_cleanup, hq] at hq'
      cases hq'

/-- An interruption cancels as many records as it counts. -/
theorem countP_interrupt (htarget : target.cancelReason.isSome = true) :
    (r.interrupt p target now).2.records.countP (·.isCancelled) =
      r.records.countP (·.isCancelled) + (r.interrupt p target now).1 := by
  simp only [interrupt]
  induction r.records with
  | nil => rfl
  | cons s records ih =>
    rw [List.map_cons, List.countP_cons, List.countP_cons, ih]
    cases hreaches : reaches p s with
    | false =>
      rw [if_neg Bool.false_ne_true, List.filter_cons_of_neg (by simp [hreaches])]
      omega
    | true =>
      have hrun := QueryStatus.running_of_reaches hreaches
      have hbefore : s.isCancelled = false := by
        rw [QueryStatus.isCancelled, QueryStatus.cancelReason, hrun]
        rfl
      have hafter : (s.moveTo target now).isCancelled = true := by
        rw [QueryStatus.moveTo_of_running hrun]
        exact htarget
      rw [if_pos rfl, List.filter_cons_of_pos hreaches, List.length_cons, hbefore, hafter]
      simp only [if_true, Bool.false_eq_true, if_false]
      omega

/-- A record that changes in other respects is cancelled if it was. -/
theorem countP_modify {f : QueryStatus → QueryStatus}
    (hf : ∀ s, (f s).isCancelled = s.isCancelled) :
    (r.modify place f).records.countP (·.isCancelled) = r.records.countP (·.isCancelled) := by
  have hmap : (r.records.modify place f).map (·.isCancelled) = r.records.map (·.isCancelled) :=
    Lists.map_modify_eq hf place r.records
  have hcount (records : List QueryStatus) :
      records.countP (·.isCancelled) = (records.map (·.isCancelled)).countP id := by
    rw [List.countP_map, Function.id_comp]
  rw [hcount, hcount, ← hmap]
  rfl

/-- An act cancels as many records as it is told. -/
theorem countP_perform : (a.perform now r).records.countP (·.isCancelled) =
    r.records.countP (·.isCancelled) + a.count now r := by
  cases a with
  | setFlag other value => exact countP_modify fun _ => rfl
  | deed d =>
    cases d with
    | register table query =>
      rw [Act.perform, Deed.perform, register, List.countP_append, List.countP_singleton]
      rfl
    | finish other => exact countP_modify fun _ => QueryStatus.isCancelled_complete
    | cancel table uuid => exact countP_interrupt rfl
    | cancelAll => exact countP_interrupt rfl
    | cleanup =>
      rw [Act.perform, Deed.perform, cleanup, List.countP_map]
      refine List.countP_congr fun s _ => ?_
      rw [Function.comp_apply]
      split <;> exact Iff.rfl

/-! ## Runs -/

/-- All that was told to be cancelled stands as cancelled. -/
theorem tally_fst : (tally delay acts).1 = (tally delay acts).2.records.countP (·.isCancelled) := by
  induction acts using List.reverseRecOn with
  | nil => rfl
  | append_singleton acts a ih =>
    rw [tally_concat, countP_perform, ← ih]

theorem sound_tally (hq : (tally delay acts).2.status? place = some q) : q.Sound := by
  induction acts using List.reverseRecOn generalizing q with
  | nil => cases hq
  | append_singleton acts a ih =>
    rw [tally_concat] at hq
    cases hbefore : (tally delay acts).2.status? place with
    | none => exact (fresh_of_perform hq hbefore).2
    | some q₀ =>
      obtain ⟨q', hq', hfollows⟩ := follows_perform hbefore a.1 a.2
      obtain rfl := Option.some.inj (hq'.symm.trans hq)
      exact hfollows.sound (ih hbefore)

/-- Every query ran once. -/
theorem exists_running (hq : (tally delay acts).2.status? place = some q) :
    ∃ earlier later, acts = earlier ++ later ∧
      (tally delay earlier).2.StateIs (· = .running) place := by
  induction acts using List.reverseRecOn generalizing q with
  | nil => cases hq
  | append_singleton acts a ih =>
    cases hbefore : (tally delay acts).2.status? place with
    | none =>
      refine ⟨acts ++ [a], [], (List.append_nil _).symm, q, hq, ?_⟩
      rw [tally_concat] at hq
      exact (fresh_of_perform hq hbefore).1
    | some q₀ =>
      obtain ⟨earlier, later, rfl, hrun⟩ := ih hbefore
      exact ⟨earlier, later ++ [a], List.append_assoc _ _ _, hrun⟩

/-- A state that a query has ended in is its state for ever. -/
theorem stateIs_append {P : QueryState → Prop} (hP : ¬ P .running)
    (h : (tally delay acts).2.StateIs P place) (more : List (Nat × Act)) :
    (tally delay (acts ++ more)).2.StateIs P place := by
  induction more using List.reverseRecOn with
  | nil => rwa [List.append_nil]
  | append_singleton more a ih =>
    obtain ⟨q, hq, hstate⟩ := ih
    obtain ⟨q', hq', hfollows⟩ := follows_perform hq a.1 a.2
    have hended : q.state ≠ .running := fun hrun => hP (hrun ▸ hstate)
    rw [← List.append_assoc, tally_concat]
    exact ⟨q', hq', (hfollows.ended hended).1.symm ▸ hstate⟩

theorem completed_iff :
    Completed delay acts place ↔ (tally delay acts).2.StateIs (· = .complete) place := by
  constructor
  · rintro ⟨earlier, later, rfl, h⟩
    exact stateIs_append QueryState.noConfusion h later
  · intro h
    exact ⟨acts, [], (List.append_nil _).symm, h⟩

theorem everLeft_iff :
    EverLeft delay acts place ↔ (tally delay acts).2.StateIs (· ≠ .running) place := by
  constructor
  · rintro ⟨earlier, meanwhile, later, rfl, -, h⟩
    exact stateIs_append (fun h => h rfl) h later
  · rintro ⟨q, hq, hended⟩
    obtain ⟨earlier, later, rfl, hrun⟩ := exists_running hq
    exact ⟨earlier, later, [], (List.append_nil _).symm, hrun, q, hq, hended⟩

/-! ## Counting -/

/-- How many places of a list hold such elements. -/
theorem ncard_status? (r : StatusRegistry) (P : QueryStatus → Prop) [DecidablePred P] :
    {place : Nat | ∃ q, r.status? place = some q ∧ P q}.ncard = r.records.countP (P ·) :=
  Lists.ncard_getElem? P r.records

/-- What has ended was completed or cancelled. -/
theorem countP_ended (records : List QueryStatus) :
    records.countP (·.state ≠ .running) =
      records.countP (·.isCancelled) + records.countP (·.state = .complete) := by
  induction records with
  | nil => rfl
  | cons s records ih =>
    rw [List.countP_cons, List.countP_cons, List.countP_cons, ih]
    cases hstate : s.state <;>
      simp [QueryStatus.isCancelled, QueryStatus.cancelReason, QueryState.cancelReason, hstate] <;>
      omega

/-! ## Cancelling -/

/-- An interruption of queries that satisfy `p` moves exactly those that run, where what runs is
sound. -/
theorem movesExactly_interrupt (hsound : ∀ place q, r.status? place = some q → q.Sound)
    (p : QueryStatus → Bool) (target : QueryState) (now : Nat) :
    MovesExactly r (p · = true) target now (r.interrupt p target now) where
  count := by
    rw [ncard_status? r fun q => q.state = .running ∧ p q = true, interrupt,
      List.countP_eq_length_filter]
    refine congrArg List.length (List.filter_congr fun s hs => ?_)
    obtain ⟨place, hplace⟩ := List.getElem?_of_mem hs
    rw [Bool.eq_iff_iff, (hsound place s hplace).reaches_iff, decide_eq_true_eq]
  moved := by
    intro place q hq hrun hp
    rw [status?_interrupt, hq, Option.map_some,
      if_pos ((hsound place q hq).reaches_iff.2 ⟨hrun, hp⟩), QueryStatus.moveTo_of_running hrun]
  others := by
    intro place q hq hnot
    rw [status?_interrupt, hq, Option.map_some,
      if_neg fun h => hnot ((hsound place q hq).reaches_iff.1 h)]
  listed := by
    rw [interrupt, List.map_map]
    refine List.map_congr_left fun s _ => ?_
    rw [Function.comp_apply, QueryStatus.moveTo]
    split
    · split <;> rfl
    · rfl

/-- What was interrupted once is not interrupted again. -/
theorem interrupt_interrupt (htarget : target ≠ .running) (now' : Nat) :
    (r.interrupt p target now).2.interrupt p target now' = (0, (r.interrupt p target now).2) := by
  have hnone : ∀ s ∈ (r.interrupt p target now).2.records, reaches p s = false := by
    intro s hs
    obtain ⟨s₀, -, rfl⟩ := List.mem_map.1 hs
    cases hreaches : reaches p s₀ with
    | false => rwa [if_neg Bool.false_ne_true]
    | true =>
      rw [if_pos rfl, QueryStatus.moveTo_of_running (QueryStatus.running_of_reaches hreaches)]
      exact QueryStatus.reaches_of_ended htarget
  generalize (r.interrupt p target now).2 = r' at hnone
  have hfilter : r'.records.filter (reaches p) = [] :=
    List.filter_eq_nil_iff.2 fun s hs => by rw [hnone s hs]; exact Bool.false_ne_true
  have hmap : (r'.records.map fun s => if reaches p s then s.moveTo target now' else s) =
      r'.records := by
    refine (List.map_congr_left fun s hs => ?_).trans (List.map_id _)
    rw [hnone s hs]
    rfl
  rw [interrupt, hfilter, hmap]
  rfl

/-- **Every end is counted once.** In every registry that comes of any acts, a cancellation moves
exactly the running queries of its table and uuid, and a mass cancellation exactly all that run;
each tells how many, leaves all else alone, and does nothing when it is repeated at once. Over the
whole run, all counts that were told and the queries that were completed at some moment are together
the queries that ever stopped running. -/
theorem every_end_counted_once (delay : Nat) (acts : List (Nat × Act)) :
    let r := (tally delay acts).2
    (∀ now table uuid,
      MovesExactly r (fun q => q.table = table ∧ q.query.uuid = uuid) .interrupted now
        (r.cancel now table uuid) ∧
      ∀ now', (r.cancel now table uuid).2.cancel now' table uuid =
        (0, (r.cancel now table uuid).2)) ∧
    (∀ now,
      MovesExactly r (fun _ => True) .backPressureInterrupted now (r.cancelAll now) ∧
      ∀ now', (r.cancelAll now).2.cancelAll now' = (0, (r.cancelAll now).2)) ∧
    (tally delay acts).1 + {place : Nat | Completed delay acts place}.ncard =
      {place : Nat | EverLeft delay acts place}.ncard := by
  intro r
  have hsound : ∀ place q, r.status? place = some q → q.Sound := fun _ _ => sound_tally
  refine ⟨fun now table uuid => ⟨?_, fun now' => interrupt_interrupt QueryState.noConfusion now'⟩,
    fun now => ⟨?_, fun now' => interrupt_interrupt QueryState.noConfusion now'⟩, ?_⟩
  · have hfor : (fun q : QueryStatus => q.table = table ∧ q.query.uuid = uuid) =
        fun q => q.isFor table uuid = true := by
      funext q
      simp [QueryStatus.isFor]
    rw [hfor]
    exact movesExactly_interrupt hsound (·.isFor table uuid) .interrupted now
  · have hall : (fun _ : QueryStatus => True) = fun _ => true = true := by simp
    rw [hall]
    exact movesExactly_interrupt hsound (fun _ => true) .backPressureInterrupted now
  · simp only [completed_iff, everLeft_iff, StateIs]
    rw [ncard_status? _ (·.state = .complete), ncard_status? _ (·.state ≠ .running), countP_ended,
      tally_fst]

end StatusRegistry

end ScatterSearch
