import ScatterSearch.Proofs.Query.Lifecycle
import ScatterSearch.Query.Monitor

/-!
# Waking those who wait for a cancellation

Here nothing is done at once. Ending a query takes four steps, of which only the first may fail
(`Transition.step`): the state is changed if the query runs, the flag is lowered, the time is
noted, and those who wait are notified. Someone who waits takes the steps of `Waiter.step`. A
`Vigil` is one query with all who set about to end it and all who wait for its cancellation, and a
`Turn` is one step of one of them, or somebody new; they may come in any order.

Whatever the order (`cancellation_wakes_all`), whoever finds a reason finds the one for which the
query was cancelled. Once a cancellation has notified, nobody sleeps on: whoever takes three more
steps has found the reason. Nobody finds a reason if the query has completed.

What carries this is `Attends`: somebody who sleeps on a cancelled query asked for a notification
before there was one. Done without interruption, the steps are what a registry does with its records
(`status_atOnce`), and its count of notifications is the bell's (`bell_eq`).
-/

namespace ScatterSearch

/-- Who ends a query. -/
inductive Ender where
  | finish
  | cancel
  | cancelAll
  deriving DecidableEq

namespace Ender

/-- The state in which a query ends. -/
def target : Ender → QueryState
  | .finish => .complete
  | .cancel => .interrupted
  | .cancelAll => .backPressureInterrupted

theorem target_ne_running (e : Ender) : e.target ≠ .running := by
  cases e <;> exact QueryState.noConfusion

end Ender

/-- Where somebody stands who ends a query. -/
inductive Transition where
  /-- about to change the state, if the query runs -/
  | attempting (e : Ender)
  /-- has changed the state, and is about to lower the flag -/
  | changed (e : Ender)
  /-- about to note the time -/
  | lowered (e : Ender)
  /-- about to notify -/
  | noted (e : Ender)
  /-- has notified, and is done -/
  | notified (e : Ender)
  /-- came too late -/
  | lost (e : Ender)
  deriving DecidableEq

namespace Transition

/-- One step at an instant, with what it makes of the query's record and bell. -/
def step (now : Nat) (s : QueryStatus) (b : Bell) : Transition → Transition × QueryStatus × Bell
  | .attempting e =>
    if s.state = .running then (.changed e, { s with state := e.target }, b) else (.lost e, s, b)
  | .changed e => (.lowered e, { s with running := false }, b)
  | .lowered e => (.noted e, { s with finished := some now }, b)
  | .noted e => (.notified e, s, b.ring)
  | .notified e => (.notified e, s, b)
  | .lost e => (.lost e, s, b)

/-- Who changed the state, if this did. -/
def won? : Transition → Option Ender
  | .changed e | .lowered e | .noted e | .notified e => some e
  | .attempting _ | .lost _ => none

/-- Whether there is nothing left to do. -/
def isOver : Transition → Bool
  | .notified _ | .lost _ => true
  | _ => false

variable {t : Transition} {e : Ender} {s : QueryStatus} {b : Bell} {now : Nat}

/-- What the record and the bell of a query show that a transition has ended. -/
structure Shows (t : Transition) (e : Ender) (s : QueryStatus) (b : Bell) : Prop where
  won : t.won? = some e
  state : s.state = e.target
  finished : s.finished.isSome = decide (t = .noted e ∨ t = .notified e)
  rings : b.rings = if t = .notified e then 1 else 0

/-- What has ended a query goes on with what is left to do. -/
theorem Shows.step (h : t.Shows e s b) (now : Nat) :
    (t.step now s b).1.Shows e (t.step now s b).2.1 (t.step now s b).2.2 := by
  obtain ⟨hwon, hstate, hfinished, hrings⟩ := h
  cases t with
  | attempting | lost => cases hwon
  | changed =>
    obtain rfl := Option.some.inj hwon
    exact ⟨rfl, hstate, by simpa [Transition.step] using hfinished,
      by simpa [Transition.step] using hrings⟩
  | lowered =>
    obtain rfl := Option.some.inj hwon
    exact ⟨rfl, hstate, by simp [Transition.step], by simpa [Transition.step] using hrings⟩
  | noted =>
    obtain rfl := Option.some.inj hwon
    refine ⟨rfl, hstate, by simpa [Transition.step] using hfinished, ?_⟩
    have hsilent : b.rings = 0 := by simpa using hrings
    simp [Transition.step, Bell.ring, hsilent]
  | notified =>
    obtain rfl := Option.some.inj hwon
    exact ⟨rfl, hstate, hfinished, hrings⟩

/-- Whoever comes too late changes nothing. -/
theorem step_of_late (now : Nat) (hnone : t.won? = none) (hended : s.state ≠ .running) :
    (t.step now s b).1.won? = none ∧ (t.step now s b).2 = (s, b) := by
  cases t with
  | attempting e =>
    rw [step, if_neg hended]
    exact ⟨rfl, rfl⟩
  | lost e => exact ⟨rfl, rfl⟩
  | changed | lowered | noted | notified => cases hnone

/-- A bell is not unrung. -/
theorem rings_le_step : b.rings ≤ (t.step now s b).2.2.rings := by
  cases t with
  | attempting e =>
    rw [step]
    split <;> exact Nat.le_refl _
  | noted e => exact Nat.le_succ _
  | changed | lowered | notified | lost => exact Nat.le_refl _

/-- Only a query that runs changes its state. -/
theorem state_step : (t.step now s b).2.1.state = s.state ∨ s.state = .running := by
  cases t with
  | attempting e =>
    by_cases hrunning : s.state = .running
    · exact .inr hrunning
    · rw [step, if_neg hrunning]
      exact .inl rfl
  | changed | lowered | noted | notified | lost => exact .inl rfl

/-- The first to come ends the query. -/
theorem step_of_running (now : Nat) (hnone : t.won? = none) (hrunning : s.state = .running) :
    (∃ e, t.step now s b = (.changed e, { s with state := e.target }, b)) ∨
      (∃ e, t.step now s b = (.lost e, s, b)) := by
  cases t with
  | attempting e => exact .inl ⟨e, if_pos hrunning⟩
  | lost e => exact .inr ⟨e, rfl⟩
  | changed | lowered | noted | notified => cases hnone

end Transition

/-- A query, with those who set about to end it and those who wait for its cancellation. -/
structure Vigil where
  status : QueryStatus
  bell : Bell
  transitions : List Transition
  waiters : List Waiter

namespace Vigil

/-- What can come next. -/
inductive Turn where
  /-- somebody begins to wait -/
  | wait
  /-- somebody sets about to end the query -/
  | attempt (e : Ender)
  /-- the waiter at a place takes a step -/
  | waiter (i : Nat)
  /-- the transition at a place takes a step -/
  | transition (j : Nat)
  /-- others change the flag and the listing of the query -/
  | mark (running listed : Bool)
  deriving DecidableEq

/-- The transition at a place takes a step. -/
def move (now : Nat) (v : Vigil) (j : Nat) : Vigil :=
  match v.transitions[j]? with
  | none => v
  | some t =>
    { v with
      status := (t.step now v.status v.bell).2.1
      bell := (t.step now v.status v.bell).2.2
      transitions := v.transitions.set j (t.step now v.status v.bell).1 }

/-- What becomes of a vigil in a turn. -/
def Turn.perform (now : Nat) (v : Vigil) : Turn → Vigil
  | .wait => { v with waiters := v.waiters ++ [.starting] }
  | .attempt e => { v with transitions := v.transitions ++ [.attempting e] }
  | .waiter i => { v with waiters := v.waiters.modify i (Waiter.step v.bell v.status.state) }
  | .transition j => v.move now j
  | .mark running listed => { v with status := { v.status with running, listed } }

/-- What a vigil is after some turns, each at its instant. -/
def after (v : Vigil) (turns : List (Nat × Turn)) : Vigil :=
  turns.foldl (fun v turn => turn.2.perform turn.1 v) v

/-- Nobody has come yet. -/
def fresh (s : QueryStatus) : Vigil := ⟨s, ⟨0⟩, [], []⟩

variable {v : Vigil} {turns more : List (Nat × Turn)} {now i j : Nat} {e : Ender} {w : Waiter}
  {t : Transition} {turn : Turn} {reason : CancelReason}

/-- Turns follow each other. -/
theorem after_append : v.after (turns ++ more) = (v.after turns).after more := List.foldl_append

/-! ## Who ends the query -/

/-- The query runs, and nobody has ended it. -/
structure Undecided (v : Vigil) : Prop where
  running : v.status.state = .running
  finished : v.status.finished = none
  rings : v.bell.rings = 0
  nobody : ∀ t ∈ v.transitions, t.won? = none

/-- The transition at a place has ended the query, and no other has. -/
structure Decided (v : Vigil) (j : Nat) (t : Transition) (e : Ender) : Prop where
  at_place : v.transitions[j]? = some t
  shows : t.Shows e v.status v.bell
  others : ∀ i t', v.transitions[i]? = some t' → i ≠ j → t'.won? = none

/-- The query runs, or one transition has ended it. -/
def Standing (v : Vigil) : Prop := v.Undecided ∨ ∃ j t e, v.Decided j t e

theorem move_eq (h : v.transitions[j]? = some t) :
    v.move now j = { v with
      status := (t.step now v.status v.bell).2.1
      bell := (t.step now v.status v.bell).2.2
      transitions := v.transitions.set j (t.step now v.status v.bell).1 } := by
  rw [move, h]

theorem move_of_none (h : v.transitions[j]? = none) : v.move now j = v := by
  rw [move, h]

/-- A query whose end is decided does not run. -/
theorem Decided.ended (h : v.Decided j t e) : v.status.state ≠ .running := by
  rw [h.shows.state]
  exact e.target_ne_running

/-- The transition that has ended the query takes a step. -/
theorem Decided.move_self (h : v.Decided j t e) (now : Nat) :
    (v.move now j).Decided j (t.step now v.status v.bell).1 e := by
  have hlt := (List.getElem?_eq_some_iff.1 h.at_place).1
  rw [move_eq h.at_place]
  refine ⟨List.getElem?_set_self hlt, h.shows.step now, fun i t' hi hne => ?_⟩
  rw [List.getElem?_set_ne (Ne.symm hne)] at hi
  exact h.others i t' hi hne

/-- Another one takes a step. -/
theorem Decided.move_other (h : v.Decided j t e) (hne : i ≠ j) (now : Nat) :
    (v.move now i).Decided j t e := by
  cases hi : v.transitions[i]? with
  | none =>
    rw [move_of_none hi]
    exact h
  | some t' =>
    have hlate := h.others i t' hi hne
    obtain ⟨hnone, hsame⟩ := Transition.step_of_late (b := v.bell) now hlate h.ended
    rw [move_eq hi, hsame]
    refine ⟨?_, h.shows, fun i' t'' hi' hne' => ?_⟩
    · rw [List.getElem?_set_ne hne]
      exact h.at_place
    · rcases eq_or_ne i i' with rfl | hii
      · rw [List.getElem?_set_self (List.getElem?_eq_some_iff.1 hi).1] at hi'
        obtain rfl := Option.some.inj hi'
        exact hnone
      · rw [List.getElem?_set_ne hii] at hi'
        exact h.others i' t'' hi' hne'

/-- While the query runs, a move decides it or leaves it. -/
theorem Undecided.move (h : v.Undecided) (now j : Nat) : (v.move now j).Standing := by
  cases hj : v.transitions[j]? with
  | none =>
    rw [move_of_none hj]
    exact .inl h
  | some t =>
    rw [move_eq hj]
    rcases Transition.step_of_running (b := v.bell) now
      (h.nobody t (List.mem_of_getElem? hj)) h.running with ⟨e, heq⟩ | ⟨e, heq⟩
    · rw [heq]
      refine .inr ⟨j, .changed e, e, ?_, ⟨rfl, rfl, ?_, ?_⟩, fun i t' hi hne => ?_⟩
      · exact List.getElem?_set_self (List.getElem?_eq_some_iff.1 hj).1
      · simp [h.finished]
      · simp [h.rings]
      · rw [List.getElem?_set_ne (Ne.symm hne)] at hi
        exact h.nobody t' (List.mem_of_getElem? hi)
    · rw [heq]
      refine .inl ⟨h.running, h.finished, h.rings, fun t' ht' => ?_⟩
      rcases List.mem_or_eq_of_mem_set ht' with hmem | rfl
      · exact h.nobody t' hmem
      · rfl

/-- Somebody sets about to end the query. -/
theorem Decided.attempt (h : v.Decided j t e) (e' : Ender) :
    ({ v with transitions := v.transitions ++ [.attempting e'] } : Vigil).Decided j t e := by
  have hlt := (List.getElem?_eq_some_iff.1 h.at_place).1
  refine ⟨?_, h.shows, fun i t' hi hne => ?_⟩
  · rw [List.getElem?_append_left hlt]
    exact h.at_place
  · rcases Nat.lt_or_ge i v.transitions.length with hi' | hi'
    · rw [List.getElem?_append_left hi'] at hi
      exact h.others i t' hi hne
    · rw [List.getElem?_append_right hi'] at hi
      obtain rfl := List.mem_singleton.1 (List.mem_of_getElem? hi)
      rfl

/-- What has ended the query stays that, in every turn. -/
theorem Decided.perform (h : v.Decided j t e) (now : Nat) (turn : Turn) :
    (turn.perform now v).Decided j t e ∨
      (turn.perform now v).Decided j (t.step now v.status v.bell).1 e := by
  cases turn with
  | wait => exact .inl ⟨h.at_place, h.shows, h.others⟩
  | attempt e' => exact .inl (h.attempt e')
  | waiter i => exact .inl ⟨h.at_place, h.shows, h.others⟩
  | mark running listed =>
    obtain ⟨hwon, hstate, hfinished, hrings⟩ := h.shows
    exact .inl ⟨h.at_place, ⟨hwon, hstate, hfinished, hrings⟩, h.others⟩
  | transition i =>
    rcases eq_or_ne i j with rfl | hne
    · exact .inr (h.move_self now)
    · exact .inl (h.move_other hne now)

/-- Whatever turn is taken, a query is undecided, or decided by one. -/
theorem Standing.perform (h : v.Standing) (now : Nat) (turn : Turn) :
    (turn.perform now v).Standing := by
  rcases h with h | ⟨j, t, e, h⟩
  · cases turn with
    | wait => exact .inl ⟨h.running, h.finished, h.rings, h.nobody⟩
    | attempt e =>
      refine .inl ⟨h.running, h.finished, h.rings, fun t ht => ?_⟩
      rcases List.mem_append.1 ht with hmem | hmem
      · exact h.nobody t hmem
      · obtain rfl := List.mem_singleton.1 hmem
        rfl
    | waiter i => exact .inl ⟨h.running, h.finished, h.rings, h.nobody⟩
    | mark running listed => exact .inl ⟨h.running, h.finished, h.rings, h.nobody⟩
    | transition j => exact h.move now j
  · rcases h.perform now turn with h | h
    · exact .inr ⟨j, t, e, h⟩
    · exact .inr ⟨j, _, e, h⟩

/-! ## Who waits -/

/-- What holds of somebody who waits. Whoever sleeps on a cancelled query asked before there was a
notification: whoever asks later sees the state that the query is in by then. -/
def Attends (v : Vigil) : Waiter → Prop
  | .starting => True
  | .asked rings => rings ≤ v.bell.rings
  | .asleep rings => rings ≤ v.bell.rings ∧ (v.status.cancelReason ≠ none → rings = 0)
  | .resolved reason => v.status.cancelReason = some reason

/-- A waiter who takes a step still attends. -/
theorem Attends.step (h : v.Attends w) : v.Attends (w.step v.bell v.status.state) := by
  cases w with
  | starting => exact Nat.le_refl _
  | asked rings =>
    rw [Waiter.step]
    cases hreason : v.status.state.cancelReason with
    | none => exact ⟨h, fun hne => absurd hreason hne⟩
    | some reason => exact hreason
  | asleep rings =>
    rw [Waiter.step]
    split
    · trivial
    · exact h
  | resolved reason => exact h

/-- Others act: the bell may ring, and the state may change if the bell has not rung before. -/
theorem Attends.later {v' : Vigil} (h : v.Attends w) (hrings : v.bell.rings ≤ v'.bell.rings)
    (hstate : v'.status.state = v.status.state ∨
      v.status.state = .running ∧ v.bell.rings = 0) : v'.Attends w := by
  cases w with
  | starting => trivial
  | asked rings => exact Nat.le_trans h hrings
  | asleep rings =>
    obtain ⟨hle, hzero⟩ := h
    refine ⟨Nat.le_trans hle hrings, fun hne => ?_⟩
    rcases hstate with hsame | ⟨-, hsilent⟩
    · rw [QueryStatus.cancelReason, hsame] at hne
      exact hzero hne
    · rw [hsilent] at hle
      exact Nat.le_zero.1 hle
  | resolved reason =>
    rcases hstate with hsame | ⟨hrunning, -⟩
    · change v'.status.state.cancelReason = some reason
      rw [hsame]
      exact h
    · change v.status.state.cancelReason = some reason at h
      rw [hrunning] at h
      cases h

/-- A move unrings no bell. -/
theorem rings_le_move (now j : Nat) : v.bell.rings ≤ (v.move now j).bell.rings := by
  rw [move]
  split
  · exact Nat.le_refl _
  · exact Transition.rings_le_step

/-- A move changes no state but that of a query that runs. -/
theorem state_move (now j : Nat) : (v.move now j).status.state = v.status.state ∨
    v.status.state = .running := by
  rw [move]
  split
  · exact .inl rfl
  · exact Transition.state_step

/-- A vigil at any time. -/
structure Sound (v : Vigil) : Prop where
  standing : v.Standing
  attends : ∀ w ∈ v.waiters, v.Attends w

/-- As long as the query runs, no bell has rung. -/
theorem Standing.silent (h : v.Standing) (hrunning : v.status.state = .running) :
    v.bell.rings = 0 := by
  rcases h with h | ⟨j, t, e, h⟩
  · exact h.rings
  · exact absurd hrunning h.ended

/-- Every turn keeps a vigil sound. -/
theorem Sound.perform (h : v.Sound) (now : Nat) (turn : Turn) : (turn.perform now v).Sound := by
  refine ⟨h.standing.perform now turn, fun w hw => ?_⟩
  cases turn with
  | wait =>
    rcases List.mem_append.1 hw with hmem | hmem
    · exact h.attends w hmem
    · obtain rfl := List.mem_singleton.1 hmem
      trivial
  | attempt e => exact h.attends w hw
  | mark running listed => exact (h.attends w hw).later (Nat.le_refl _) (.inl rfl)
  | waiter i =>
    obtain ⟨k, hk⟩ := List.getElem?_of_mem hw
    change (v.waiters.modify i _)[k]? = some w at hk
    rw [List.getElem?_modify] at hk
    obtain ⟨w', hw', rfl⟩ := Option.map_eq_some_iff.1 hk
    have hattends := h.attends w' (List.mem_of_getElem? hw')
    by_cases hik : i = k
    · rw [if_pos hik]
      exact hattends.step
    · rw [if_neg hik]
      exact hattends
  | transition j =>
    have hw : w ∈ v.waiters := by
      change w ∈ (v.move now j).waiters at hw
      rw [move] at hw
      split at hw <;> exact hw
    refine (h.attends w hw).later (rings_le_move now j) ?_
    rcases state_move now j with hsame | hrunning
    · exact .inl hsame
    · exact .inr ⟨hrunning, h.standing.silent hrunning⟩

theorem Sound.after (h : v.Sound) (turns : List (Nat × Turn)) : (v.after turns).Sound := by
  induction turns generalizing v with
  | nil => exact h
  | cons turn turns ih => exact ih (h.perform turn.1 turn.2)

/-- A vigil of a query that runs is sound at first. -/
theorem sound_fresh {s : QueryStatus} (hrunning : s.state = .running)
    (hfinished : s.finished = none) : (fresh s).Sound :=
  ⟨.inl ⟨hrunning, hfinished, rfl, fun _ ht => absurd ht List.not_mem_nil⟩,
    fun _ hw => absurd hw List.not_mem_nil⟩

/-! ## Once a cancellation has notified -/

/-- Whoever has changed the state has ended the query. -/
theorem Standing.decided_of_won (h : v.Standing) (hj : v.transitions[j]? = some t)
    (hwon : t.won? = some e) : v.Decided j t e := by
  rcases h with h | ⟨j', t', e', h⟩
  · rw [h.nobody t (List.mem_of_getElem? hj)] at hwon
    cases hwon
  · rcases eq_or_ne j j' with rfl | hne
    · obtain rfl := Option.some.inj (h.at_place.symm.trans hj)
      obtain rfl := Option.some.inj (h.shows.won.symm.trans hwon)
      exact h
    · rw [h.others j t hj hne] at hwon
      cases hwon

/-- What was decided stays, whatever turns are taken. -/
theorem Decided.after (h : v.Decided j t e) (turns : List (Nat × Turn)) :
    ∃ t', (v.after turns).Decided j t' e := by
  induction turns generalizing v t with
  | nil => exact ⟨t, h⟩
  | cons turn turns ih =>
    rcases h.perform turn.1 turn.2 with h | h
    · exact ih h
    · exact ih h

/-- The reason of a cancel is that of the transition that decided. -/
theorem Decided.cancelReason_eq (h : v.Decided j t e) :
    v.status.cancelReason = e.target.cancelReason := by
  rw [QueryStatus.cancelReason, h.shows.state]

/-- Whoever sleeps is woken. -/
theorem Sound.woken (h : v.Sound) (hended : v.Decided j (.notified e) e)
    (hreason : e.target.cancelReason = some reason) {rings : Nat}
    (hw : .asleep rings ∈ v.waiters) : rings < v.bell.rings := by
  obtain ⟨-, hzero⟩ : rings ≤ _ ∧ (_ → rings = 0) := h.attends _ hw
  have hcancelled : v.status.cancelReason ≠ none := by
    rw [hended.cancelReason_eq, hreason]
    exact Option.some_ne_none reason
  rw [hzero hcancelled, hended.shows.rings, if_pos rfl]
  exact Nat.one_pos

/-- Waiters are told the reason of the end. -/
theorem Sound.reason_eq (h : v.Sound) (hended : v.Decided j t e)
    (hw : .resolved reason ∈ v.waiters) : e.target.cancelReason = some reason := by
  rw [← hended.cancelReason_eq]
  exact h.attends _ hw

end Vigil

/-- How many more steps somebody takes who is woken, until the reason is found. -/
def Waiter.remaining : Waiter → Nat
  | .asleep _ => 3
  | .starting => 2
  | .asked _ => 1
  | .resolved _ => 0

/-- A waiter is at most three steps from its answer. -/
theorem Waiter.remaining_le (w : Waiter) : w.remaining ≤ 3 := by
  cases w <;> simp [remaining]

/-- A waiter who need not sleep on is one step nearer to its answer after each step. -/
theorem Waiter.remaining_step {b : Bell} {state : QueryState} {reason : CancelReason} {w : Waiter}
    (hreason : state.cancelReason = some reason)
    (hwoken : ∀ rings, w = .asleep rings → rings < b.rings) :
    (w.step b state).remaining = w.remaining - 1 := by
  cases w with
  | starting => rfl
  | asked rings =>
    rw [Waiter.step, hreason]
    rfl
  | asleep rings =>
    rw [Waiter.step, if_pos (hwoken rings rfl)]
    rfl
  | resolved reason => rfl

namespace Vigil

variable {v : Vigil} {turns more : List (Nat × Turn)} {now i j : Nat} {e : Ender} {w : Waiter}
  {turn : Turn} {reason : CancelReason}

/-- At its turn a waiter takes its step. -/
theorem waiters_perform_self (h : v.waiters[i]? = some w) :
    ((Turn.waiter i).perform now v).waiters[i]? = some (w.step v.bell v.status.state) := by
  change (v.waiters.modify i _)[i]? = _
  rw [List.getElem?_modify, h]
  exact congrArg some (if_pos rfl)

/-- Somebody who waits stands still in the turns of others. -/
theorem waiters_perform_other (h : v.waiters[i]? = some w) (hne : turn ≠ .waiter i) :
    (turn.perform now v).waiters[i]? = some w := by
  cases turn with
  | wait =>
    change (v.waiters ++ [.starting])[i]? = some w
    rw [List.getElem?_append_left (List.getElem?_eq_some_iff.1 h).1]
    exact h
  | attempt e => exact h
  | mark running listed => exact h
  | waiter k =>
    have hk : k ≠ i := fun hk => hne (congrArg Turn.waiter hk)
    change (v.waiters.modify k _)[i]? = some w
    rw [List.getElem?_modify, h]
    exact congrArg some (if_neg hk)
  | transition j =>
    change (v.move now j).waiters[i]? = some w
    rw [move]
    split <;> exact h

/-- Whoever has taken the remaining steps has found the reason, by induction on the turns. -/
theorem Sound.resolved (h : v.Sound) (hended : v.Decided j (.notified e) e)
    (hreason : e.target.cancelReason = some reason) (hw : v.waiters[i]? = some w)
    (hturns : w.remaining ≤ turns.countP fun turn => turn.2 = .waiter i) :
    (v.after turns).waiters[i]? = some (.resolved reason) := by
  induction turns generalizing v w with
  | nil =>
    cases w with
    | resolved reason' =>
      have hsame := h.reason_eq hended (List.mem_of_getElem? hw)
      rw [hreason] at hsame
      rw [Option.some.inj hsame]
      exact hw
    | starting | asked | asleep => cases hturns
  | cons turn turns ih =>
    have hsound := h.perform turn.1 turn.2
    have hdecided : (turn.2.perform turn.1 v).Decided j (.notified e) e :=
      (hended.perform turn.1 turn.2).elim id id
    rw [List.countP_cons] at hturns
    by_cases hown : turn.2 = .waiter i
    · have hstate : v.status.state.cancelReason = some reason := by
        rw [hended.shows.state, hreason]
      have hstep := Waiter.remaining_step (b := v.bell) hstate fun rings hasleep =>
        h.woken hended hreason (hasleep ▸ List.mem_of_getElem? hw)
      refine ih hsound hdecided (w := w.step v.bell v.status.state) ?_ ?_
      · change (turn.2.perform turn.1 v).waiters[i]? = _
        rw [hown]
        exact waiters_perform_self hw
      · rw [hstep]
        simp only [hown, decide_true, if_true] at hturns
        omega
    · refine ih hsound hdecided (waiters_perform_other hw hown) ?_
      simpa only [hown, decide_false, Bool.false_eq_true, if_false, Nat.add_zero] using hturns

/-! ## Without interruption -/

/-- The turns of somebody who ends the query and is not interrupted, as the next to come. -/
def atOnce (now : Nat) (e : Ender) (v : Vigil) : List (Nat × Turn) :=
  (now, .attempt e) :: List.replicate 4 (now, .transition v.transitions.length)

/-- The last transition moves. -/
theorem move_last (s : QueryStatus) (b : Bell) (ts : List Transition) (t : Transition)
    (ws : List Waiter) (now : Nat) :
    (⟨s, b, ts ++ [t], ws⟩ : Vigil).move now ts.length =
      ⟨(t.step now s b).2.1, (t.step now s b).2.2, ts ++ [(t.step now s b).1], ws⟩ := by
  rw [move_eq List.getElem?_concat_length]
  simp

/-- What a registry does with a record is done by a transition that is not interrupted. It notifies
if the query was running. -/
theorem status_atOnce (v : Vigil) (now : Nat) (e : Ender) :
    (v.after (v.atOnce now e)).status = v.status.moveTo e.target now ∧
      (v.after (v.atOnce now e)).bell =
        if v.status.state = .running then v.bell.ring else v.bell := by
  obtain ⟨s, b, ts, ws⟩ := v
  have hmoves : (⟨s, b, ts, ws⟩ : Vigil).after (atOnce now e ⟨s, b, ts, ws⟩) =
      ((((Vigil.move now ⟨s, b, ts ++ [.attempting e], ws⟩ ts.length).move now ts.length).move now
        ts.length).move now ts.length) := rfl
  rw [hmoves]
  by_cases hrunning : s.state = .running
  · simp only [move_last, Transition.step, hrunning, if_true, QueryStatus.moveTo_of_running,
      and_self]
  · simp only [move_last, Transition.step, hrunning, if_false, QueryStatus.moveTo, and_self]

/-- Somebody who waits and is not interrupted looks as they do whom a registry lets look. -/
theorem waiters_run (v : Vigil) (now i : Nat) :
    (v.after (List.replicate 4 (now, .waiter i))).waiters =
      v.waiters.modify i (Waiter.run v.bell v.status.state) := by
  change ((((v.waiters.modify i _).modify i _).modify i _).modify i _) = _
  rw [List.modify_modify_eq, List.modify_modify_eq, List.modify_modify_eq]
  rfl

/-- When all transitions are over, the bell has rung as often as a registry says. -/
theorem Standing.bell_eq (h : v.Standing) (hover : ∀ t ∈ v.transitions, t.isOver = true)
    {r : StatusRegistry} {place : Nat} (hstatus : r.status? place = some v.status) :
    StatusMonitor.bell r place = v.bell := by
  have hrings : (StatusMonitor.bell r place).rings = v.bell.rings := by
    rw [StatusMonitor.bell, hstatus, Option.bind_some]
    rcases h with h | ⟨j, t, e, h⟩
    · rw [h.finished, h.rings]
    · have hnotified : t = .notified e := by
        have hwon := h.shows.won
        have htover := hover t (List.mem_of_getElem? h.at_place)
        cases t with
        | notified e' => rw [Option.some.inj hwon]
        | lost e' => cases hwon
        | attempting | changed | lowered | noted => cases htover
      have hfinished := h.shows.finished
      rw [h.shows.rings, if_pos hnotified]
      rw [hnotified] at hfinished
      cases hf : v.status.finished with
      | none => simp [hf] at hfinished
      | some t => rfl
  exact congrArg Bell.mk hrings

/-! ## All orders -/

/-- **Nobody is missed, and nobody is woken for nothing.** A query is registered, and then people
set about to end it and others wait for its cancellation, at any time and with their steps in any
order. Whoever has found a reason has found that of the query's cancellation. At most one of the
transitions has ended the query, and what it made of the state is final. Once one that cancels has
notified, everybody who sleeps is woken; everybody, also whoever comes later, has found its reason
after three more steps, and nobody ever finds another. If the query is complete, nobody ever finds a
reason.

The steps are those of a registry: a transition that is not interrupted moves the record as the
registry does and notifies if it does; one who waits and is not interrupted looks as the registry's
watchers do; and when all transitions are over, the registry tells its watchers of as many
notifications as there were. -/
theorem cancellation_wakes_all (earlier started : Nat) (table : String) (query : QueryDescriptor)
    (turns : List (Nat × Turn)) :
    let v := (fresh (.registered earlier started table query)).after turns
    (∀ reason, .resolved reason ∈ v.waiters → v.status.cancelReason = some reason) ∧
    (∀ (j : Nat) (t : Transition) (e : Ender), v.transitions[j]? = some t → t.won? = some e →
      (∀ (i : Nat) (t' : Transition) (e' : Ender), v.transitions[i]? = some t' →
        t'.won? = some e' → i = j) ∧
      ∀ more, (v.after more).status.state = e.target) ∧
    (∀ (e : Ender) reason, .notified e ∈ v.transitions → e.target.cancelReason = some reason →
      (∀ rings, .asleep rings ∈ v.waiters → rings < v.bell.rings) ∧
      (∀ i more, i < v.waiters.length → 3 ≤ more.countP (fun turn => turn.2 = .waiter i) →
        (v.after more).waiters[i]? = some (.resolved reason)) ∧
      ∀ more reason', .resolved reason' ∈ (v.after more).waiters → reason' = reason) ∧
    (v.status.state = .complete → ∀ more reason, .resolved reason ∉ (v.after more).waiters) ∧
    (∀ now e, (v.after (v.atOnce now e)).status = v.status.moveTo e.target now ∧
      (v.after (v.atOnce now e)).bell =
        if v.status.state = .running then v.bell.ring else v.bell) ∧
    (∀ now i, (v.after (List.replicate 4 (now, .waiter i))).waiters =
      v.waiters.modify i (Waiter.run v.bell v.status.state)) ∧
    ((∀ t ∈ v.transitions, t.isOver = true) → ∀ (r : StatusRegistry) place,
      r.status? place = some v.status → StatusMonitor.bell r place = v.bell) := by
  intro v
  have hsound : v.Sound := (sound_fresh rfl rfl).after turns
  refine ⟨fun reason hw => hsound.attends _ hw, fun j t e hj hwon => ?_,
    fun e reason hmem hreason => ?_, fun hcomplete more reason hw => ?_,
    fun now e => status_atOnce v now e, fun now i => waiters_run v now i,
    fun hover r place hstatus => hsound.standing.bell_eq hover hstatus⟩
  · have hdecided := hsound.standing.decided_of_won hj hwon
    refine ⟨fun i t' e' hi hwon' => ?_, fun more => ?_⟩
    · by_contra hne
      rw [hdecided.others i t' hi hne] at hwon'
      cases hwon'
    · obtain ⟨t', h⟩ := hdecided.after more
      exact h.shows.state
  · obtain ⟨j, hj⟩ := List.getElem?_of_mem hmem
    have hdecided := hsound.standing.decided_of_won hj rfl
    refine ⟨fun rings hw => hsound.woken hdecided hreason hw, fun i more hi hturns => ?_,
      fun more reason' hw => ?_⟩
    · exact hsound.resolved hdecided hreason (List.getElem?_eq_getElem hi)
        (Nat.le_trans (Waiter.remaining_le _) hturns)
    · obtain ⟨t', h⟩ := hdecided.after more
      have hsame := (hsound.after more).reason_eq h hw
      rw [hreason] at hsame
      exact (Option.some.inj hsame).symm
  · obtain ⟨j, t, e, h⟩ := hsound.standing.resolve_left fun h => by
      rw [h.running] at hcomplete
      cases hcomplete
    obtain ⟨t', h'⟩ := h.after more
    have hnone : e.target.cancelReason = none := by
      rw [← h.shows.state, hcomplete]
      rfl
    rw [(hsound.after more).reason_eq h' hw] at hnone
    cases hnone

/-- Somebody asks and looks, the query is cancelled, and they fall asleep after the state has
changed but before the bell rings; another asks between the change and the bell. Both are woken. -/
example (s : QueryStatus) (h : s.state = .running) :
    ((fresh s).after <| [.attempt .cancel, .wait, .waiter 0, .waiter 0, .transition 0, .wait,
      .waiter 1, .transition 0, .transition 0, .transition 0, .waiter 0, .waiter 0, .waiter 0,
      .waiter 1].map (0, ·)).waiters = [.resolved .user, .resolved .user] := by
  simp [after, fresh, Turn.perform, move, Transition.step, Waiter.step, h, Bell.ring,
    Ender.target, QueryState.cancelReason]

end Vigil

end ScatterSearch
