import Mathlib.Order.Monotone.Basic
import ScatterSearch.Proofs.Time.Run
import ScatterSearch.Time.Periodic

/-!
# When a periodic task ticks, and when it stops

The ticks of a task follow a timetable (`PeriodicTask.timetable`): each starts as soon as the ticker
says so and the tick before it is over. What is known of the timetable is known of every run, for in
every run the ticks that were started are the first ones of it (`PeriodicTask.OnTime`).

A task that is asked to stop ends its tick, and then it stops, unless its next tick is due by then
(`PeriodicTask.Tied`) and is drawn (`PeriodicTask.Overtakes`). Where the two tie, some draws let the
tick go first, and some do not (`PeriodicTask.either_of_tied`). `PeriodicTask.ticks_until_stopped`
puts it all together.
-/

namespace ScatterSearch

namespace Ticker

/-- A tick that is taken late does not bring the next one forward. -/
theorem due_add_period_le (now : Nat) (t : Ticker) : t.due + t.period ≤ (t.take now).due := by
  rw [take]
  dsimp only
  split <;> omega

/-- A tick that is taken on time leaves the timetable as it was. -/
theorem due_take_of_on_time {t : Ticker} {now : Nat} (h : now ≤ t.due) :
    (t.take now).due = t.due + t.period :=
  if_neg (by omega)

end Ticker

namespace PeriodicTask

variable {work : Nat → Tick} {tickFirst : Nat → Bool} {born period now due k : Nat}
  {t : PeriodicTask} {s u : Timed PeriodicTask}

/-! ## The timetable -/

/-- How a task stands before a tick. -/
structure Slot where
  ticker : Ticker
  /-- when the tick before is over -/
  free : Nat

namespace Slot

/-- When the tick starts. -/
def start (slot : Slot) : Nat := max slot.ticker.due slot.free

/-- How the task stands before the tick after this one. -/
def next (tick : Tick) (slot : Slot) : Slot :=
  ⟨slot.ticker.take slot.start, slot.start + tick.duration⟩

end Slot

/-- How a task stands before each of its ticks, if nobody asks it to stop and no tick panics. -/
def timetable (work : Nat → Tick) (born period : Nat) : Nat → Slot
  | 0 => ⟨.start born period, born⟩
  | k + 1 => (timetable work born period k).next (work k)

/-- The period stays the same. -/
theorem timetable_period :
    (timetable work born period k).ticker.period = max period Ticker.leastPeriod := by
  induction k with
  | zero => rfl
  | succ k ih => exact ih

/-- No tick is due before its multiple of the period. -/
theorem le_due_timetable :
    born + (k + 1) * max period Ticker.leastPeriod ≤ (timetable work born period k).ticker.due := by
  induction k with
  | zero => rw [Nat.zero_add, Nat.one_mul]; exact Nat.le_refl _
  | succ k ih =>
    have hstep := Ticker.due_add_period_le (timetable work born period k).start
      (timetable work born period k).ticker
    rw [timetable_period] at hstep
    rw [Nat.succ_mul, ← Nat.add_assoc]
    exact Nat.le_trans (Nat.add_le_add_right ih _) hstep

/-- Ticks that take no time do not delay the ticker. -/
theorem timetable_of_idle (hidle : ∀ i < k, (work i).duration = 0) :
    (timetable work born period k).ticker.due = born + (k + 1) * max period Ticker.leastPeriod ∧
      (timetable work born period k).free ≤ (timetable work born period k).ticker.due := by
  induction k with
  | zero => exact ⟨by rw [Nat.zero_add, Nat.one_mul]; rfl, Nat.le_add_right _ _⟩
  | succ k ih =>
    obtain ⟨hdue, hfree⟩ := ih fun i hi => hidle i (Nat.lt_succ_of_lt hi)
    have hstart : (timetable work born period k).start =
        (timetable work born period k).ticker.due := Nat.max_eq_left hfree
    have hnext : (timetable work born period (k + 1)).ticker.due =
        (timetable work born period k).ticker.due + max period Ticker.leastPeriod := by
      rw [← timetable_period]
      exact Ticker.due_take_of_on_time (Nat.le_of_eq hstart)
    have hfree' : (timetable work born period (k + 1)).free =
        (timetable work born period k).ticker.due := by
      change (timetable work born period k).start + (work k).duration = _
      rw [hidle k (Nat.lt_succ_self k), hstart, Nat.add_zero]
    rw [hnext, hfree']
    exact ⟨by rw [hdue, Nat.succ_mul (k + 1), Nat.add_assoc], Nat.le_add_right _ _⟩

/-- If the ticks before take no time, a tick starts at its multiple of the period. -/
theorem start_timetable_of_idle (hidle : ∀ i < k, (work i).duration = 0) :
    (timetable work born period k).start = born + (k + 1) * max period Ticker.leastPeriod := by
  rw [Slot.start, Nat.max_eq_left (timetable_of_idle hidle).2]
  exact (timetable_of_idle hidle).1

/-- A later tick is over later. -/
theorem free_timetable_mono : Monotone fun k => (timetable work born period k).free :=
  monotone_nat_of_le_succ fun _ =>
    Nat.le_trans (Nat.le_max_right _ _) (Nat.le_add_right _ _)

/-- A later tick starts later. -/
theorem start_timetable_mono : Monotone fun k => (timetable work born period k).start :=
  monotone_nat_of_le_succ fun _ =>
    Nat.le_trans (Nat.le_add_right _ _) (Nat.le_max_right _ _)

/-! ## One step -/

/-- What others do to a task. -/
inductive Deed where
  | stop

/-- What becomes of a task to which something is done. -/
def Deed.perform : Deed → Nat → PeriodicTask → PeriodicTask
  | .stop, _, t => t.requestStop

/-- What a task can do when it is due. -/
inductive Acts (work : Nat → Tick) (first : Bool) (now : Nat) (t : PeriodicTask) :
    PeriodicTask → Prop
  | stops (hactivity : t.activity = .waiting) (hstopping : t.stopping = true)
      (hfirst : ¬ (first = true ∧ t.ticker.due ≤ now)) : Acts work first now t
        { t with activity := .stopped }
  | begins (hactivity : t.activity = .waiting) (hdue : t.ticker.due ≤ now)
      (hfirst : t.stopping = true → first = true) : Acts work first now t (t.beginTick work now)
  | ends {ends : Nat} {panics : Bool} (hactivity : t.activity = .ticking ends panics)
      (hends : ends ≤ now) : Acts work first now t (t.endTick panics)

/-- The end of a tick does not change whether the task is to stop. -/
@[simp]
theorem endTick_stopping {panics : Bool} : (t.endTick panics).stopping = t.stopping := by
  rw [endTick]
  split <;> rfl

@[simp]
theorem endTick_starts {panics : Bool} : (t.endTick panics).starts = t.starts := by
  rw [endTick]
  split <;> rfl

namespace Acts

variable {first : Bool} {t' : PeriodicTask}

theorem stopping_eq (h : Acts work first now t t') : t'.stopping = t.stopping := by
  cases h with
  | stops | begins => rfl
  | ends => exact endTick_stopping

/-- Starts are not forgotten. -/
theorem length_starts_le (h : Acts work first now t t') :
    t.starts.length ≤ t'.starts.length := by
  cases h with
  | stops => exact Nat.le_refl _
  | begins => exact Nat.le_succ _
  | ends => rw [endTick_starts]

end Acts

/-- At its turn a task does one of the things that it can do. -/
theorem acts_of_due {first : Bool} (hdue : t.due = some due) (hle : due ≤ now) :
    Acts work first now t (t.fire work first now) := by
  rw [PeriodicTask.due] at hdue
  rw [fire]
  cases hactivity : t.activity with
  | waiting =>
    simp only [hactivity, Option.some.injEq] at hdue ⊢
    have hstops : (t.stopping && !(first && decide (t.ticker.due ≤ now))) = true ↔
        t.stopping = true ∧ ¬ (first = true ∧ t.ticker.due ≤ now) := by
      rw [Bool.and_eq_true, Bool.not_eq_true', ← Bool.not_eq_true, Bool.and_eq_true,
        decide_eq_true_iff]
    split
    · rename_i hstop
      exact .stops hactivity (hstops.1 hstop).1 (hstops.1 hstop).2
    · rename_i hgo
      have htie : t.stopping = true → first = true ∧ t.ticker.due ≤ now := fun hstopping =>
        not_not.1 fun hnot => hgo (hstops.2 ⟨hstopping, hnot⟩)
      have hready : t.ticker.due ≤ now := by
        by_cases hstopping : t.stopping = true
        · exact (htie hstopping).2
        · rw [if_neg hstopping] at hdue
          exact Nat.le_trans (Nat.le_of_eq hdue) hle
      rw [if_pos hready]
      exact .begins hactivity hready fun hstopping => (htie hstopping).1
  | ticking ends panics =>
    simp only [hactivity, Option.some.injEq] at hdue ⊢
    subst hdue
    rw [if_pos hle]
    exact .ends hactivity hle
  | stopped | panicked => simp only [hactivity, reduceCtorEq] at hdue

/-! ## Every run is on time -/

/-- What a task does while it stands before a tick. -/
inductive Phase (work : Nat → Tick) (slot : Slot) (now : Nat) (t : PeriodicTask) : Prop
  | waiting (hactivity : t.activity = .waiting) (hfree : slot.free ≤ now)
      (hstart : now ≤ slot.start)
  /-- the tick before is not over -/
  | ticking {k : Nat} (hactivity : t.activity = .ticking slot.free (work k).panics)
      (hcount : t.starts.length = k + 1) (hfree : now ≤ slot.free)
  | stopped (hactivity : t.activity = .stopped) (hstopping : t.stopping = true)
      (hfree : slot.free ≤ now)
  | panicked {k : Nat} (hactivity : t.activity = .panicked) (hcount : t.starts.length = k + 1)
      (hpanics : (work k).panics = true) (hfree : slot.free ≤ now)

/-- The ticks that were started are the first ones of the timetable. -/
structure OnTime (work : Nat → Tick) (born period : Nat) (u : Timed PeriodicTask) : Prop where
  starts : u.state.starts.reverse =
    (List.range u.state.starts.length).map fun k => (timetable work born period k).start
  ticker : u.state.ticker = (timetable work born period u.state.starts.length).ticker
  phase : Phase work (timetable work born period u.state.starts.length) u.now u.state

namespace OnTime

/-- A task that was just spawned is on time. -/
theorem spawn : OnTime work born period ⟨born, .spawn born period⟩ where
  starts := rfl
  ticker := rfl
  phase := .waiting rfl (Nat.le_refl _) (Nat.le_max_right _ _)

/-- A task that is on time stays so at its turn. -/
theorem fire {first : Bool} (h : OnTime work born period u) {t : PeriodicTask}
    (hacts : Acts work first u.now u.state t) : OnTime work born period ⟨u.now, t⟩ := by
  obtain ⟨hstarts, hticker, hphase⟩ := h
  cases hacts with
  | stops hactivity hstopping =>
    refine ⟨hstarts, hticker, ?_⟩
    cases hphase with
    | waiting _ hfree => exact .stopped rfl hstopping hfree
    | ticking h | stopped h | panicked h => cases hactivity.symm.trans h
  | begins hactivity hdue =>
    cases hphase with
    | waiting _ hfree hstart =>
      have hnow : (timetable work born period u.state.starts.length).start = u.now := by
        rw [hticker] at hdue
        exact Nat.le_antisymm (Nat.max_le.2 ⟨hdue, hfree⟩) hstart
      refine ⟨?_, ?_, .ticking (k := u.state.starts.length) ?_ rfl ?_⟩
      · simp [beginTick, List.range_succ, hstarts, hnow]
      · simp [beginTick, timetable, Slot.next, hticker, hnow]
      · simp [beginTick, timetable, Slot.next, hnow]
      · simp [beginTick, timetable, Slot.next, hnow]
    | ticking h | stopped h | panicked h => cases hactivity.symm.trans h
  | @ends ends panics hactivity hends =>
    cases hphase with
    | ticking h hcount hfree =>
      cases hactivity.symm.trans h
      rw [endTick]
      split
      · exact ⟨hstarts, hticker, .panicked rfl hcount ‹_› hends⟩
      · exact ⟨hstarts, hticker,
          .waiting rfl hends (Nat.le_trans hfree (Nat.le_max_right _ _))⟩
    | waiting h | stopped h | panicked h => cases hactivity.symm.trans h

theorem pass (h : OnTime work born period u) (hle : u.now ≤ now)
    (hdue : ∀ due, u.state.due = some due → now ≤ due) :
    OnTime work born period ⟨now, u.state⟩ := by
  obtain ⟨hstarts, hticker, hphase⟩ := h
  refine ⟨hstarts, hticker, ?_⟩
  cases hphase with
  | waiting hactivity hfree =>
    have hnow : now ≤ u.state.ticker.due := by
      refine Nat.le_trans (hdue _ (by rw [PeriodicTask.due, hactivity])) ?_
      split <;> omega
    rw [hticker] at hnow
    exact .waiting hactivity (Nat.le_trans hfree hle) (Nat.le_trans hnow (Nat.le_max_left _ _))
  | ticking hactivity hcount =>
    exact .ticking hactivity hcount (hdue _ (by rw [PeriodicTask.due, hactivity]))
  | stopped hactivity hstopping hfree =>
    exact .stopped hactivity hstopping (Nat.le_trans hfree hle)
  | panicked hactivity hcount hpanics hfree =>
    exact .panicked hactivity hcount hpanics (Nat.le_trans hfree hle)

theorem act (h : OnTime work born period u) (e : Deed) :
    OnTime work born period ⟨u.now, e.perform u.now u.state⟩ := by
  obtain ⟨hstarts, hticker, hphase⟩ := h
  refine ⟨hstarts, hticker, ?_⟩
  cases hphase with
  | waiting hactivity hfree hstart => exact .waiting hactivity hfree hstart
  | ticking hactivity hcount hfree => exact .ticking hactivity hcount hfree
  | stopped hactivity hstopping hfree => exact .stopped hactivity rfl hfree
  | panicked hactivity hcount hpanics hfree => exact .panicked hactivity hcount hpanics hfree

/-- In every run a task is on time. -/
theorem of_run {trace : List (Nat × Deed)}
    (h : Run (machine work tickFirst) Deed.perform ⟨born, .spawn born period⟩ trace u) :
    OnTime work born period u :=
  h.invariant (I := fun _ u => OnTime work born period u) .spawn
    (fun _ _ _ hu hdue hle => hu.fire (acts_of_due hdue hle))
    (fun _ _ _ hu hle hdue => hu.pass hle hdue) fun _ _ e hu => hu.act e

end OnTime

/-! ## What the timetable says of a run -/

/-- When a tick started, counted from zero. -/
def start? (t : PeriodicTask) (k : Nat) : Option Nat := t.starts.reverse[k]?

namespace OnTime

/-- The ticks that have started did so by the timetable. -/
theorem start?_eq_some_iff (h : OnTime work born period u) {start : Nat} :
    u.state.start? k = some start ↔
      k < u.state.starts.length ∧ (timetable work born period k).start = start := by
  rw [start?, h.starts, List.getElem?_map, Option.map_eq_some_iff]
  constructor
  · rintro ⟨i, hi, hstart⟩
    obtain ⟨hlt, rfl⟩ := List.getElem?_eq_some_iff.1 hi
    rw [List.getElem_range] at hstart
    exact ⟨by simpa using hlt, hstart⟩
  · rintro ⟨hlt, hstart⟩
    exact ⟨k, List.getElem?_range hlt, hstart⟩

/-- A task that has not ended is not late for its next tick. -/
theorem now_le_start (h : OnTime work born period u) (hfinished : u.state.isFinished = false) :
    u.now ≤ (timetable work born period u.state.starts.length).start := by
  cases h.phase with
  | waiting _ _ hstart => exact hstart
  | ticking _ _ hfree => exact Nat.le_trans hfree (Nat.le_max_right _ _)
  | stopped hactivity | panicked hactivity => simp [isFinished, hactivity] at hfinished

/-- A task that has ended is not in the middle of a tick. -/
theorem free_le_now (h : OnTime work born period u) (hfinished : u.state.isFinished = true) :
    (timetable work born period u.state.starts.length).free ≤ u.now := by
  cases h.phase with
  | waiting hactivity | ticking hactivity => simp [isFinished, hactivity] at hfinished
  | stopped _ _ hfree | panicked _ _ _ hfree => exact hfree

/-- The ticks of a task that has ended are over. -/
theorem tick_over (h : OnTime work born period u) (hfinished : u.state.isFinished = true)
    (hk : k < u.state.starts.length) :
    (timetable work born period k).start + (work k).duration ≤ u.now :=
  Nat.le_trans (free_timetable_mono (Nat.succ_le_of_lt hk)) (h.free_le_now hfinished)

/-- While nobody asks it to stop, a task ends only by a tick that panics; so it starts each tick
whose time has come. -/
theorem started (h : OnTime work born period u) (hstopping : u.state.stopping = false)
    (hpanics : ∀ i < k, (work i).panics = false)
    (hnow : (timetable work born period k).start < u.now) : k < u.state.starts.length := by
  by_contra hk
  have hle : u.state.starts.length ≤ k := Nat.le_of_not_lt hk
  cases hfinished : u.state.isFinished with
  | false =>
    have hlate := h.now_le_start hfinished
    have hmono : (timetable work born period u.state.starts.length).start ≤
        (timetable work born period k).start := start_timetable_mono hle
    exact absurd (Nat.le_trans hlate hmono) (Nat.not_le_of_lt hnow)
  | true =>
    cases h.phase with
    | waiting hactivity | ticking hactivity => simp [isFinished, hactivity] at hfinished
    | stopped _ hstopped => cases hstopping.symm.trans hstopped
    | panicked _ hcount hpanicked =>
      rw [hpanics _ (by omega)] at hpanicked
      cases hpanicked

end OnTime

/-- Nobody else asks a task to stop. -/
theorem stopping_of_alone {trace : List (Nat × Deed)}
    (h : Run (machine work tickFirst) Deed.perform ⟨born, .spawn born period⟩ trace u)
    (htrace : trace = []) : u.state.stopping = false := by
  refine h.invariant (I := fun trace u => trace = [] → u.state.stopping = false) (fun _ => rfl)
    (fun _ u _ hu hdue hle htrace => ?_) (fun _ u _ hu _ _ htrace => ?_)
    (fun trace u e _ htrace => ?_) htrace
  · exact (acts_of_due hdue hle).stopping_eq.trans (hu htrace)
  · exact hu htrace
  · exact absurd htrace (List.append_ne_nil_of_right_ne_nil _ (List.cons_ne_nil _ _))

/-! ## Stopping -/

/-- When a task is next free to act, at the earliest now. -/
def free (now : Nat) (t : PeriodicTask) : Nat :=
  match t.activity with
  | .ticking ends _ => max now ends
  | _ => now

/-- A task that waits is free now. -/
theorem free_of_waiting (h : t.activity = .waiting) : t.free now = now := by
  rw [free, h]

/-- A task that ticks is free when the tick ends. -/
theorem free_of_ticking {ends : Nat} {panics : Bool} (h : t.activity = .ticking ends panics) :
    t.free now = max now ends := by
  rw [free, h]

/-- A stop that is asked for now and the next tick tie: the tick is due when the task is free. -/
def Tied (now : Nat) (t : PeriodicTask) : Prop :=
  t.ticker.due ≤ t.free now ∧ (t.activity = .waiting ∨ ∃ ends, t.activity = .ticking ends false)

/-- A tick goes before a stop that is asked for now: they tie, and the tick is drawn. -/
def Overtakes (tickFirst : Nat → Bool) (now : Nat) (t : PeriodicTask) : Prop :=
  tickFirst t.starts.length = true ∧ t.Tied now

/-- What becomes of a task that was asked to stop. -/
inductive Winds (tickFirst : Nat → Bool) (s u : Timed PeriodicTask) : Prop
  /-- its tick is not over -/
  | ticking {ends : Nat} {panics : Bool} (hactivity : s.state.activity = .ticking ends panics)
      (hstate : u.state = s.state.requestStop) (hnow : s.now ≤ u.now)
      (hfree : u.now ≤ s.state.free s.now)
  | waiting (hactivity : u.state.activity = .waiting) (hstopping : u.state.stopping = true)
      (hstarts : u.state.starts = s.state.starts) (hticker : u.state.ticker = s.state.ticker)
      (hnow : u.now = s.state.free s.now)
      (hgoes : s.state.activity = .waiting ∨ ∃ ends, s.state.activity = .ticking ends false)
  | ended (hfinished : u.state.isFinished = true) (hstarts : u.state.starts = s.state.starts)
      (htick : ¬ Overtakes tickFirst s.now s.state)
  /-- its next tick came first -/
  | overtaken (htick : Overtakes tickFirst s.now s.state)
      (hstarts : s.state.starts.length < u.state.starts.length)

namespace Winds

/-- At the stop the task winds down. -/
theorem start (s : Timed PeriodicTask) : Winds tickFirst s ⟨s.now, s.state.requestStop⟩ := by
  cases hactivity : s.state.activity with
  | waiting =>
    exact .waiting hactivity rfl rfl rfl (free_of_waiting hactivity).symm (.inl hactivity)
  | ticking ends panics =>
    refine .ticking hactivity rfl (Nat.le_refl _) ?_
    rw [free_of_ticking hactivity]
    exact Nat.le_max_left _ _
  | stopped | panicked =>
    refine .ended (by rw [isFinished, requestStop, hactivity]) rfl ?_
    rintro ⟨-, -, hgoes⟩
    simp [hactivity] at hgoes

theorem fire (h : Winds tickFirst s u) (hdue : u.state.due = some due) {t : PeriodicTask}
    (hacts : Acts work (tickFirst u.state.starts.length) u.now u.state t) :
    Winds tickFirst s ⟨u.now, t⟩ := by
  cases h with
  | @ticking ends panics hactivity hstate hnow hfree =>
    have hu : u.state.activity = .ticking ends panics := by rw [hstate]; exact hactivity
    cases hacts with
    | stops h | begins h => cases hu.symm.trans h
    | ends h hends =>
      cases hu.symm.trans h
      have hat : u.now = s.state.free s.now := by
        refine Nat.le_antisymm hfree ?_
        rw [free_of_ticking hactivity]
        exact Nat.max_le.2 ⟨hnow, hends⟩
      cases panics with
      | false =>
        rw [hstate]
        exact .waiting rfl rfl rfl rfl hat (.inr ⟨ends, hactivity⟩)
      | true =>
        rw [hstate]
        refine .ended rfl rfl ?_
        rintro ⟨-, -, hgoes⟩
        simp [hactivity] at hgoes
  | waiting hactivity hstopping hstarts hticker hnow hgoes =>
    cases hacts with
    | stops _ _ htie =>
      refine .ended rfl hstarts fun ⟨hfirst, hready, _⟩ => htie ⟨?_, ?_⟩
      · rw [hstarts]
        exact hfirst
      · rw [hticker, hnow]
        exact hready
    | begins _ hready hfirst =>
      refine .overtaken ⟨?_, ?_, hgoes⟩ ?_
      · rw [← hstarts]
        exact hfirst hstopping
      · rw [← hticker, ← hnow]
        exact hready
      · rw [← hstarts]
        exact Nat.lt_succ_self _
    | ends h => cases hactivity.symm.trans h
  | ended hfinished =>
    cases hactivity : u.state.activity with
    | waiting | ticking => simp [isFinished, hactivity] at hfinished
    | stopped | panicked => simp [PeriodicTask.due, hactivity] at hdue
  | overtaken htick hstarts =>
    exact .overtaken htick (Nat.lt_of_lt_of_le hstarts hacts.length_starts_le)

theorem pass (h : Winds tickFirst s u) (hle : u.now ≤ now)
    (hdue : ∀ due, u.state.due = some due → now ≤ due) : Winds tickFirst s ⟨now, u.state⟩ := by
  cases h with
  | @ticking ends panics hactivity hstate hnow hfree =>
    refine .ticking hactivity hstate (Nat.le_trans hnow hle) ?_
    have hends : now ≤ ends := hdue ends (by rw [hstate, PeriodicTask.due, requestStop, hactivity])
    rw [free_of_ticking hactivity]
    exact Nat.le_trans hends (Nat.le_max_right _ _)
  | waiting hactivity hstopping hstarts hticker hnow hgoes =>
    have hzero : now ≤ 0 := hdue 0 (by rw [PeriodicTask.due, hactivity, hstopping, if_pos rfl])
    refine .waiting hactivity hstopping hstarts hticker ?_ hgoes
    change now = _
    omega
  | ended hfinished hstarts htick => exact .ended hfinished hstarts htick
  | overtaken htick hstarts => exact .overtaken htick hstarts

/-- Nothing that is done to a task keeps it from winding down. -/
theorem act (h : Winds tickFirst s u) (e : Deed) :
    Winds tickFirst s ⟨u.now, e.perform u.now u.state⟩ := by
  cases h with
  | ticking hactivity hstate hnow hfree =>
    refine .ticking hactivity ?_ hnow hfree
    rw [hstate]
    rfl
  | waiting hactivity hstopping hstarts hticker hnow hgoes =>
    exact .waiting hactivity rfl hstarts hticker hnow hgoes
  | ended hfinished hstarts htick => exact .ended hfinished hstarts htick
  | overtaken htick hstarts => exact .overtaken htick hstarts

/-- From the stop on, in every run, the task winds down. -/
theorem of_run {trace : List (Nat × Deed)}
    (h : Run (machine work tickFirst) Deed.perform ⟨s.now, s.state.requestStop⟩ trace u) :
    Winds tickFirst s u :=
  h.invariant (I := fun _ u => Winds tickFirst s u) (start s)
    (fun _ _ _ hu hdue hle => hu.fire hdue (acts_of_due hdue hle))
    (fun _ _ _ hu hle hdue => hu.pass hle hdue) fun _ _ e hu => hu.act e

/-- If the next tick does not come first, no tick is started any more. -/
theorem starts_eq (h : Winds tickFirst s u) (htick : ¬ Overtakes tickFirst s.now s.state) :
    u.state.starts = s.state.starts := by
  cases h with
  | ticking _ hstate => rw [hstate]; rfl
  | waiting _ _ hstarts | ended _ hstarts => exact hstarts
  | overtaken h => exact absurd h htick

/-- If the next tick does not come first, the task has ended once it was free. -/
theorem finished (h : Winds tickFirst s u) (htick : ¬ Overtakes tickFirst s.now s.state)
    (hnow : s.state.free s.now < u.now) : u.state.isFinished = true := by
  cases h with
  | ticking _ _ _ hfree => exact absurd hfree (Nat.not_le_of_lt hnow)
  | waiting _ _ _ _ hfree => exact absurd hfree (Nat.ne_of_gt hnow)
  | ended hfinished => exact hfinished
  | overtaken h => exact absurd h htick

/-- If the next tick comes first, the task does not end without it. -/
theorem length_starts_lt (h : Winds tickFirst s u) (htick : Overtakes tickFirst s.now s.state)
    (hfinished : u.state.isFinished = true) :
    s.state.starts.length < u.state.starts.length := by
  cases h with
  | ticking hactivity hstate => simp [isFinished, hstate, requestStop, hactivity] at hfinished
  | waiting hactivity => simp [isFinished, hactivity] at hfinished
  | ended _ _ h => exact absurd htick h
  | overtaken _ hstarts => exact hstarts

end Winds

/-- A tick that goes before a stop starts the moment the task is free. -/
theorem OnTime.start_of_overtakes (h : OnTime work born period s)
    (htick : Overtakes tickFirst s.now s.state) :
    (timetable work born period s.state.starts.length).start = s.state.free s.now := by
  obtain ⟨-, hready, hgoes⟩ := htick
  rw [h.ticker] at hready
  cases h.phase with
  | waiting hactivity hfree hstart =>
    rw [free_of_waiting hactivity] at hready ⊢
    exact Nat.le_antisymm (Nat.max_le.2 ⟨hready, hfree⟩) hstart
  | ticking hactivity _ hfree =>
    rw [free_of_ticking hactivity, Nat.max_eq_right hfree] at hready ⊢
    exact Nat.max_eq_right hready
  | stopped hactivity | panicked hactivity => simp [hactivity] at hgoes

/-! ## Ties -/

/-- As long as nobody asks a task to stop, nothing is drawn. -/
theorem run_of_alone (other : Nat → Bool) {trace : List (Nat × Deed)}
    (h : Run (machine work tickFirst) Deed.perform ⟨born, .spawn born period⟩ trace u)
    (htrace : trace = []) :
    Run (machine work other) Deed.perform ⟨born, .spawn born period⟩ [] u := by
  refine (h.invariant (I := fun trace u => trace = [] →
    Run (machine work other) Deed.perform ⟨born, .spawn born period⟩ [] u ∧
      u.state.stopping = false) (fun _ => ⟨.start, rfl⟩) ?fire ?pass ?act htrace).1
  case fire =>
    intro trace u due hrun hdue hle htrace
    obtain ⟨hrun, hstopping⟩ := hrun htrace
    have hdraw : u.state.fire work (tickFirst u.state.starts.length) u.now =
        u.state.fire work (other u.state.starts.length) u.now := by
      simp only [PeriodicTask.fire, hstopping, Bool.false_and]
    refine ⟨?_, (acts_of_due hdue hle).stopping_eq.trans hstopping⟩
    exact (congrArg (Timed.mk u.now) hdraw) ▸ hrun.fire hdue hle
  case pass =>
    intro trace u now hrun hle hdue htrace
    exact ⟨(hrun htrace).1.pass hle hdue, (hrun htrace).2⟩
  case act =>
    exact fun trace u e _ htrace =>
      absurd htrace (List.append_ne_nil_of_right_ne_nil _ (List.cons_ne_nil _ _))

/-- A task that was asked to stop and whose next tick is due does what is drawn. -/
theorem run_of_waiting (work : Nat → Tick) (first : Bool) (hactivity : t.activity = .waiting)
    (hstopping : t.stopping = true) (hdue : t.ticker.due ≤ now) :
    ∃ t' : PeriodicTask, Run (machine work fun _ => first) Deed.perform ⟨now, t⟩ [] ⟨now, t'⟩ ∧
      (first = true → t'.starts = now :: t.starts) ∧
      (first = false → t'.starts = t.starts ∧ t'.isFinished = true) := by
  have hready : (machine work fun _ => first).due t = some 0 := by
    simp only [machine, PeriodicTask.due, hactivity, hstopping, if_pos]
  refine ⟨t.fire work first now, Run.start.fire hready (Nat.zero_le _), ?_, ?_⟩
  · rintro rfl
    simp [PeriodicTask.fire, hactivity, hdue, beginTick]
  · rintro rfl
    simp [PeriodicTask.fire, hactivity, hstopping, isFinished]

/-- Where a stop and a tick tie, either may come first, after the very same run. -/
theorem either_of_tied
    (hbefore : Run (machine work tickFirst) Deed.perform ⟨born, .spawn born period⟩ [] s)
    (htied : s.state.Tied s.now) (first : Bool) :
    ∃ draws u, Run (machine work draws) Deed.perform ⟨born, .spawn born period⟩ [] s ∧
      Run (machine work draws) Deed.perform ⟨s.now, s.state.requestStop⟩ [] u ∧
      u.now = s.state.free s.now ∧
      (first = true → u.state.starts = s.state.free s.now :: s.state.starts) ∧
      (first = false → u.state.starts = s.state.starts ∧ u.state.isFinished = true) := by
  have hsame := run_of_alone (fun _ => first) hbefore rfl
  obtain ⟨hdue, hactivity | ⟨ends, hactivity⟩⟩ := htied
  · rw [free_of_waiting hactivity] at hdue ⊢
    obtain ⟨t', hrun, hdrawn⟩ := run_of_waiting work first (t := s.state.requestStop) hactivity rfl
      hdue
    exact ⟨_, _, hsame, hrun, rfl, hdrawn⟩
  · rw [free_of_ticking hactivity] at hdue ⊢
    -- first the tick ends
    have hends : (machine work fun _ => first).due s.state.requestStop = some ends := by
      simp only [machine, PeriodicTask.due, requestStop, hactivity]
    have hover : s.state.requestStop.fire work first (max s.now ends) =
        s.state.requestStop.endTick false := by
      simp only [PeriodicTask.fire, requestStop, hactivity, if_pos (Nat.le_max_right _ _)]
    have hended : Run (machine work fun _ => first) Deed.perform ⟨s.now, s.state.requestStop⟩ []
        ⟨max s.now ends, s.state.requestStop.endTick false⟩ := by
      rw [← hover]
      exact Run.start.fireAt hends
    obtain ⟨t', hrun, hdrawn⟩ := run_of_waiting work first
      (t := s.state.requestStop.endTick false) rfl rfl hdue
    exact ⟨_, ⟨max s.now ends, t'⟩, hsame, hended.trans hrun, rfl, hdrawn⟩

/-! ## The discipline of a task -/

/-- Of a task that was spawned and, after any run, asked to stop, and of what comes of it in any run
from there:

* No tick starts before its period is over, counted from the spawn; each one starts at that very
  instant if the ticks before it take no time. It does start, while nobody asks the task to stop and
  no tick panics.
* No tick starts before the tick that came before it is over, and a task that has ended is over with
  all its ticks; so whoever waits for its end waits for the tick in progress.
* From the stop on no tick starts, and the task ends as soon as it is free, unless a tick is due by
  then and is drawn. That one starts, after all, after the stop was asked for.
* Where a tick is due by then, either may happen, after the very same run. -/
theorem ticks_until_stopped {before after : List (Nat × Deed)}
    (hbefore : Run (machine work tickFirst) Deed.perform ⟨born, .spawn born period⟩ before s)
    (hafter : Run (machine work tickFirst) Deed.perform ⟨s.now, s.state.requestStop⟩ after u) :
    (∀ k start, u.state.start? k = some start →
      born + (k + 1) * max period Ticker.leastPeriod ≤ start ∧
      ((∀ i < k, (work i).duration = 0) →
        start = born + (k + 1) * max period Ticker.leastPeriod) ∧
      (∀ next, u.state.start? (k + 1) = some next → start + (work k).duration ≤ next) ∧
      (u.state.isFinished = true → start + (work k).duration ≤ u.now)) ∧
    (before = [] → ∀ k, (∀ i < k, work i = ⟨0, false⟩) →
      born + (k + 1) * max period Ticker.leastPeriod < s.now →
      s.state.start? k = some (born + (k + 1) * max period Ticker.leastPeriod)) ∧
    (¬ Overtakes tickFirst s.now s.state →
      u.state.starts = s.state.starts ∧
      (s.state.free s.now < u.now → u.state.isFinished = true)) ∧
    (Overtakes tickFirst s.now s.state → u.state.isFinished = true →
      u.state.start? s.state.starts.length = some (s.state.free s.now)) ∧
    (before = [] → s.state.Tied s.now → ∀ first : Bool, ∃ draws v,
      Run (machine work draws) Deed.perform ⟨born, .spawn born period⟩ [] s ∧
      Run (machine work draws) Deed.perform ⟨s.now, s.state.requestStop⟩ [] v ∧
      v.now = s.state.free s.now ∧
      (first = true → v.state.starts = s.state.free s.now :: s.state.starts) ∧
      (first = false → v.state.starts = s.state.starts ∧ v.state.isFinished = true)) := by
  have hs := OnTime.of_run hbefore
  have hu := OnTime.of_run ((hbefore.act .stop).trans hafter)
  have hwinds := Winds.of_run hafter
  refine ⟨?ticks, ?starts, ?stop, ?late, ?tie⟩
  case ticks =>
    intro k start hstart
    obtain ⟨hk, rfl⟩ := hu.start?_eq_some_iff.1 hstart
    refine ⟨Nat.le_trans le_due_timetable (Nat.le_max_left _ _), start_timetable_of_idle,
      fun next hnext => ?_, fun hfinished => hu.tick_over hfinished hk⟩
    obtain ⟨-, rfl⟩ := hu.start?_eq_some_iff.1 hnext
    exact Nat.le_max_right _ _
  case starts =>
    intro halone k hidle hnow
    have hstart : (timetable work born period k).start =
        born + (k + 1) * max period Ticker.leastPeriod :=
      start_timetable_of_idle fun i hi => congrArg Tick.duration (hidle i hi)
    refine hs.start?_eq_some_iff.2 ⟨?_, hstart⟩
    exact hs.started (stopping_of_alone hbefore halone)
      (fun i hi => congrArg Tick.panics (hidle i hi)) (hstart ▸ hnow)
  case stop => exact fun htick => ⟨hwinds.starts_eq htick, hwinds.finished htick⟩
  case late =>
    intro htick hfinished
    exact hu.start?_eq_some_iff.2
      ⟨hwinds.length_starts_lt htick hfinished, hs.start_of_overtakes htick⟩
  case tie =>
    rintro rfl htied first
    exact either_of_tied hbefore htied first

/-- A first tick that takes longer than two periods of ten. -/
def longTick (k : Nat) : Tick := ⟨if k = 0 then 25 else 0, false⟩

/-- The task in the middle of that tick. -/
def midTick : Timed PeriodicTask := ⟨15, (spawn 0 10).beginTick longTick 10⟩

/-- Up to there no draw counts. -/
theorem midTick_run :
    Run (machine longTick tickFirst) Deed.perform ⟨0, .spawn 0 10⟩ [] midTick := by
  have hbegun : Run (machine longTick tickFirst) Deed.perform ⟨0, .spawn 0 10⟩ []
      ⟨10, (spawn 0 10).beginTick longTick 10⟩ := Run.start.fireAt rfl
  refine hbegun.pass (by decide) fun due hdue => ?_
  obtain rfl : 35 = due := Option.some.inj hdue
  decide

/-- If the stop is drawn, the task ends with that tick. -/
theorem midTick_stops : ∃ u,
    Run (machine longTick fun _ => false) Deed.perform ⟨0, .spawn 0 10⟩ [] midTick ∧
    Run (machine longTick fun _ => false) Deed.perform ⟨15, midTick.state.requestStop⟩ [] u ∧
    u.now = 35 ∧ u.state.isFinished = true ∧ u.state.starts = midTick.state.starts := by
  have hafter : Run (machine longTick fun _ => false) Deed.perform
      ⟨midTick.now, midTick.state.requestStop⟩ [] _ := Run.await isFinished 3 _ _
  obtain ⟨-, -, hstop, -⟩ := ticks_until_stopped midTick_run hafter
  exact ⟨_, midTick_run, hafter, rfl, rfl, (hstop fun h => absurd h.1 (by decide)).1⟩

/-- A stop that is asked for at 15 ties with the second tick: the first one is over at 35, and the
second was due at 20. If the tick is drawn, it starts at 35, long after the stop was asked for; if
the stop is drawn, no tick starts any more. -/
theorem midTick_either_way :
    midTick.state.starts = [10] ∧ midTick.state.Tied midTick.now ∧
    (∃ u, Run (machine longTick fun _ => true) Deed.perform ⟨0, .spawn 0 10⟩ [] midTick ∧
      Run (machine longTick fun _ => true) Deed.perform ⟨15, midTick.state.requestStop⟩ [] u ∧
      u.now = 35 ∧ u.state.isFinished = true ∧ u.state.starts = [35, 10]) ∧
    ∃ u, Run (machine longTick fun _ => false) Deed.perform ⟨0, .spawn 0 10⟩ [] midTick ∧
      Run (machine longTick fun _ => false) Deed.perform ⟨15, midTick.state.requestStop⟩ [] u ∧
      u.now = 35 ∧ u.state.isFinished = true ∧ u.state.starts = [10] :=
  ⟨rfl, ⟨by decide, .inr ⟨35, rfl⟩⟩,
    ⟨_, midTick_run, Run.await isFinished 4 _ _, rfl, rfl, rfl⟩,
    ⟨_, midTick_run, Run.await isFinished 4 _ _, rfl, rfl, rfl⟩⟩

end PeriodicTask

end ScatterSearch
