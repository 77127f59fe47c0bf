import ScatterSearch.Time.Clock

/-!
# Runs of machines

What a machine can go through while others may act on it at any instant. A run is made of three
kinds of steps, in any order: the machine acts when it is due, time passes, and somebody else
interferes. Time never passes an instant at which the machine is due, and nothing else bounds a run;
so what holds of every run holds for every interleaving.

The clock of the library is one way to go through such runs (`Run.advance`, `Run.await`).
-/

namespace ScatterSearch

variable {σ ε : Type} {m : Machine σ} {perform : ε → Nat → σ → σ}

/-- The runs of a machine from a state at an instant. `perform e now s` is what becomes of the state
`s` when somebody does `e` at the instant `now`; the trace lists all that was done, with the
instants. -/
inductive Run (m : Machine σ) (perform : ε → Nat → σ → σ) (t : Timed σ) :
    List (Nat × ε) → Timed σ → Prop where
  | start : Run m perform t [] t
  /-- the machine acts -/
  | fire {trace : List (Nat × ε)} {u : Timed σ} {due : Nat} :
      Run m perform t trace u → m.due u.state = some due → due ≤ u.now →
      Run m perform t trace ⟨u.now, m.fire u.now u.state⟩
  /-- time passes -/
  | pass {trace : List (Nat × ε)} {u : Timed σ} {now : Nat} :
      Run m perform t trace u → u.now ≤ now → (∀ due, m.due u.state = some due → now ≤ due) →
      Run m perform t trace ⟨now, u.state⟩
  /-- somebody interferes -/
  | act {trace : List (Nat × ε)} {u : Timed σ} (e : ε) :
      Run m perform t trace u →
      Run m perform t (trace ++ [(u.now, e)]) ⟨u.now, perform e u.now u.state⟩

namespace Run

variable {t u v : Timed σ} {trace trace' : List (Nat × ε)}

theorem trans (h : Run m perform t trace u) (h' : Run m perform u trace' v) :
    Run m perform t (trace ++ trace') v := by
  induction h' with
  | start => rw [List.append_nil]; exact h
  | fire _ hdue hle ih => exact ih.fire hdue hle
  | pass _ hle hdue ih => exact ih.pass hle hdue
  | act e _ ih => rw [← List.append_assoc]; exact ih.act e

/-- What holds at the start and is kept by every step holds at the end. The trace of the steps
before is at hand. -/
theorem invariant {I : List (Nat × ε) → Timed σ → Prop} (h : Run m perform t trace u)
    (start : I [] t)
    (fire : ∀ trace u due, I trace u → m.due u.state = some due → due ≤ u.now →
      I trace ⟨u.now, m.fire u.now u.state⟩)
    (pass : ∀ trace (u : Timed σ) now, I trace u → u.now ≤ now →
      (∀ due, m.due u.state = some due → now ≤ due) → I trace ⟨now, u.state⟩)
    (act : ∀ trace (u : Timed σ) e, I trace u →
      I (trace ++ [(u.now, e)]) ⟨u.now, perform e u.now u.state⟩) : I trace u := by
  induction h with
  | start => exact start
  | fire _ hdue hle ih => exact fire _ _ _ ih hdue hle
  | pass _ hle hdue ih => exact pass _ _ _ ih hle hdue
  | act e _ ih => exact act _ _ e ih

theorem now_le (h : Run m perform t trace u) : t.now ≤ u.now :=
  h.invariant (I := fun _ u => t.now ≤ u.now) (Nat.le_refl _) (fun _ _ _ h _ _ => h)
    (fun _ _ _ h hle _ => Nat.le_trans h hle) (fun _ _ _ h => h)

/-- An action that is due at some instant happens then, or at once if it is overdue. -/
theorem fireAt {due : Nat} (h : Run m perform t trace u) (hdue : m.due u.state = some due) :
    Run m perform t trace ⟨max u.now due, m.fire (max u.now due) u.state⟩ := by
  have hpass : Run m perform t trace ⟨max u.now due, u.state⟩ := by
    rcases Nat.le_total u.now due with hle | hle
    · rw [Nat.max_eq_right hle]
      refine h.pass hle fun d hd => ?_
      rw [hdue] at hd
      exact Nat.le_of_eq (Option.some.inj hd)
    · rw [Nat.max_eq_left hle]
      exact h
  exact hpass.fire hdue (Nat.le_max_right _ _)

/-- Waiting on the library's clock is a run in which nobody interferes. -/
theorem await (done : σ → Bool) : ∀ (fuel now : Nat) (s : σ),
    Run m perform ⟨now, s⟩ []
      ⟨(Clock.await m done fuel now s).1, (Clock.await m done fuel now s).2⟩
  | 0, now, s => .start
  | fuel + 1, now, s => by
    rw [Clock.await]
    split
    · exact .start
    · cases hdue : m.due s with
      | none => exact .start
      | some due => exact (Run.start.fireAt hdue).trans (await done fuel _ _)

/-- Advancing the library's clock is a run in which nobody interferes. -/
theorem advance : ∀ (fuel now target : Nat) (s : σ),
    ∃ last, Run m perform ⟨now, s⟩ [] ⟨last, Clock.advance m fuel now target s⟩
  | 0, now, _, _ => ⟨now, .start⟩
  | fuel + 1, now, target, s => by
    rw [Clock.advance]
    cases hdue : m.due s with
    | none => exact ⟨now, .start⟩
    | some due =>
      simp only
      split
      · obtain ⟨last, hrun⟩ := advance fuel (max now due) target (m.fire (max now due) s)
        exact ⟨last, (Run.start.fireAt hdue).trans hrun⟩
      · exact ⟨now, .start⟩

/-- To let everything happen that is due by now is a run in which no time passes. -/
theorem settle (now : Nat) (s : σ) :
    Run m perform ⟨now, s⟩ [] ⟨now, Clock.settle m now s⟩ := by
  suffices hadvance : ∀ (fuel : Nat) (s : σ),
      Run m perform ⟨now, s⟩ [] ⟨now, Clock.advance m fuel now now s⟩ from hadvance _ s
  intro fuel
  induction fuel with
  | zero => exact fun _ => .start
  | succ fuel ih =>
    intro s
    rw [Clock.advance]
    cases hdue : m.due s with
    | none => exact .start
    | some due =>
      simp only
      split
      · rename_i hle
        rw [Nat.max_eq_left hle]
        exact (Run.start.fire hdue hle).trans (ih _)
      · exact .start

end Run

namespace Clock

/-- What every action keeps is kept while the clock advances. -/
theorem keeps_advance {P : σ → Prop} (fire : ∀ now s, P s → P (m.fire now s)) :
    ∀ (fuel now target : Nat) (s : σ), P s → P (advance m fuel now target s)
  | 0, _, _, _, h => h
  | fuel + 1, now, target, s, h => by
    rw [advance]
    split
    · exact h
    · split
      · exact keeps_advance fire fuel _ target _ (fire _ s h)
      · exact h

theorem keeps_settle {P : σ → Prop} (fire : ∀ now s, P s → P (m.fire now s)) {now : Nat} {s : σ}
    (h : P s) : P (settle m now s) :=
  keeps_advance fire _ now _ s h

end Clock

end ScatterSearch
