import ScatterSearch.Proofs.Lists
import ScatterSearch.Proofs.Time.Run

/-!
# Flows

A flow is a run in which nobody interferes. A machine has one flow from each state: of two of
them one goes on where the other ends (`Flow.comparable`), for a machine that is due at an instant
acts before time passes it, and does nothing else. So what lasts and has come about in one flow has
come about in another one that is settled by then (`Flow.meets`).

A run in which somebody interferes is made of the run before that and the one after it
(`Run.split`).
-/

namespace ScatterSearch

variable {σ ε : Type} {m : Machine σ} {perform : ε → Nat → σ → σ}

/-- Nothing is due any more. -/
def Timed.Settled (m : Machine σ) (u : Timed σ) : Prop :=
  ∀ due, m.due u.state = some due → u.now < due

/-- The runs of a machine that is left alone. -/
def Flow (m : Machine σ) (t u : Timed σ) : Prop :=
  Run m (fun (e : Empty) _ _ => e.elim) t [] u

namespace Flow

variable {t u u' v w : Timed σ} {now due : Nat}

theorem start (t : Timed σ) : Flow m t t := Run.start

theorem fire (h : Flow m t u) (hdue : m.due u.state = some due) (hle : due ≤ u.now) :
    Flow m t ⟨u.now, m.fire u.now u.state⟩ := Run.fire h hdue hle

theorem pass (h : Flow m t u) (hle : u.now ≤ now)
    (hdue : ∀ due, m.due u.state = some due → now ≤ due) : Flow m t ⟨now, u.state⟩ :=
  Run.pass h hle hdue

/-- What holds at the start and is kept by every step holds at the end. -/
theorem invariant {I : Timed σ → Prop} (h : Flow m t u) (start : I t)
    (fire : ∀ (u : Timed σ) due, I u → m.due u.state = some due → due ≤ u.now →
      I ⟨u.now, m.fire u.now u.state⟩)
    (pass : ∀ (u : Timed σ) now, I u → u.now ≤ now →
      (∀ due, m.due u.state = some due → now ≤ due) → I ⟨now, u.state⟩) : I u :=
  Run.invariant (I := fun _ u => I u) h start (fun _ => fire) (fun _ => pass) fun _ _ e => e.elim

theorem now_le (h : Flow m t u) : t.now ≤ u.now := Run.now_le h

/-- A flow that ends where it started, or goes on with the action that is due. -/
theorem after_fire (h : Flow m u w) (hdue : m.due u.state = some due) (hle : due ≤ u.now) :
    w = u ∨ Flow m ⟨u.now, m.fire u.now u.state⟩ w := by
  refine h.invariant (I := fun w => w = u ∨ Flow m ⟨u.now, m.fire u.now u.state⟩ w) (.inl rfl)
    (fun w _ hw hdue' hle' => ?_) fun w now hw hle' hdue' => ?_
  · rcases hw with rfl | hw
    · exact .inr (.start _)
    · exact .inr (hw.fire hdue' hle')
  · rcases hw with rfl | hw
    · have hnow : now = w.now := Nat.le_antisymm (Nat.le_trans (hdue' due hdue) hle) hle'
      exact .inl (by rw [hnow])
    · exact .inr (hw.pass hle' hdue')

/-- A flow that does not get to an instant up to which nothing is due, or goes on from there. -/
theorem after_pass (h : Flow m u w) (hle : u.now ≤ now)
    (hdue : ∀ due, m.due u.state = some due → now ≤ due) :
    (w.state = u.state ∧ w.now ≤ now) ∨ Flow m ⟨now, u.state⟩ w := by
  refine h.invariant
    (I := fun w => (w.state = u.state ∧ w.now ≤ now) ∨ Flow m ⟨now, u.state⟩ w)
    (.inl ⟨rfl, hle⟩) (fun w d hw hdue' hle' => ?_) fun w later hw hle' hdue' => ?_
  · rcases hw with ⟨hstate, hnow⟩ | hw
    · rw [hstate] at hdue'
      have heq : w = ⟨now, u.state⟩ := by
        obtain ⟨wnow, wstate⟩ := w
        obtain rfl : wstate = u.state := hstate
        exact congrArg (Timed.mk · u.state)
          (Nat.le_antisymm hnow (Nat.le_trans (hdue d hdue') hle'))
      rw [heq] at hle' ⊢
      exact .inr ((start _).fire hdue' hle')
    · exact .inr (hw.fire hdue' hle')
  · rcases hw with ⟨hstate, hnow⟩ | hw
    · rcases Nat.le_total later now with hlater | hlater
      · exact .inl ⟨hstate, hlater⟩
      · rw [hstate] at hdue' ⊢
        exact .inr ((start _).pass hlater hdue')
    · exact .inr (hw.pass hle' hdue')

/-- Of two flows from one state one goes on where the other one ends. By induction on the first;
the second goes on from it with the same step, or ends before that. -/
theorem comparable (h : Flow m t u) (h' : Flow m t u') : Flow m u u' ∨ Flow m u' u := by
  refine h.invariant (I := fun u => Flow m u u' ∨ Flow m u' u) (.inl h')
    (fun u due hu hdue hle => ?_) fun u now hu hle hdue => ?_
  · rcases hu with hu | hu
    · rcases hu.after_fire hdue hle with rfl | hafter
      · exact .inr ((start _).fire hdue hle)
      · exact .inl hafter
    · exact .inr (hu.fire hdue hle)
  · rcases hu with hu | hu
    · rcases hu.after_pass hle hdue with ⟨hstate, hnow⟩ | hafter
      · have hflow : Flow m u' ⟨now, u'.state⟩ :=
          (start _).pass hnow fun due hdue' => hdue due (hstate ▸ hdue')
        rw [hstate] at hflow
        exact .inr hflow
      · exact .inl hafter
    · exact .inr (hu.pass hle hdue)

/-- At an instant at which nothing is due any more nothing happens. -/
theorem state_eq_of_settled (h : Flow m u w) (hsettled : u.Settled m) (hnow : w.now = u.now) :
    w.state = u.state := by
  have hstays : u.now ≤ w.now ∧ (w.now = u.now → w.state = u.state) := by
    refine h.invariant (I := fun w => u.now ≤ w.now ∧ (w.now = u.now → w.state = u.state))
      ⟨Nat.le_refl _, fun _ => rfl⟩ (fun w due hw hdue hle => ⟨hw.1, fun hnow => ?_⟩)
      fun w now hw hle hdue => ⟨Nat.le_trans hw.1 hle, fun hnow => ?_⟩
    · rw [hw.2 hnow] at hdue
      have hlt := hsettled due hdue
      change w.now = u.now at hnow
      omega
    · refine hw.2 (Nat.le_antisymm ?_ hw.1)
      change now = u.now at hnow
      exact hnow ▸ hle
  exact hstays.2 hnow

/-- What every action keeps is kept. -/
theorem lasts {P : σ → Prop} (hlasts : ∀ now s, P s → P (m.fire now s)) (h : Flow m t u)
    (hP : P t.state) : P u.state :=
  h.invariant (I := fun u => P u.state) hP (fun u _ hu _ _ => hlasts u.now _ hu)
    fun _ _ hu _ _ => hu

/-- What lasts and has come about in one flow has come about in every other that is settled by
then. -/
theorem meets {P : σ → Prop} (hlasts : ∀ now s, P s → P (m.fire now s)) (h : Flow m t u)
    (h' : Flow m t u') (hle : u.now ≤ u'.now) (hsettled : u'.Settled m) (hP : P u.state) :
    P u'.state := by
  rcases comparable h h' with hafter | hbefore
  · exact hafter.lasts hlasts hP
  · rw [← hbefore.state_eq_of_settled hsettled (Nat.le_antisymm hle hbefore.now_le)]
    exact hP

end Flow

/-- A run in which somebody interferes, before that and after it. -/
theorem Run.split {t u : Timed σ} {trace before after : List (Nat × ε)} {now : Nat} {e : ε}
    (h : Run m perform t trace u) (htrace : trace = before ++ (now, e) :: after) :
    ∃ v, Run m perform t before v ∧ v.now = now ∧
      Run m perform ⟨v.now, perform e v.now v.state⟩ after u := by
  induction h generalizing after with
  | start => simp at htrace
  | fire _ hdue hle ih =>
    obtain ⟨v, hbefore, hnow, hafter⟩ := ih htrace
    exact ⟨v, hbefore, hnow, hafter.fire hdue hle⟩
  | pass _ hle hdue ih =>
    obtain ⟨v, hbefore, hnow, hafter⟩ := ih htrace
    exact ⟨v, hbefore, hnow, hafter.pass hle hdue⟩
  | @act trace u e' h ih =>
    rcases Lists.concat_eq_split htrace with ⟨rfl, heq, rfl⟩ | ⟨rest, rfl, htrace'⟩
    · obtain ⟨rfl, rfl⟩ := Prod.mk.inj heq
      exact ⟨u, h, rfl, .start⟩
    · obtain ⟨v, hbefore, hnow, hafter⟩ := ih htrace'
      exact ⟨v, hbefore, hnow, hafter.act e'⟩

end ScatterSearch
