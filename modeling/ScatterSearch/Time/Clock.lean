/-!
# Letting time pass

The parts of a node that act by themselves are machines: a state, the instant at which it acts next
(`due`), and what it does then (`fire`). Time is counted in milliseconds. `Clock.advance` lets
everything happen that is due up to an instant, in order of time; between two such instants nothing
changes, so nothing else has to be looked at.
-/

namespace ScatterSearch

/-- A machine that acts by itself. -/
structure Machine (σ : Type) where
  /-- the instant of the next action, if there is one -/
  due : σ → Option Nat
  /-- acts at the given instant -/
  fire : Nat → σ → σ

namespace Clock

variable {σ : Type}

/-- Lets everything due up to `target` happen, no more than `fuel` actions; an action that is
overdue happens at once. -/
def advance (m : Machine σ) : Nat → Nat → Nat → σ → σ
  | 0, _, _, s => s
  | fuel + 1, now, target, s =>
    match m.due s with
    | none => s
    | some t => if t ≤ target then advance m fuel (max now t) target (m.fire (max now t) s) else s

/-- Actions allowed for each millisecond that passes. It only has to be large enough. -/
def actionsPerMilli : Nat := 1000

/-- Lets `millis` milliseconds pass from `now`. -/
def pass (m : Machine σ) (now millis : Nat) (s : σ) : σ :=
  advance m ((millis + 1) * actionsPerMilli) now (now + millis) s

/-- Lets everything happen that is due by now. -/
def settle (m : Machine σ) (now : Nat) (s : σ) : σ := pass m now 0 s

/-- Lets things happen until `done`, no more than `fuel` of them, and says when that is. -/
def await (m : Machine σ) (done : σ → Bool) : Nat → Nat → σ → Nat × σ
  | 0, now, s => (now, s)
  | fuel + 1, now, s =>
    if done s then (now, s)
    else match m.due s with
      | none => (now, s)
      | some t => await m done fuel (max now t) (m.fire (max now t) s)

/-- Actions allowed while somebody waits. It only has to be large enough. -/
def patience : Nat := 1000000

end Clock

/-- A machine's state at an instant. -/
structure Timed (σ : Type) where
  now : Nat
  state : σ

namespace Timed

variable {σ : Type}

/-- Lets `millis` milliseconds pass. -/
def pass (m : Machine σ) (millis : Nat) (t : Timed σ) : Timed σ :=
  ⟨t.now + millis, Clock.pass m t.now millis t.state⟩

/-- Lets everything happen that is due by now. -/
def settle (m : Machine σ) (t : Timed σ) : Timed σ := t.pass m 0

/-- Lets things happen until `done`. -/
def await (m : Machine σ) (done : σ → Bool) (t : Timed σ) : Timed σ :=
  let (now, state) := Clock.await m done Clock.patience t.now t.state
  ⟨now, state⟩

/-- Changes the state. -/
def set (t : Timed σ) (state : σ) : Timed σ := { t with state }

end Timed

end ScatterSearch
