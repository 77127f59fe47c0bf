import ScatterSearch.Proofs.Execution.OneRun

/-!
# One thing at a time

A manager acts on all that it has at once: `ExecutionManager.fire` starts every handler, answers
every request, ends every handler. On a node these are tasks of their own, which take their turns in
any order, and so do those who ask and sweep, and those who give up. A `Turn` is one such thing, and
`after` is what any number of them come to, at any instants.

What holds after all lists of turns holds in every run of a manager, as nothing that a manager does
by itself is more than some turns (`exists_turns_of_run`).
-/

namespace ScatterSearch

namespace ExecutionManager

/-- What happens at a node, one thing at a time. -/
inductive Turn where
  /-- somebody has a command, comes back with an id, or sweeps -/
  | deed (d : Deed)
  /-- whoever had a request is gone -/
  | abandon (ticket : Nat)
  /-- evictions begin -/
  | start
  /-- a handler starts -/
  | begin (place : Nat)
  /-- a handler ends, if it has run its time -/
  | finish (place : Nat)
  /-- a request gets its reply, if it is time for one -/
  | answer (ticket : Nat)
  /-- the evictor sweeps, if it is time to -/
  | tick

/-- A manager one of whose executions has changed. -/
def change (m : ExecutionManager) (place : Nat) (f : Execution → Execution) : ExecutionManager :=
  { m with executions := m.executions.modify place f }

/-- What becomes of a manager in a turn. -/
def Turn.perform (view : NodeView) (now : Nat) : Turn → ExecutionManager → ExecutionManager
  | .deed d, m => d.perform now m
  | .abandon ticket, m => m.abandon ticket
  | .start, m => m.start now
  | .begin place, m => m.change place (Execution.begin (m.run view) now)
  | .finish place, m => m.change place (Execution.finish now place)
  | .answer ticket, m => answerOne now m ticket
  | .tick, m => m.fireEvictor now

/-- A manager after some turns, each at an instant. -/
def after (view : Nat → NodeView) (m : ExecutionManager) (turns : List (Nat × Turn)) :
    ExecutionManager :=
  turns.foldl (fun m turn => turn.2.perform (view turn.1) turn.1 m) m

/-- What others did in some turns. -/
def deeds (turns : List (Nat × Turn)) : List (Nat × Deed) :=
  turns.filterMap fun
    | (t, .deed d) => some (t, d)
    | _ => none

variable {view : Nat → NodeView} {m : ExecutionManager} {now : Nat} {turns more : List (Nat × Turn)}

@[simp] theorem after_nil : m.after view [] = m := rfl

theorem after_append : m.after view (turns ++ more) = (m.after view turns).after view more :=
  List.foldl_append

theorem after_concat {turn : Turn} : m.after view (turns ++ [(now, turn)]) =
    turn.perform (view now) now (m.after view turns) := by
  rw [after_append]
  rfl

theorem deeds_append : deeds (turns ++ more) = deeds turns ++ deeds more := List.filterMap_append

/-! ## What is done to all is done to one after the other -/

/-- To change every element is to change them one after the other. -/
theorem foldl_modify_range {α : Type} (f : Nat → α → α) (xs : List α) :
    (List.range xs.length).foldl (fun xs i => xs.modify i (f i)) xs = xs.mapIdx f := by
  have upTo : ∀ k, (List.range k).foldl (fun xs i => xs.modify i (f i)) xs =
      xs.mapIdx fun i x => if i < k then f i x else x := by
    intro k
    induction k with
    | zero => exact (mapIdx_eq_self fun i x => if_neg (Nat.not_lt_zero i)).symm
    | succ k ih =>
      rw [List.range_succ, List.foldl_append, ih, List.foldl_cons, List.foldl_nil,
        modify_eq_mapIdx, List.mapIdx_mapIdx]
      refine List.mapIdx_eq_mapIdx_iff.2 fun i _ => ?_
      rcases Nat.lt_trichotomy i k with hlt | rfl | hgt
      · simp [hlt, Nat.ne_of_lt hlt, Nat.lt_succ_of_lt hlt]
      · simp
      · simp [Nat.ne_of_gt hgt, Nat.not_lt_of_gt hgt, Nat.not_lt.2 hgt]
  rw [upTo]
  exact List.mapIdx_eq_mapIdx_iff.2 fun i hi => if_pos hi

/-- How handlers run does not depend on how far executions are. -/
theorem run_change {place : Nat} {f : Execution → Execution} (hf : ∀ e, (f e).listed = e.listed)
    (view : NodeView) : (m.change place f).run view = m.run view := by
  have hlisted : (m.executions.modify place f).map (·.listed) = m.executions.map (·.listed) := by
    rw [modify_eq_mapIdx]
    refine Lists.map_mapIdx_eq (fun i e => ?_) _
    split
    · exact hf e
    · rfl
  have hcount : ∀ es : List Execution,
      (es.filter (·.listed)).length = ((es.map (·.listed)).filter id).length := by
    intro es
    rw [List.filter_map, List.length_map]
    rfl
  have hsame : (m.change place f).inFlight = m.inFlight := by
    rw [inFlight, inFlight, hcount, hcount, change, hlisted]
  funext request
  rw [run, run, hsame]
  rfl

/-- To change executions one after the other is to change nothing but executions. -/
theorem foldl_change (f : Nat → Execution → Execution) (m : ExecutionManager) :
    (List.range m.executions.length).foldl (fun m place => m.change place (f place)) m =
      { m with executions := m.executions.mapIdx f } := by
  have go : ∀ (places : List Nat) (m : ExecutionManager),
      places.foldl (fun m place => m.change place (f place)) m =
        { m with executions := places.foldl (fun es i => es.modify i (f i)) m.executions } := by
    intro places
    induction places with
    | nil => exact fun m => rfl
    | cons place places ih => exact fun m => ih _
  rw [go, foldl_modify_range]

/-- One manager comes to another in turns in which nobody else does anything. -/
def Turned (view : Nat → NodeView) (m m' : ExecutionManager) : Prop :=
  ∃ turns, deeds turns = [] ∧ m' = m.after view turns

namespace Turned

theorem trans {m' m'' : ExecutionManager} (h : Turned view m m') (h' : Turned view m' m'') :
    Turned view m m'' := by
  obtain ⟨turns, hdeeds, rfl⟩ := h
  obtain ⟨more, hmore, rfl⟩ := h'
  exact ⟨turns ++ more, by rw [deeds_append, hdeeds, hmore, List.append_nil], after_append.symm⟩

/-- The turns of several of the same kind. -/
theorem each {f : Nat → Turn} (hf : ∀ n d, f n ≠ .deed d) (view : Nat → NodeView)
    (m : ExecutionManager) (now : Nat) (ns : List Nat) :
    Turned view m (ns.foldl (fun m n => (f n).perform (view now) now m) m) := by
  refine ⟨ns.map fun n => (now, f n), List.filterMap_eq_nil_iff.2 fun turn hturn => ?_, ?_⟩
  · obtain ⟨n, -, rfl⟩ := List.mem_map.1 hturn
    cases hn : f n with
    | deed d => exact absurd hn (hf n d)
    | _ => rfl
  · rw [after, List.foldl_map]

theorem startAccepted (view : Nat → NodeView) (m : ExecutionManager) (now : Nat) :
    Turned view m (m.startAccepted (view now) now) := by
  -- that a handler starts does not change how others run
  have go : ∀ (places : List Nat) (m' : ExecutionManager), m'.run (view now) = m.run (view now) →
      places.foldl (fun m place => (Turn.begin place).perform (view now) now m) m' =
        places.foldl
          (fun m' place => m'.change place (Execution.begin (m.run (view now)) now)) m' := by
    intro places
    induction places with
    | nil => exact fun _ _ => rfl
    | cons place places ih =>
      intro m' hrun
      simp only [List.foldl_cons, Turn.perform, hrun]
      exact ih _ ((run_change (fun _ => Execution.begin_listed) _).trans hrun)
  have heach := each (f := .begin) (by simp) view m now (List.range m.executions.length)
  rw [go _ m rfl, foldl_change fun _ => Execution.begin (m.run (view now)) now,
    ← map_eq_mapIdx] at heach
  exact heach

theorem endRunning (view : Nat → NodeView) (m : ExecutionManager) (now : Nat) :
    Turned view m (m.endRunning now) := by
  have heach := each (f := .finish) (by simp) view m now (List.range m.executions.length)
  rw [ExecutionManager.endRunning, ← foldl_change]
  exact heach

theorem answer (view : Nat → NodeView) (m : ExecutionManager) (now : Nat) :
    Turned view m (m.answer now) :=
  each (f := .answer) (by simp) view m now (List.range m.requests.length)

theorem fireEvictor (view : Nat → NodeView) (m : ExecutionManager) (now : Nat) :
    Turned view m (m.fireEvictor now) := ⟨[(now, .tick)], rfl, rfl⟩

/-- All that a manager does by itself at an instant is done in turns. -/
theorem fire (view : Nat → NodeView) (m : ExecutionManager) (now : Nat) :
    Turned view m (m.fire (view now) now) :=
  ((((startAccepted view m now).trans (answer view _ now)).trans (endRunning view _ now)).trans
    (answer view _ now)).trans (fireEvictor view _ now)

end Turned

/-- Every run of a manager, in which others take any turns at any instants, comes to what some turns
come to. All that others did in them they did in the run. -/
theorem exists_turns_of_run {t u : Timed ExecutionManager} {trace : List (Nat × Turn)}
    (h : Run (machine view) (fun turn now => Turn.perform (view now) now turn) t trace u) :
    ∃ turns, deeds turns = deeds trace ∧ u.state = t.state.after view turns := by
  induction h with
  | start => exact ⟨[], rfl, rfl⟩
  | @fire trace u due _ _ _ ih =>
    obtain ⟨turns, hdeeds, hstate⟩ := ih
    obtain ⟨more, hnone, hfire⟩ := Turned.fire view u.state u.now
    refine ⟨turns ++ more, by rw [deeds_append, hnone, List.append_nil, hdeeds], ?_⟩
    rw [after_append, ← hstate]
    exact hfire
  | pass _ _ _ ih => exact ih
  | @act trace u turn _ ih =>
    obtain ⟨turns, hdeeds, hstate⟩ := ih
    refine ⟨turns ++ [(u.now, turn)], by rw [deeds_append, deeds_append, hdeeds], ?_⟩
    rw [after_concat, ← hstate]

end ExecutionManager

end ScatterSearch
