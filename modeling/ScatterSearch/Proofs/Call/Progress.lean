import ScatterSearch.Proofs.Call.Answers

/-!
# What becomes of calls

Calls keep their places, their terms and their requests, and a call that has ended stays as it ended
(`Workers.GoesOn`); so what those who wait for it were told stays true. Whatever happens to a call
leaves the others alone (`Outbound.getElem?_apply_ne`).

A call that was told to stop ends at the next turn, and as aborted (`Outbound.fire_stops`).
-/

namespace ScatterSearch

variable {now : Nat}

namespace Call

/-- What can become of a call. -/
structure GoesOn (c c' : Call) : Prop where
  terms_eq : c'.terms = c.terms
  request_eq : c'.request = c.request
  ended : ∀ how, c.end? = some how → c'.end? = some how

variable {c c' c'' : Call}

theorem GoesOn.refl (c : Call) : c.GoesOn c := ⟨rfl, rfl, fun _ h => h⟩

theorem GoesOn.trans (h : c.GoesOn c') (h' : c'.GoesOn c'') : c.GoesOn c'' :=
  ⟨h'.terms_eq.trans h.terms_eq, h'.request_eq.trans h.request_eq,
    fun how hend => h'.ended how (h.ended how hend)⟩

/-- A call that ended is at its end. -/
theorem stage_of_end? {how : CallEnd} (h : c.end? = some how) : c.stage = .ended how := by
  rw [end?] at h
  split at h
  · rename_i hstage
    rw [hstage, Option.some.inj h]
  · cases h

/-- Nothing happens to a call that has ended. -/
theorem step_of_ended {how : CallEnd} (h : c.stage = .ended how) (e : CallEvent) :
    c.step now e = (c, []) := by
  cases e <;> simp [step, h]

/-- Whatever happens to a call, it goes on. -/
theorem goesOn_step (e : CallEvent) : c.GoesOn (c.step now e).1 := by
  obtain ⟨hterms, hrequest, -, -⟩ := c.follows_step now e
  refine ⟨hterms, hrequest, fun how hend => ?_⟩
  rw [step_of_ended (stage_of_end? hend)]
  exact hend

/-- A call that is told to stop goes on. -/
theorem goesOn_requestStop : c.GoesOn c.requestStop := by
  rw [requestStop]
  split
  · exact .refl c
  · exact ⟨rfl, rfl, fun _ h => h⟩

theorem requestStop_requestStop : c.requestStop.requestStop = c.requestStop := by
  by_cases h : c.isFinished = true
  · have hstop : c.requestStop = c := if_pos h
    rw [hstop, hstop]
  · have hstop : c.requestStop = { c with stopping := true } := if_neg h
    rw [hstop]
    exact if_neg h

/-- A call that is stopped before its end is aborted. -/
theorem step_stopped (h : c.isFinished = false) : (c.step now .stopped).1.end? = some .aborted := by
  rw [step]
  split
  · rename_i how hstage
    rw [isFinished, end?, hstage] at h
    cases h
  · rfl

/-- A call is finished if it ended somehow. -/
theorem isFinished_iff : c.isFinished = true ↔ ∃ how, c.end? = some how := by
  rw [isFinished, Option.isSome_iff_exists]

end Call

namespace Workers

/-- What can become of calls: there may be more of them, behind those there are. -/
def GoesOn (w w' : Workers) : Prop :=
  ∀ (place : Nat) (c : Call), w.calls[place]? = some c →
    ∃ c', w'.calls[place]? = some c' ∧ c.GoesOn c'

variable {w w' w'' : Workers} {place : Nat}

theorem GoesOn.refl (w : Workers) : w.GoesOn w := fun _ c hc => ⟨c, hc, .refl c⟩

theorem GoesOn.trans (h : w.GoesOn w') (h' : w'.GoesOn w'') : w.GoesOn w'' := by
  intro place c hc
  obtain ⟨c', hc', hon⟩ := h place c hc
  obtain ⟨c'', hc'', hon'⟩ := h' place c' hc'
  exact ⟨c'', hc'', hon.trans hon'⟩

/-- What those who wait for a call were told stays true. -/
theorem GoesOn.result? (h : w.GoesOn w') {result : Except ClusterError Response}
    (hresult : w.result? place = some result) : w'.result? place = some result := by
  simp only [Workers.result?, Option.bind_eq_bind, Option.bind_eq_some_iff, Option.pure_def,
    Option.some.injEq] at hresult ⊢
  obtain ⟨c, hc, how, hend, rfl⟩ := hresult
  obtain ⟨c', hc', hon⟩ := h place c hc
  exact ⟨c', hc', how, hon.ended how hend, by rw [hon.terms_eq]⟩

/-- The result of a call is what its end means. -/
theorem result?_eq {c : Call} (hc : w.calls[place]? = some c) :
    w.result? place = c.end?.map (·.toResult c.terms.server place) := by
  rw [Workers.result?, hc]
  cases hend : c.end? <;> simp [hend]

/-- What happens to a call makes it step. -/
theorem getElem?_step_self {c : Call} (hc : w.calls[place]? = some c) (e : CallEvent) :
    (w.step now place e).1.calls[place]? = some (c.step now e).1 := by
  rw [step, hc]
  exact List.getElem?_set_self (List.getElem?_eq_some_iff.1 hc).1

theorem getElem?_step_ne {other : Nat} (h : other ≠ place) (e : CallEvent) :
    (w.step now other e).1.calls[place]? = w.calls[place]? := by
  rw [step]
  split
  · exact List.getElem?_set_ne h
  · rfl

/-- Whatever happens to a call, all of them go on. -/
theorem goesOn_step (other : Nat) (e : CallEvent) : w.GoesOn (w.step now other e).1 := by
  intro place c hc
  by_cases h : other = place
  · subst h
    exact ⟨_, getElem?_step_self hc e, c.goesOn_step e⟩
  · exact ⟨c, (getElem?_step_ne h e).trans hc, .refl c⟩

/-- Calls go on when others are submitted. -/
theorem goesOn_append (calls : List Call) : w.GoesOn { w with calls := w.calls ++ calls } :=
  fun _ c hc => ⟨c, Lists.getElem?_of_prefix (List.prefix_append _ _) hc, .refl c⟩

theorem goesOn_requestStop (other : Nat) : w.GoesOn (w.requestStop other) := by
  intro place c hc
  rw [requestStop, List.getElem?_modify, hc]
  by_cases h : other = place
  · exact ⟨c.requestStop, by simp [h], c.goesOn_requestStop⟩
  · exact ⟨c, by simp [h], .refl c⟩

end Workers

namespace Outbound

variable {o : Outbound} {place : Nat}

theorem workers_stopWaiting (place : Nat) : (o.stopWaiting place).workers = o.workers := by
  rw [stopWaiting]
  split <;> rfl

/-- What calls do changes none of them. -/
theorem workers_perform {c : Call} (action : CallAction) :
    (perform now place c o action).workers = o.workers := by
  cases action <;> rfl

/-- Of the calls only the one changes to which something happens. -/
theorem workers_apply (place : Nat) (e : CallEvent) :
    (o.apply now place e).workers = (o.workers.step now place e).1 := by
  have hperform : ∀ (c : Call) (actions : List CallAction) (o : Outbound),
      (actions.foldl (perform now place c) o).workers = o.workers := by
    intro c actions
    induction actions with
    | nil => exact fun _ => rfl
    | cons action actions ih => exact fun o => (ih _).trans (workers_perform action)
  rw [apply]
  split
  · exact hperform _ _ _
  · rename_i hnone
    rw [Workers.step, hnone]

/-- What happens to a call, and what it does, changes no other. -/
theorem getElem?_apply_ne {other : Nat} (h : other ≠ place) (e : CallEvent) :
    (o.apply now other e).workers.calls[place]? = o.workers.calls[place]? := by
  rw [workers_apply, Workers.getElem?_step_ne h]

/-- All calls go on, whatever happens to one. -/
theorem goesOn_apply (place : Nat) (e : CallEvent) :
    o.workers.GoesOn (o.apply now place e).workers := by
  rw [workers_apply]
  exact Workers.goesOn_step place e

theorem goesOn_stopTurn (o : Outbound) (place : Nat) :
    o.workers.GoesOn (o.stopTurn now place).workers :=
  keeps_stopTurn (P := fun o' => o.workers.GoesOn o'.workers) (fun _ => goesOn_apply place _)
    (.refl _)

theorem goesOn_afterStops (now : Nat) (o : Outbound) :
    o.workers.GoesOn (o.afterStops now).workers :=
  keeps_afterStops (P := fun o' => o.workers.GoesOn o'.workers)
    (fun _ place e h => h.trans (goesOn_apply place e)) (fun _ h => h) (.refl _)

theorem goesOn_fire (now : Nat) (o : Outbound) : o.workers.GoesOn (o.fire now).workers :=
  keeps_fire (P := fun o' => o.workers.GoesOn o'.workers)
    (fun _ place e h => h.trans (goesOn_apply place e)) (fun _ h => h) (.refl _)

/-! ## Stopping -/

/-- At its turn a call that was told to stop ends; the turns of others leave it alone. -/
theorem stopCalls_stops (now : Nat) {c : Call} (hstop : mustStop c = true)
    (hc : o.workers.calls[place]? = some c) :
    ∃ c', (o.stopCalls now).workers.calls[place]? = some c' ∧ c'.end? = some .aborted := by
  have hfinished : c.isFinished = false := by
    rw [mustStop, Bool.and_eq_true, Bool.not_eq_true'] at hstop
    exact hstop.2
  rw [stopCalls_eq]
  refine Lists.foldl_range_around
    (P := fun o : Outbound => o.workers.calls[place]? = some c)
    (Q := fun o : Outbound => ∃ c', o.workers.calls[place]? = some c' ∧ c'.end? = some .aborted)
    (List.getElem?_eq_some_iff.1 hc).1 ?before ?own ?after hc
  case before =>
    intro o other hother hc
    exact keeps_stopTurn (P := fun o : Outbound => o.workers.calls[place]? = some c)
      (fun _ => (getElem?_apply_ne hother _).trans hc) hc
  case own =>
    intro o hc
    refine ⟨(c.step now .stopped).1, ?_, Call.step_stopped hfinished⟩
    rw [stopTurn, hc, Option.any_some, if_pos hstop, workers_apply, Workers.getElem?_step_self hc]
  case after =>
    rintro o other - ⟨c', hc', hend⟩
    obtain ⟨c'', hc'', hon⟩ := goesOn_stopTurn o other place c' hc'
    exact ⟨c'', hc'', hon.ended _ hend⟩

/-- A call that must stop is aborted at the next turn. -/
theorem fire_stops (now : Nat) {c : Call} (hc : o.workers.calls[place]? = some c)
    (hstop : mustStop c = true) :
    ∃ c', (o.fire now).workers.calls[place]? = some c' ∧ c'.end? = some .aborted := by
  obtain ⟨c', hc', hend⟩ := stopCalls_stops now hstop hc
  obtain ⟨c'', hc'', hon⟩ := goesOn_afterStops now (o.stopCalls now) place c' hc'
  exact ⟨c'', hc'', hon.ended _ hend⟩

end Outbound

end ScatterSearch
