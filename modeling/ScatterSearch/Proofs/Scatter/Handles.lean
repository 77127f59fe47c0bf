import ScatterSearch.Proofs.Call.Answers
import ScatterSearch.Proofs.Scatter.Submission
import ScatterSearch.Proofs.Time.Run

/-!
# What handles are for

To scatter a command is to plan one call for each server, to submit these calls, and to hand out
handles. Each target that is planned for gets one handle, and its call is one that was planned for
it (`Executor.Hands`). What else an executor does keeps its calls faithful and forgets none of them
(`Executor.Later`).
-/

namespace ScatterSearch

namespace Executor

variable {S : Nat → Standard} {first now : Nat} {x x' x'' : Executor}
  {budget : Option Nat} {planned : List PlannedCall}

/-- An executor comes after another one. -/
structure Later (S : Nat → Standard) (first : Nat) (x x' : Executor) : Prop where
  layout_eq : x'.layout = x.layout
  outbound : Outbound.Later S first x.outbound x'.outbound

theorem Later.refl (h : x.outbound.Faithful S first) : Later S first x x := ⟨rfl, .refl h⟩

theorem Later.trans (h : Later S first x x') (h' : Later S first x' x'') : Later S first x x'' :=
  ⟨h'.layout_eq.trans h.layout_eq, h.outbound.trans h'.outbound⟩

/-! ## Handles -/

/-- Handles for planned calls: one for each target, of a call that was planned for it and is none of
the first calls. -/
structure Hands (first : Nat) (o : Outbound) (budget : Option Nat) (planned : List PlannedCall)
    (handles : Assoc Target Nat) : Prop where
  nodup : handles.keys.Nodup
  keys : ∀ t, t ∈ handles.keys ↔ ∃ p ∈ planned, t ∈ targets p
  calls : ∀ t call, handles.get? t = some call →
    first ≤ call ∧
      ∃ p ∈ planned, t ∈ targets p ∧ o.orders[call]? = some (⟨p.server, budget⟩, p.request)

/-- To submit planned calls is an order for each of them. -/
theorem later_submitted {o : Outbound} (hf : o.Faithful S first) :
    Outbound.Later S first o (submitted budget planned o).2 := by
  induction planned using List.reverseRecOn with
  | nil => exact .refl hf
  | append_singleton planned p ih =>
    rw [submitted_concat]
    exact ih.trans (ih.faithful.submit ⟨p.server, budget⟩ p.request).1

/-- Each planned call has its handles. -/
theorem hands_submitted {o : Outbound} (hf : o.Faithful S first) :
    Outbound.Later S first o (submitted budget planned o).2 ∧
      Hands first (submitted budget planned o).2 budget planned (submitted budget planned o).1 where
  left := later_submitted hf
  right :=
    { nodup := nodup_submitted
      keys := fun t => mem_keys_submitted
      calls := by
        intro t call hget
        obtain ⟨earlier, p, later, hplanned, ht, -, rfl⟩ := get?_submitted.1 hget
        refine ⟨Nat.le_trans hf.first_le (Nat.le_add_right ..), p, by simp [hplanned], ht, ?_⟩
        rw [Outbound.orders, List.getElem?_map, getElem?_submitted budget o hplanned]
        rfl }

/-! ## Starting a read -/

theorem later_count (h : x.outbound.Faithful S first) (name : String) (failed : Bool) :
    Later S first x (x.count name failed) := ⟨rfl, .refl h⟩

theorem later_submit (h : x.outbound.Faithful S first) :
    Later S first x (x.submit budget planned).2 :=
  ⟨rfl, (hands_submitted h).1⟩

/-- What was ordered stays so when calls are started. -/
theorem later_startWithin (h : x.outbound.Faithful S first) (kind : CommandKind) (c : Command) :
    Later S first x (x.startWithin budget kind c).2 := by
  rw [startWithin]
  split
  · exact (later_count h _ _).trans (later_submit h)
  · exact later_count h _ _

/-- A read that could be started has the handles of its plan. -/
theorem hands_startWithin (h : x.outbound.Faithful S first) {kind : CommandKind} {c : Command}
    {handles : List CallHandle} (hstart : (x.startWithin budget kind c).1 = .ok handles) :
    ∃ planned hands, c.plan kind x.limits x.layout = .ok planned ∧
      Hands first (x.startWithin budget kind c).2.outbound budget planned hands ∧
      handles = hands.map fun (t, call) => ⟨t, call⟩ := by
  rw [startWithin] at hstart ⊢
  cases hplan : c.plan kind x.limits x.layout with
  | error e =>
    rw [hplan] at hstart
    cases hstart
  | ok planned =>
    rw [hplan] at hstart
    exact ⟨planned, _, rfl, (hands_submitted h).2, (Except.ok.inj hstart).symm⟩

/-! ## Time -/

theorem later_finishReads (h : x.outbound.Faithful S first) : Later S first x x.finishReads := by
  -- a read that ends is counted, and nothing else changes
  have hone : ∀ (x : Executor) (place : Nat),
      (x.finishRead place).layout = x.layout ∧ (x.finishRead place).outbound = x.outbound := by
    intro x place
    rw [finishRead]
    split
    · split
      · dsimp only
        split <;> exact ⟨rfl, rfl⟩
      · exact ⟨rfl, rfl⟩
    · exact ⟨rfl, rfl⟩
  have hall : ∀ (places : List Nat) (x : Executor),
      (places.foldl finishRead x).layout = x.layout ∧
        (places.foldl finishRead x).outbound = x.outbound := by
    intro places
    induction places with
    | nil => exact fun _ => ⟨rfl, rfl⟩
    | cons place places ih =>
      intro x
      exact ⟨(ih _).1.trans (hone x place).1, (ih _).2.trans (hone x place).2⟩
  obtain ⟨hlayout, houtbound⟩ := hall (List.range x.reads.length) x
  refine ⟨hlayout, ?_⟩
  rw [finishReads, houtbound]
  exact .refl h

/-- What was ordered stays so at a turn. -/
theorem later_fire (h : x.outbound.Faithful S first) : Later S first x (x.fire now) := by
  have hcalls : Later S first x { x with outbound := x.outbound.fire now } := ⟨rfl, h.fire⟩
  exact hcalls.trans (later_finishReads hcalls.outbound.faithful)

theorem later_settle (h : x.outbound.Faithful S first) :
    Later S first x (Clock.settle machine now x) :=
  Clock.keeps_settle (P := Later S first x)
    (fun _ _ h' => h'.trans (later_fire h'.outbound.faithful)) (.refl h)

theorem later_cancel (h : x.outbound.Faithful S first) (handle : CallHandle) :
    Later S first x (x.cancel handle) := ⟨rfl, h.requestStop _⟩

theorem later_stop (h : x.outbound.Faithful S first) (handles : List CallHandle) :
    Later S first x (handles.foldl cancel x) := by
  induction handles generalizing x with
  | nil => exact .refl h
  | cons handle handles ih =>
    have hone := later_cancel h handle
    exact hone.trans (ih hone.outbound.faithful)

theorem later_read (h : x.outbound.Faithful S first) (kind : CommandKind) (allOrNothing : Bool)
    (c : Command) (value : Decoder Json) :
    Later S first x (x.read kind allOrNothing c value).2 := by
  have hstart : Later S first x (x.start kind c).2 := later_startWithin h kind c
  obtain ⟨hlayout, houtbound⟩ := hstart
  exact ⟨hlayout, { houtbound with }⟩

end Executor

end ScatterSearch
