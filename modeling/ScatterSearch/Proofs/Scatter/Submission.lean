import Mathlib.Data.List.Induction
import ScatterSearch.Proofs.Assoc
import ScatterSearch.Proofs.Lists
import ScatterSearch.Scatter.Executor

/-!
# What is submitted

To submit planned calls adds them behind the calls there are, in the order of the plan, and touches
nothing else (`Executor.outbound_submitted`). There is one handle for each target that is planned
for. Where several calls are planned for one target, the last of them has the handle
(`Executor.get?_submitted`).
-/

namespace ScatterSearch

namespace Executor

variable {budget : Option Nat} {planned : List PlannedCall} {p : PlannedCall} {o : Outbound}
  {x : Executor} {handles : Assoc Target Nat} {t : Target} {call : Nat}

/-- The handles of planned calls, and the calls after these were submitted. -/
def submitted (budget : Option Nat) (planned : List PlannedCall) (o : Outbound) :
    Assoc Target Nat × Outbound :=
  planned.foldl (fun (handles, o) p =>
    let (call, o) := o.submit (.new ⟨p.server, budget⟩ p.request)
    (addHandles handles p call, o)) ([], o)

/-- The calls of a plan before anything has happened to them. -/
def freshCalls (budget : Option Nat) (planned : List PlannedCall) : List Call :=
  planned.map fun p => .new ⟨p.server, budget⟩ p.request

theorem get?_addHandles (t : Target) :
    (addHandles handles p call).get? t =
      if t ∈ targets p then some call else handles.get? t := by
  rw [addHandles]
  induction targets p generalizing handles with
  | nil => rfl
  | cons t' ts ih =>
    rw [List.foldl_cons, ih, Assoc.get?_put]
    by_cases ht : t' = t
    · subst ht
      simp
    · simp [ht, Ne.symm ht]

theorem nodup_keys_addHandles (h : handles.keys.Nodup) :
    (addHandles handles p call).keys.Nodup := by
  rw [addHandles]
  induction targets p generalizing handles with
  | nil => exact h
  | cons t ts ih => exact ih (Assoc.nodup_keys_put h)

/-- The handles of the last call come last, and replace those of earlier calls. -/
theorem submitted_concat : submitted budget (planned ++ [p]) o =
    (addHandles (submitted budget planned o).1 p
        (submitted budget planned o).2.workers.calls.length,
      ((submitted budget planned o).2.submit (.new ⟨p.server, budget⟩ p.request)).2) :=
  List.foldl_concat ..

/-- Nothing happens to the calls there are, and nothing on the network. -/
theorem outbound_submitted : (submitted budget planned o).2 =
    { o with workers := { o.workers with
        calls := o.workers.calls ++ freshCalls budget planned } } := by
  induction planned using List.reverseRecOn with
  | nil => rw [freshCalls, List.map_nil, List.append_nil]; rfl
  | append_singleton planned p ih =>
    rw [submitted_concat, ih, freshCalls, freshCalls, List.map_append, ← List.append_assoc]
    rfl

theorem getElem?_submitted (budget : Option Nat) (o : Outbound) {earlier later : List PlannedCall}
    (hplanned : planned = earlier ++ p :: later) :
    (submitted budget planned o).2.workers.calls[o.workers.calls.length + earlier.length]? =
      some (.new ⟨p.server, budget⟩ p.request) := by
  subst hplanned
  rw [outbound_submitted]
  simp [freshCalls]

theorem nodup_submitted : (submitted budget planned o).1.keys.Nodup := by
  induction planned using List.reverseRecOn with
  | nil => exact List.nodup_nil
  | append_singleton planned p ih =>
    rw [submitted_concat]
    exact nodup_keys_addHandles ih

/-- The handle of a target is for the last call that is planned for it. -/
theorem get?_submitted : (submitted budget planned o).1.get? t = some call ↔
    ∃ earlier p later, planned = earlier ++ p :: later ∧ t ∈ targets p ∧
      (∀ q ∈ later, t ∉ targets q) ∧ call = o.workers.calls.length + earlier.length := by
  induction planned using List.reverseRecOn with
  | nil =>
    constructor
    · intro h
      cases h
    · rintro ⟨earlier, p, later, hplanned, -⟩
      simp at hplanned
  | append_singleton planned p ih =>
    have hlength : (submitted budget planned o).2.workers.calls.length =
        o.workers.calls.length + planned.length := by
      rw [outbound_submitted]
      simp [freshCalls]
    rw [submitted_concat, get?_addHandles, hlength]
    by_cases ht : t ∈ targets p
    · rw [if_pos ht, Option.some.injEq]
      constructor
      · rintro rfl
        exact ⟨planned, p, [], rfl, ht, by simp, rfl⟩
      · rintro ⟨earlier, q, later, hplanned, -, hlater, rfl⟩
        rcases Lists.concat_eq_split hplanned with ⟨rfl, -, -⟩ | ⟨rest, rfl, -⟩
        · rfl
        · exact absurd ht (hlater p (by simp))
    · rw [if_neg ht, ih]
      constructor
      · rintro ⟨earlier, q, later, rfl, hq, hlater, hcall⟩
        refine ⟨earlier, q, later ++ [p], by simp, hq, fun r hr => ?_, hcall⟩
        rcases List.mem_append.1 hr with hr | hr
        · exact hlater r hr
        · rw [List.mem_singleton.1 hr]
          exact ht
      · rintro ⟨earlier, q, later, hplanned, hq, hlater, hcall⟩
        rcases Lists.concat_eq_split hplanned with ⟨-, rfl, -⟩ | ⟨rest, rfl, hrest⟩
        · exact absurd hq ht
        · exact ⟨earlier, q, rest, hrest, hq, fun r hr => hlater r (List.mem_append_left _ hr),
            hcall⟩

/-- There is a handle for each target that is planned for, and for no other. -/
theorem mem_keys_submitted :
    t ∈ (submitted budget planned o).1.keys ↔ ∃ p ∈ planned, t ∈ targets p := by
  induction planned using List.reverseRecOn with
  | nil => simp [submitted, Assoc.keys]
  | append_singleton planned p ih =>
    rw [submitted_concat, Assoc.mem_keys]
    simp only [get?_addHandles]
    by_cases ht : t ∈ targets p
    · simp [ht]
    · simp only [if_neg ht, ← Assoc.mem_keys, ih]
      simp [ht]

/-- The handles of planned calls, as they are handed out. -/
def handed (budget : Option Nat) (planned : List PlannedCall) (o : Outbound) : List CallHandle :=
  (submitted budget planned o).1.map fun (t, call) => ⟨t, call⟩

theorem mem_handed {h : CallHandle} :
    h ∈ handed budget planned o ↔ (submitted budget planned o).1.get? h.target = some h.call := by
  rw [handed, List.mem_map]
  constructor
  · rintro ⟨⟨t, call⟩, hmem, rfl⟩
    exact Assoc.get?_of_mem nodup_submitted hmem
  · intro hget
    exact ⟨(h.target, h.call), Assoc.mem_of_get? hget, rfl⟩

theorem targets_handed :
    (handed budget planned o).map (·.target) = (submitted budget planned o).1.keys := List.map_map

/-! ## Starting a read -/

theorem startWithin_error (budget : Option Nat) {kind : CommandKind} {c : Command}
    {e : ClusterError} (h : c.plan kind x.limits x.layout = .error e) :
    x.startWithin budget kind c = (.error e, x.count (startCounter kind) true) := by
  rw [startWithin, h]

theorem startWithin_ok (budget : Option Nat) {kind : CommandKind} {c : Command}
    (h : c.plan kind x.limits x.layout = .ok planned) :
    x.startWithin budget kind c =
      (.ok (handed budget planned x.outbound),
        { x.count (startCounter kind) false with
          outbound := (submitted budget planned x.outbound).2 }) := by
  rw [startWithin, h]
  rfl

end Executor

end ScatterSearch
