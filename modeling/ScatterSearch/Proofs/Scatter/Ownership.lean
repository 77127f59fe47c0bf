import ScatterSearch.Proofs.Scatter.Plan
import ScatterSearch.Proofs.Scatter.Reads

/-!
# Whose calls they are

Whoever starts an index read holds its calls by the handles of shards. A call with a handle is
waited for, and is stopped together with all other handles. A shard has one handle, though, whose
call is the last that was planned for it: a call all of whose shards are in later calls has none, so
that nobody waits for it or can stop it (`Executor.calls_with_handles`). This takes a shard on two
servers (`Executor.owned_of_disjoint`).
-/

namespace ScatterSearch

namespace Executor

variable {x : Executor} {budget : Option Nat} {planned earlier later : List PlannedCall}
  {p : PlannedCall} {handles : List CallHandle} {o : Outbound} {now call : Nat} {c : Command}
  {l : Layout} {arguments : Json}

/-- Whether somebody who holds handles holds a call. -/
def Owned (handles : List CallHandle) (call : Nat) : Prop := ∃ h ∈ handles, h.call = call

theorem owned_handed : Owned (handed budget planned o) call ↔
    ∃ t, (submitted budget planned o).1.get? t = some call := by
  constructor
  · rintro ⟨h, hh, rfl⟩
    exact ⟨h.target, mem_handed.1 hh⟩
  · rintro ⟨t, hget⟩
    exact ⟨⟨t, call⟩, mem_handed.2 hget, rfl⟩

/-- A call of an index read has a handle if it carries a shard that no later call carries. -/
theorem owned_iff (hkind : ∀ q ∈ planned, q.request.kind = .indexRead)
    (hplanned : planned = earlier ++ p :: later) :
    Owned (handed budget planned o) (o.workers.calls.length + earlier.length) ↔
      ∃ s ∈ p.request.shards, ∀ q ∈ later, s ∉ q.request.shards := by
  have htargets : ∀ q ∈ planned, targets q = q.request.shards.map .shard := by
    intro q hq
    rw [targets, hkind q hq]
  have hshard : ∀ q ∈ planned, ∀ s, .shard s ∈ targets q ↔ s ∈ q.request.shards := by
    intro q hq s
    rw [htargets q hq, List.mem_map_of_injective fun _ _ h => Target.shard.inj h]
  have hmem : ∀ q ∈ p :: later, q ∈ planned := fun q hq =>
    hplanned ▸ List.mem_append_right _ hq
  rw [owned_handed]
  constructor
  · rintro ⟨t, hget⟩
    obtain ⟨earlier', p', later', hplanned', ht, hlater, hcall⟩ := get?_submitted.1 hget
    -- the place of a call tells which it is
    obtain ⟨-, hrest⟩ := List.append_inj (hplanned'.symm.trans hplanned) (by omega)
    obtain ⟨rfl, rfl⟩ := List.cons.inj hrest
    rw [htargets p' (hmem p' List.mem_cons_self)] at ht
    obtain ⟨s, hs, rfl⟩ := List.mem_map.1 ht
    exact ⟨s, hs, fun q hq => mt (hshard q (hmem q (List.mem_cons_of_mem _ hq)) s).2
      (hlater q hq)⟩
  · rintro ⟨s, hs, hlater⟩
    exact ⟨.shard s, get?_submitted.2 ⟨earlier, p, later, hplanned,
      (hshard p (hmem p List.mem_cons_self) s).2 hs,
      fun q hq => mt (hshard q (hmem q (List.mem_cons_of_mem _ hq)) s).1 (hlater q hq), rfl⟩⟩

/-- If no shard is on two servers, all calls have handles. -/
theorem owned_of_disjoint (budget : Option Nat) (o : Outbound) (hvalid : l.Valid)
    (hdisjoint : l.Disjoint) (hcalls : planned = c.calls .indexRead arguments l) {i : Nat}
    (hi : i < planned.length) :
    Owned (handed budget planned o) (o.workers.calls.length + i) := by
  have hkind : ∀ q ∈ planned, q.request.kind = .indexRead := by
    intro q hq
    rw [hcalls] at hq
    exact (Command.mem_calls hq).1
  have hsplit : planned = planned.take i ++ planned[i] :: planned.drop (i + 1) := by
    rw [List.getElem_cons_drop, List.take_append_drop]
  have hlength : (planned.take i).length = i := List.length_take_of_le (Nat.le_of_lt hi)
  rw [← hlength, owned_iff hkind hsplit]
  have hmem : planned[i] ∈ c.calls .indexRead arguments l := hcalls ▸ List.getElem_mem hi
  obtain ⟨s, hs, hselected⟩ := (Command.mem_calls hmem).2.2.2.2
  have hshard := (Command.mem_shards hmem).2 ⟨hs, hselected⟩
  exact ⟨s, hshard, Command.notMem_later hvalid hdisjoint (hcalls.symm.trans hsplit) hshard⟩

/-! ## Stopping -/

/-- A call that is told to stop by all handles at once is told so once. -/
theorem foldl_cancel {c : Call} (hc : x.outbound.workers.calls[call]? = some c)
    (howned : Owned handles call ∨ c.requestStop = c) :
    (handles.foldl cancel x).outbound.workers.calls[call]? = some c.requestStop := by
  induction handles generalizing x c with
  | nil =>
    obtain ⟨h, hh, -⟩ | hstop := howned
    · cases hh
    · rw [hstop]
      exact hc
  | cons h handles ih =>
    have hcalls : (x.cancel h).outbound.workers.calls =
        x.outbound.workers.calls.modify h.call Call.requestStop := rfl
    rw [List.foldl_cons]
    by_cases hcall : h.call = call
    · subst hcall
      rw [← Call.requestStop_requestStop]
      exact ih (by rw [hcalls, List.getElem?_modify_eq, hc]; rfl)
        (.inr Call.requestStop_requestStop)
    · refine ih (by simp [hcalls, hcall, hc]) ?_
      obtain ⟨h', hh', rfl⟩ | hstop := howned
      · refine .inl ⟨h', (List.mem_cons.1 hh').resolve_left ?_, rfl⟩
        rintro rfl
        exact hcall rfl
      · exact .inr hstop

/-- Once all handles were cancelled, the turn that is due aborts their calls, but for those that had
ended. -/
theorem fire_cancelled {c : Call} (hc : x.outbound.workers.calls[call]? = some c)
    (howned : Owned handles call) (now : Nat) :
    ∃ c', ((handles.foldl cancel x).fire now).outbound.workers.calls[call]? = some c' ∧
      c'.end? = some (c.end?.getD .aborted) := by
  have hstop := foldl_cancel hc (.inl howned)
  rw [outbound_fire]
  cases hend : c.end? with
  | some how =>
    obtain ⟨c', hc', hon⟩ := Outbound.goesOn_fire now _ call _ hstop
    exact ⟨c', hc', hon.ended how (Call.goesOn_requestStop.ended how hend)⟩
  | none =>
    refine Outbound.fire_stops now hstop ?_
    have hfinished : c.isFinished = false := by rw [Call.isFinished, hend]; rfl
    rw [Call.requestStop, hfinished, Outbound.mustStop, Bool.and_eq_true, Bool.not_eq_true']
    exact ⟨rfl, hfinished⟩

/-! ## In flight -/

/-- Calls that have ended are not counted as being in flight. -/
theorem inFlight_of_ended {w : Workers} {first n : Nat}
    (h : ∀ i < n, ∀ c, w.calls[first + i]? = some c → c.isFinished = true) :
    w.inFlight =
      ((w.calls.take first ++ w.calls.drop (first + n)).filter (·.holdsWorker)).length := by
  have hcalls : w.calls =
      w.calls.take first ++ ((w.calls.drop first).take n ++ w.calls.drop (first + n)) := by
    rw [← List.drop_drop, List.take_append_drop, List.take_append_drop]
  have hended : ((w.calls.drop first).take n).filter (·.holdsWorker) = [] := by
    refine List.filter_eq_nil_iff.2 fun c hc => ?_
    obtain ⟨i, hi⟩ := List.mem_iff_getElem?.1 hc
    rw [List.getElem?_take] at hi
    split at hi
    · rename_i hlt
      rw [List.getElem?_drop] at hi
      exact Bool.eq_false_iff.1 (Call.holdsWorker_of_isFinished (h i hlt c hi))
    · cases hi
  rw [Workers.inFlight]
  conv_lhs => rw [hcalls]
  rw [List.filter_append, List.filter_append, hended, List.nil_append, ← List.filter_append]

/-! ## Reads -/

/-- Whenever all handles of an operation are cancelled, the next turn ends their calls. -/
theorem ended_of_cancelled {trace : List (Nat × Deed)} {u : Timed Executor}
    (hplan : c.plan .indexRead x.limits x.layout = .ok planned)
    (hrun : Run machine Deed.perform ⟨now, (x.start .indexRead c).2⟩ trace u)
    (howned : Owned (handed x.budget planned x.outbound) call) :
    ∃ before after, u.state.outbound.workers.calls[call]? = some before ∧
      (((handed x.budget planned x.outbound).foldl cancel u.state).fire
        u.now).outbound.workers.calls[call]? = some after ∧
      after.end? = some (before.end?.getD .aborted) := by
  -- the call was submitted, and is still at its place
  obtain ⟨t, hget⟩ := owned_handed.1 howned
  obtain ⟨earlier, p, later, hplanned, -, -, rfl⟩ := get?_submitted.1 hget
  have hsubmitted := getElem?_submitted x.budget x.outbound hplanned
  obtain ⟨before, hbefore, -⟩ := (goesOn_of_run hrun).calls _ _ (by
    rw [start, startWithin_ok x.budget hplan]
    exact hsubmitted)
  obtain ⟨after, hafter, hend⟩ := fire_cancelled hbefore howned u.now
  exact ⟨before, after, hbefore, hafter, hend⟩

/-- A read has no result before the calls with handles have ended. -/
theorem isFinished_of_gathered {trace : List (Nat × Deed)} {u : Timed Executor}
    {allOrNothing : Bool} {value : Decoder Json} {result : Except ClusterError (Gathered Json)}
    (hplan : c.plan .indexRead x.limits x.layout = .ok planned)
    (hrun : Run machine Deed.perform ⟨now, (x.read .indexRead allOrNothing c value).2⟩ trace u)
    (hresult : u.state.gathered? x.reads.length = some result)
    (howned : Owned (handed x.budget planned x.outbound) call) :
    u.state.outbound.workers.isFinished call = true := by
  obtain ⟨h, hh, rfl⟩ := howned
  have hreads := Reads.of_run hrun (reads_read .indexRead allOrNothing c value)
  have hstart := congrArg Prod.fst (startWithin_ok x.budget hplan)
  exact ((gather?_eq_some hstart).1 (hreads.gather? hresult)).1 h hh

/-- A started operation holds a call exactly if the call carries a shard that no later one of its
calls carries. It can stop the calls that it holds, and a read waits for those. If no shard is on
two servers these are all its calls, so that none of them is in flight after the read. -/
theorem calls_with_handles (hvalid : x.layout.Valid)
    (hplan : c.plan .indexRead x.limits x.layout = .ok planned) (now : Nat) (allOrNothing : Bool)
    (value : Decoder Json) :
    let first := x.outbound.workers.calls.length
    ∃ handles, (x.start .indexRead c).1 = .ok handles ∧
      (∀ earlier p later, planned = earlier ++ p :: later →
        (x.start .indexRead c).2.outbound.workers.calls[first + earlier.length]? =
          some (.new ⟨p.server, x.budget⟩ p.request) ∧
        (Owned handles (first + earlier.length) ↔
          ∃ s ∈ p.request.shards, ∀ q ∈ later, s ∉ q.request.shards)) ∧
      (∀ trace u, Run machine Deed.perform ⟨now, (x.start .indexRead c).2⟩ trace u →
        ∀ call, Owned handles call → ∃ before after,
          u.state.outbound.workers.calls[call]? = some before ∧
          ((handles.foldl cancel u.state).fire u.now).outbound.workers.calls[call]? = some after ∧
          after.end? = some (before.end?.getD .aborted)) ∧
      (∀ trace u,
        Run machine Deed.perform ⟨now, (x.read .indexRead allOrNothing c value).2⟩ trace u →
        ∀ result, u.state.gathered? x.reads.length = some result →
          (∀ call, Owned handles call → u.state.outbound.workers.isFinished call = true) ∧
          (x.layout.Disjoint → u.state.inFlight =
            ((u.state.outbound.workers.calls.take first ++
              u.state.outbound.workers.calls.drop (first + planned.length)).filter
                (·.holdsWorker)).length)) ∧
      (x.layout.Disjoint → ∀ i < planned.length, Owned handles (first + i)) := by
  intro first
  obtain ⟨arguments, -, hcalls⟩ := Command.calls_of_plan hplan
  have hstart := startWithin_ok x.budget hplan
  have hkind : ∀ q ∈ planned, q.request.kind = .indexRead := by
    intro q hq
    rw [hcalls] at hq
    exact (Command.mem_calls hq).1
  have hdisjoint : x.layout.Disjoint → ∀ i < planned.length,
      Owned (handed x.budget planned x.outbound) (first + i) :=
    fun hdisjoint i hi => owned_of_disjoint x.budget x.outbound hvalid hdisjoint hcalls hi
  refine ⟨_, congrArg Prod.fst hstart, ?calls, ?cancel, ?gathered, hdisjoint⟩
  case calls =>
    intro earlier p later hplanned
    refine ⟨?_, owned_iff hkind hplanned⟩
    rw [start, hstart]
    exact getElem?_submitted x.budget x.outbound hplanned
  case cancel => exact fun trace u hrun call howned => ended_of_cancelled hplan hrun howned
  case gathered =>
    intro trace u hrun result hresult
    refine ⟨fun call howned => isFinished_of_gathered hplan hrun hresult howned,
      fun hdisjoint' => inFlight_of_ended fun i hi c' hc' => ?_⟩
    have hended := isFinished_of_gathered hplan hrun hresult (hdisjoint hdisjoint' i hi)
    rw [Workers.isFinished, Workers.result?_eq hc', Option.isSome_map] at hended
    exact hended

/-! ## A shard on two servers -/

/-- Two servers that serve the same shard. Each needs 100 ms to connect to. -/
def twins : Executor :=
  .new (.ofAssignments [(⟨"a:1"⟩, [⟨"t", "s"⟩]), (⟨"b:1"⟩, [⟨"t", "s"⟩])]) .default
    (.new [] [] fun _ => .unreachable 100 (.internal "no such server"))

/-- A read of the table. -/
def twinsCommand : Command := ((CommandParts.named "c").table "t").command

/-- The read after 10 ms, when its only handle is cancelled, and after what that brings about. -/
def twinsCancelled : Executor :=
  Clock.settle machine 10 <|
    (Clock.pass machine 0 10 (twins.read .indexRead false twinsCommand .any).2).cancel
      ⟨.shard ⟨"t", "s"⟩, 1⟩

/-- Both servers are called, but there is a handle for the second call only: the read is over after
10 ms, with its only handle cancelled, while the first call goes on. -/
theorem twins_lose_call :
    (twins.start .indexRead twinsCommand).1.toOption = some [⟨.shard ⟨"t", "s"⟩, 1⟩] ∧
    (twins.start .indexRead twinsCommand).2.outbound.workers.calls.map (·.terms.server) =
      [⟨"a:1"⟩, ⟨"b:1"⟩] ∧
    twins.inFlight = 0 ∧ (twinsCancelled.gathered? 0).isSome = true ∧
    twinsCancelled.outbound.workers.isFinished 1 = true ∧
    twinsCancelled.outbound.workers.isFinished 0 = false ∧ twinsCancelled.inFlight = 1 := by
  decide +kernel

/-- The first call of the two carries nothing that the second does not, and so it has no handle. -/
theorem twins_first_call_without_handle : ∃ handles,
    (twins.start .indexRead twinsCommand).1 = .ok handles ∧ ¬ Owned handles 0 ∧
      Owned handles 1 := by
  have hplan : twinsCommand.plan .indexRead twins.limits twins.layout =
      .ok (twinsCommand.calls .indexRead .null twins.layout) :=
    Command.plan_of_known rfl (by decide +kernel) (by decide +kernel)
  have hcalls : twinsCommand.calls .indexRead .null twins.layout =
      [⟨⟨"a:1"⟩, ⟨"c", .indexRead, .null, [⟨"t", "s"⟩]⟩⟩,
        ⟨⟨"b:1"⟩, ⟨"c", .indexRead, .null, [⟨"t", "s"⟩]⟩⟩] := by rfl
  rw [hcalls] at hplan
  obtain ⟨handles, hstart, howned, -⟩ :=
    calls_with_handles (Layout.valid_ofAssignments _) hplan 0 false .any
  refine ⟨handles, hstart, ?_, ?_⟩
  · intro hfirst
    obtain ⟨s, hs, hlater⟩ := (howned [] _ _ rfl).2.1 hfirst
    exact hlater _ (List.mem_singleton_self _) hs
  · exact (howned [_] _ _ rfl).2.2 ⟨⟨"t", "s"⟩, by simp, by simp⟩

end Executor

end ScatterSearch
