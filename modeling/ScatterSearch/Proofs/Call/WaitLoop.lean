import ScatterSearch.Proofs.Call.Dialogue
import ScatterSearch.Proofs.Lists
import ScatterSearch.Proofs.Time.Run

/-!
# Coming back until there is a result

A call and a node have clocks of their own: the node bounds how long one request waits, the call
bounds for how long it comes back. Here is, over all runs of the two, what their conversation comes
to: one plain call of the command, as long as its result comes before the time is up.

* `Stands` lists the states that a run can come to, with what is known of the instant;
* `Stands.fire`, `Stands.pass` and `Stands.sweep` say that every step leads from one to another;
* `Stands.concludes` says that a run goes on to the end of the call, and when that is.

Others may sweep the node at any instant but the one at which the handler ends: there the result may
be in the table for an instant, before the call has come back for it.
-/

namespace ScatterSearch

/-- Evicts what is stale on every host. -/
def Outbound.sweep (now : Nat) (o : Outbound) : Outbound :=
  { o with network := { o.network with
      hosts := o.network.hosts.map fun h => { h with manager := (h.manager.evict now).2 } } }

namespace Visit

/-! ## States -/

/-- The handler was started, and once only. -/
structure Launched (v : Visit) (e : Execution) : Prop where
  id_eq : e.id = v.id
  starts : e.starts = 1
  started : e.phase ≠ .accepted

/-- What the call returned, and since when it may: the outcome, if there is one before the time is
up, or else that the time is up. -/
inductive Concluded (v : Visit) (now : Nat) (e : Execution) : Except ClusterError Response → Prop
  | told : v.finish ≤ now → (∀ b ∈ v.budget, v.finish ≤ v.start + max v.wait b) →
      e.listed = false → Concluded v now e v.outcome
  | gaveUp (b : Nat) : v.budget = some b → v.start + max v.wait b ≤ v.finish →
      v.start + max v.wait b ≤ now → Concluded v now e (.error (v.terms.gaveUp b v.id))

/-- The call has ended. -/
inductive Over (v : Visit) : Timed Outbound → Prop
  | intro {now n : Nat} {result : Except ClusterError Response} {e : Execution}
      {requests : List Pending} {log : List (Nat × CallAction)} :
      Launched v e → Concluded v now e result →
      Over v ⟨now, v.apart (.ended (.returned result)) n (v.busy e requests) log⟩

/-- Which request the call may be waiting for at an instant: the first one, or one that was sent
when the first had waited long enough and the budget was not used up. -/
inductive Waits (v : Visit) (now : Nat) : Stage → Nat → Prop
  | first : Waits v now (.executing v.start) v.start
  | again (since : Nat) : v.start + v.wait ≤ since →
      (∀ b ∈ v.budget, since < v.start + b ∧ now ≤ v.start + b) →
      Waits v now (.reconnecting v.start v.id) since

/-- The call waits for a request, which the node got at the instant `since`. -/
def waiting (v : Visit) (stage : Stage) (since n : Nat) (old : List Pending)
    (log : List (Nat × CallAction)) : Outbound :=
  v.line stage n (.served 0 old.length)
    (v.busy v.running (old ++ [⟨some 0, since + v.wait, none⟩])) log

/-- The call was told that the work goes on, and has just come back. The handler may have ended at
the very same instant. -/
def returning (v : Visit) (now n : Nat) (old : List Pending) (log : List (Nat × CallAction)) :
    Outbound :=
  v.line (.reconnecting v.start v.id) n (.travelling now 0 v.request (some v.id))
    (v.busy (if now < v.finish then v.running else v.ended true) old) log

/-- Where the call and the node stand at an instant. -/
inductive Stands (v : Visit) : Timed Outbound → Prop
  | queued : Stands v ⟨v.start, v.submitted⟩
  | connecting (log : List (Nat × CallAction)) :
      Stands v ⟨v.start, v.line .connecting 0 (.opening v.start (.ok ())) v.idle log⟩
  | asking (log : List (Nat × CallAction)) :
      Stands v ⟨v.start,
        v.line (.executing v.start) 1 (.travelling v.start 0 v.request none) v.idle log⟩
  | waiting {now since n : Nat} {stage : Stage} {old : List Pending}
      {log : List (Nat × CallAction)} :
      Waits v now stage since → Errand.Answered old → since ≤ now → now ≤ since + v.wait →
      now ≤ v.finish → Stands v ⟨now, v.waiting stage since n old log⟩
  | returning {now n : Nat} {old : List Pending} {log : List (Nat × CallAction)} :
      Waits v now (.reconnecting v.start v.id) now → Errand.Answered old → now ≤ v.finish →
      Stands v ⟨now, v.returning now n old log⟩
  | ended {u : Timed Outbound} : Over v u → Stands v u

variable {v : Visit} {now since n : Nat} {stage : Stage} {old : List Pending}
  {log : List (Nat × CallAction)}

/-- A call that waits is in conversation. -/
theorem Waits.converses (h : Waits v now stage since) : Converses v.start stage := by
  cases h
  · exact .executing
  · exact .reconnecting v.id

theorem Waits.start_le (h : Waits v now stage since) : v.start ≤ since := by
  cases h
  · exact Nat.le_refl _
  · omega

/-- A budget is used up or not. -/
theorem budget_cases (v : Visit) (now : Nat) :
    (∀ b ∈ v.budget, now < v.start + b) ∨ ∃ b, v.budget = some b ∧ v.start + b ≤ now := by
  cases v.budget with
  | none => exact .inl fun b hb => by cases hb
  | some b =>
    rcases Nat.lt_or_ge now (v.start + b) with hlt | hge
    · refine .inl fun b' hb' => ?_
      obtain rfl := Option.some.inj hb'
      exact hlt
    · exact .inr ⟨b, rfl, hge⟩

theorem launched_running (v : Visit) : Launched v v.running :=
  ⟨rfl, rfl, by simp [Errand.running, Errand.execution]⟩

theorem launched_ended (v : Visit) (listed : Bool) : Launched v (v.ended listed) :=
  ⟨rfl, rfl, by simp [Errand.ended, Errand.execution]⟩

/-! ## What happens while the call waits -/

/-- The node says at its deadline that the handler runs, and the call comes back or gives up. -/
theorem fire_waiting_deadline (hwaits : Waits v now stage since) (hold : Errand.Answered old)
    (hwait : now ≤ since + v.wait) (hfinish : now ≤ v.finish) (hdue : since + v.wait ≤ now) :
    Over v ⟨now, (v.waiting stage since n old log).fire now⟩ ∨
      ∃ n' old' log', (v.waiting stage since n old log).fire now = v.returning now n' old' log' ∧
        Waits v now (.reconnecting v.start v.id) now ∧ Errand.Answered old' := by
  have hstart := hwaits.start_le
  have hfire := Errand.fire_running (x := v.toErrand) now (since + v.wait) hold
  rw [if_pos hdue] at hfire
  -- what the call is told is the same; whether it comes back depends on its own time
  rcases budget_cases v now with hin | ⟨b, hb, hout⟩
  · rw [waiting, fire_line (fire_net_served rfl hfire)
      (hear_running hwaits.converses reply?_busy fun b hb => by
        have hthen := hin b hb
        omega) (takeUp_line rfl)]
    refine .inr ⟨_, _, _, rfl, .again now (by omega) fun b hb => ?_, hold.concat⟩
    have hthen := hin b hb
    omega
  · rw [waiting, fire_line (fire_net_served rfl hfire)
      (hear_running_late hwaits.converses reply?_busy hb (by omega)) (takeUp_apart rfl)]
    have hlate : v.start + max v.wait b ≤ now := by
      cases hwaits with
      | first => omega
      | again _ _ hbudget => omega
    refine .inl (.intro ?_ (.gaveUp b hb (Nat.le_trans hlate hfinish) hlate))
    split
    · exact launched_running v
    · exact launched_ended v true

/-- The handler ends before the node would say that it runs. -/
theorem fire_waiting_finish (hwaits : Waits v now stage since) (hold : Errand.Answered old)
    (hbefore : now < since + v.wait) (hfinish : now ≤ v.finish) (hended : v.finish ≤ now) :
    Over v ⟨now, (v.waiting stage since n old log).fire now⟩ := by
  have hfire := Errand.fire_running (x := v.toErrand) now (since + v.wait) hold
  rw [if_neg (Nat.not_le_of_lt hbefore), if_neg (Nat.not_lt_of_le hended)] at hfire
  rw [waiting, fire_line (fire_net_served rfl hfire) (hear_result hwaits.converses reply?_busy)
    (takeUp_apart rfl)]
  refine .intro (launched_ended v false) (.told hended (fun b hb => ?_) rfl)
  cases hwaits with
  | first => omega
  | again _ _ hbudget =>
    have hthen := hbudget b hb
    omega

/-- The node says nothing; only the call's own time can be up. -/
theorem fire_waiting_quiet (hwaits : Waits v now stage since) (hold : Errand.Answered old)
    (hbefore : now < since + v.wait) (hrunning : now < v.finish) :
    Over v ⟨now, (v.waiting stage since n old log).fire now⟩ ∨
      (∀ d, (v.call stage).deadline = some d → now < d) ∧
        (v.waiting stage since n old log).fire now = v.waiting stage since n old log := by
  have hfire := Errand.fire_running (x := v.toErrand) now (since + v.wait) hold
  rw [if_neg (Nat.not_le_of_lt hbefore), if_pos hrunning] at hfire
  cases hwaits with
  | first =>
    rw [waiting, fire_line (fire_net_served rfl hfire)
      (hear_nothing .executing reply?_busy (.inl rfl)) (takeUp_line rfl)]
    exact .inr ⟨fun d hd => (by cases hd), rfl⟩
  | again _ hlate hbudget =>
    rcases budget_cases v now with hin | ⟨b, hb, hout⟩
    · rw [waiting, fire_line (fire_net_served rfl hfire)
        (hear_nothing (.reconnecting v.id) reply?_busy (.inr hin)) (takeUp_line rfl)]
      refine .inr ⟨fun d hd => ?_, rfl⟩
      obtain ⟨b, hb, rfl⟩ := Option.map_eq_some_iff.1 hd
      exact hin b hb
    · have hthen := hbudget b hb
      rw [waiting, fire_line (fire_net_served rfl hfire)
        (hearOne_outOfTime (by rw [arrival?_served, reply?_busy]; rfl) hb hout)
        (takeUp_apart rfl)]
      exact .inl (.intro (launched_running v) (.gaveUp b hb (by omega) (by omega)))

/-- The call has come back: it waits again, or is told the result that there is already. -/
theorem fire_returning (hpos : 0 < v.wait)
    (hwaits : Waits v now (.reconnecting v.start v.id) now) (hold : Errand.Answered old)
    (hfinish : now ≤ v.finish) :
    Over v ⟨now, (v.returning now n old log).fire now⟩ ∨
      (v.returning now n old log).fire now =
        v.waiting (.reconnecting v.start v.id) now n old log := by
  have hbudget : ∀ b ∈ v.budget, now < v.start + b := by
    cases hwaits with
    | again _ _ hbudget => exact fun b hb => (hbudget b hb).1
  -- the handler may have ended at this very instant
  rcases Nat.lt_or_ge now v.finish with hrunning | hended
  · have hfire := Errand.fire_running (x := v.toErrand) now (now + v.wait) hold
    rw [if_neg (by omega), if_pos hrunning] at hfire
    rw [returning, if_pos hrunning, fire_line
      (fire_net_travelling (some v.id) (Nat.le_refl now) (Errand.reconnect_running hpos) rfl hfire)
      (hear_nothing (.reconnecting v.id) reply?_busy (.inr hbudget)) (takeUp_line rfl)]
    exact .inr rfl
  · have hfire : (v.busy (v.ended false)
        (old ++ [⟨some 0, now + v.wait, some (.ofResult v.result)⟩])).fire (v.view now) now = _ :=
      Errand.fire_ended hold.concat
    rw [returning, if_neg (Nat.not_lt_of_le hended), fire_line
      (fire_net_travelling (some v.id) (Nat.le_refl now) Errand.reconnect_ended rfl hfire)
      (hear_result (.reconnecting v.id) reply?_busy) (takeUp_apart rfl)]
    refine .inl (.intro (launched_ended v false) (.told hended (fun b hb => ?_) rfl))
    have hthen := hbudget b hb
    omega

/-- The first request arrives, and the handler starts. -/
theorem fire_asking (hhas : v.handlers.has v.request.command = true) (hpos : 0 < v.wait) :
    Over v ⟨v.start, (v.line (.executing v.start) n (.travelling v.start 0 v.request none) v.idle
        log).fire v.start⟩ ∨
      (v.line (.executing v.start) n (.travelling v.start 0 v.request none) v.idle log).fire
        v.start = v.waiting (.executing v.start) v.start n [] log := by
  have hfire := Errand.fire_accepted (x := v.toErrand) hpos
  rcases Nat.lt_or_ge v.start v.finish with hrunning | hended
  · rw [if_pos hrunning] at hfire
    rw [fire_line
      (fire_net_travelling none (Nat.le_refl _) (Errand.execute_idle hhas hpos) rfl hfire)
      (hear_nothing .executing (@reply?_busy v _ [] _ _) (.inl rfl)) (takeUp_line rfl)]
    exact .inr rfl
  · rw [if_neg (Nat.not_lt_of_le hended)] at hfire
    rw [fire_line
      (fire_net_travelling none (Nat.le_refl _) (Errand.execute_idle hhas hpos) rfl hfire)
      (hear_result .executing (@reply?_busy v _ [] _ _)) (takeUp_apart rfl)]
    exact .inl (.intro (launched_ended v false) (.told hended (fun b _ => by omega) rfl))

/-! ## Steps -/

/-- A conclusion stays. -/
theorem Concluded.later {e : Execution} {later : Nat} {result : Except ClusterError Response}
    (h : Concluded v now e result) (hle : now ≤ later) : Concluded v later e result := by
  cases h with
  | told hfinish hbudget hlisted => exact .told (Nat.le_trans hfinish hle) hbudget hlisted
  | gaveUp b hb hlate hnow => exact .gaveUp b hb hlate (Nat.le_trans hnow hle)

theorem Concluded.goesOn {e e' : Execution} {result : Except ClusterError Response}
    (h : Concluded v now e result) (hon : Errand.GoesOn e e') : Concluded v now e' result := by
  cases h with
  | told hfinish hbudget hlisted => exact .told hfinish hbudget (hon.listed hlisted)
  | gaveUp b hb hlate hnow => exact .gaveUp b hb hlate hnow

/-- What was launched once is not launched again. -/
theorem Launched.goesOn {e e' : Execution} (h : Launched v e) (hon : Errand.GoesOn e e') :
    Launched v e' :=
  ⟨hon.id_eq.trans h.id_eq, hon.starts_eq.trans h.starts, hon.started⟩

/-- What is over stays so at a turn. -/
theorem Over.fire {u : Timed Outbound} (h : Over v u) :
    Over v ⟨u.now, u.state.fire u.now⟩ := by
  obtain ⟨hlaunched, hconcluded⟩ := h
  rw [fire_apart rfl]
  obtain ⟨e', requests', hfire, hon⟩ := Errand.fire_busy hlaunched.started
  rw [hfire]
  exact .intro (hlaunched.goesOn hon) (hconcluded.goesOn hon)

/-- What is over stays so at a sweep. -/
theorem Over.sweep {u : Timed Outbound} (h : Over v u) :
    Over v ⟨u.now, u.state.sweep u.now⟩ := by
  obtain ⟨hlaunched, hconcluded⟩ := h
  rename_i now n result e requests log
  obtain ⟨e', hevict, hon⟩ : ∃ e', ((v.busy e requests).evict now).2 = v.busy e' requests ∧
      Errand.GoesOn e e' := Errand.evict_goesOn hlaunched.started
  have hsweep : (v.apart (.ended (.returned result)) n (v.busy e requests) log).sweep now =
      v.apart (.ended (.returned result)) n ((v.busy e requests).evict now).2 log := rfl
  rw [hsweep, hevict]
  exact .intro (hlaunched.goesOn hon) (hconcluded.goesOn hon)

/-- What happens by itself leads from one of the states to another. -/
theorem Stands.fire {u : Timed Outbound} (hhas : v.handlers.has v.request.command = true)
    (hpos : 0 < v.wait) (h : Stands v u) : Stands v ⟨u.now, u.state.fire u.now⟩ := by
  cases h with
  | queued =>
    rw [submitted_eq, fire_queued]
    exact .connecting _
  | connecting log =>
    rw [fire_connecting (Nat.le_refl _)]
    exact .asking _
  | asking log =>
    rcases fire_asking hhas hpos with hover | hwaiting
    · exact .ended hover
    · rw [hwaiting]
      exact .waiting .first (by intro q hq; cases hq) (Nat.le_refl _) (Nat.le_add_right _ _)
        (Nat.le_add_right _ _)
  | @waiting now since n stage old log hwaits hold hsince hwait hfinish =>
    -- a request whose time is over is answered first, even if the handler ends as well
    rcases Nat.lt_or_ge now (since + v.wait) with hbefore | hdue
    · rcases Nat.lt_or_ge now v.finish with hrunning | hended
      · rcases fire_waiting_quiet hwaits hold hbefore hrunning with hover | ⟨-, hsame⟩
        · exact .ended hover
        · rw [hsame]
          exact .waiting hwaits hold hsince hwait hfinish
      · exact .ended (fire_waiting_finish hwaits hold hbefore hfinish hended)
    · rcases fire_waiting_deadline hwaits hold hwait hfinish hdue with hover | hback
      · exact .ended hover
      · obtain ⟨n', old', log', hfire, hwaits', hold'⟩ := hback
        rw [hfire]
        exact .returning hwaits' hold' hfinish
  | returning hwaits hold hfinish =>
    rcases fire_returning hpos hwaits hold hfinish with hover | hwaiting
    · exact .ended hover
    · rw [hwaiting]
      exact .waiting hwaits hold (Nat.le_refl _) (Nat.le_add_right _ _) hfinish
  | ended hover => exact .ended hover.fire

/-- A sweep leads from one of the states to another, as long as it does not find a result in the
table that the call is about to fetch. -/
theorem Stands.sweep {u : Timed Outbound} (h : Stands v u) (hquiet : u.now ≠ v.finish) :
    Stands v ⟨u.now, u.state.sweep u.now⟩ := by
  cases h with
  | queued => exact .queued
  | connecting log => exact .connecting log
  | asking log => exact .asking log
  | @waiting now since n stage old log hwaits hold hsince hwait hfinish =>
    have hsweep : (v.waiting stage since n old log).sweep now =
        v.line stage n (.served 0 old.length)
          ((v.busy v.running (old ++ [⟨some 0, since + v.wait, none⟩])).evict now).2 log := rfl
    rw [hsweep, Errand.evict_busy (.inl rfl)]
    exact .waiting hwaits hold hsince hwait hfinish
  | @returning now n old log hwaits hold hfinish =>
    -- the call has nobody waiting for it now, so a result would be evicted
    have hrunning : now < v.finish := Nat.lt_of_le_of_ne hfinish hquiet
    have hsweep : (v.returning now n old log).sweep now =
        v.line (.reconnecting v.start v.id) n (.travelling now 0 v.request (some v.id))
          ((v.busy (if now < v.finish then v.running else v.ended true) old).evict now).2 log := rfl
    have hreturning : Stands v ⟨now, v.returning now n old log⟩ := .returning hwaits hold hfinish
    rw [Visit.returning, if_pos hrunning] at hreturning
    rw [hsweep, if_pos hrunning, Errand.evict_busy (.inl rfl)]
    exact hreturning
  | ended hover => exact .ended hover.sweep

/-! ## When something happens next -/

/-- An exchange that is due is not waited for. -/
theorem due_line_le {exchange : Exchange} {m : ExecutionManager} {d : Nat}
    (h : exchange.due? = some d) :
    ∃ due, (v.line stage n exchange m log).due = some due ∧ due ≤ d := by
  obtain ⟨d', hnet, hle⟩ : ∃ d', (v.net (closed n ++ [exchange]) m).due = some d' ∧ d' ≤ d :=
    Lists.exists_min?_le (List.mem_append_left _
      (List.mem_filterMap.2 ⟨exchange, List.mem_append_right _ (List.mem_singleton.2 rfl), h⟩))
  rw [Outbound.due]
  split
  · exact ⟨0, rfl, Nat.zero_le _⟩
  · have hmem : d' ∈ (v.line stage n exchange m log).workers.calls.filterMap (·.deadline) ++
        (v.line stage n exchange m log).network.due.toList :=
      List.mem_append_right _ (Option.mem_toList.2 hnet)
    obtain ⟨due, hdue, hle'⟩ := Lists.exists_min?_le hmem
    exact ⟨due, hdue, Nat.le_trans hle' hle⟩

theorem due_submitted : v.submitted.due = some 0 := Outbound.due_queued rfl rfl

/-- While the call waits, the next things to happen are the end of the handler, the end of the
request's time, and the end of the call's own. -/
theorem due_waiting (hwaits : Waits v now stage since) (hold : Errand.Answered old) :
    (v.waiting stage since n old log).due =
      ((v.call stage).deadline.toList ++ [min v.finish (since + v.wait)]).min? := by
  have harrival : (v.waiting stage since n old log).arrival? 0 = none := by
    rw [waiting, arrival?_served, reply?_busy]
    rfl
  have hnet : (v.waiting stage since n old log).network.due =
      some (min v.finish (since + v.wait)) := by
    have hexchanges : (closed n ++ [Exchange.served 0 old.length]).filterMap (·.due?) = [] := by
      rw [List.filterMap_append, due?_closed]
      rfl
    have hhosts : [(⟨v.busy v.running (old ++ [⟨some 0, since + v.wait, none⟩]), v.layout,
        v.index⟩ : Host)].filterMap (·.due) = [min v.finish (since + v.wait)] :=
      List.filterMap_cons_some (Errand.due_running hold)
    change ((closed n ++ [Exchange.served 0 old.length]).filterMap (·.due?) ++ _).min? = _
    rw [hexchanges]
    exact congrArg List.min? hhosts
  calc (v.waiting stage since n old log).due
    _ = ((v.call stage).deadline.toList ++
          (v.waiting stage since n old log).network.due.toList).min? :=
        Outbound.due_lone hwaits.converses.isQueued rfl harrival
    _ = _ := by
        rw [hnet]
        rfl

/-- As time passes, a request that the call waits for stays the same. -/
theorem Waits.pass {later : Nat} (h : Waits v now stage since)
    (hlater : ∀ d, (v.call stage).deadline = some d → later ≤ d) : Waits v later stage since := by
  cases h with
  | first => exact .first
  | again _ hlate hbudget =>
    refine .again since hlate fun b hb => ⟨(hbudget b hb).1, hlater (v.start + b) ?_⟩
    change v.budget.map (v.start + ·) = some (v.start + b)
    rw [hb]
    rfl

/-- No time passes while an exchange is due. -/
theorem eq_of_due_line {exchange : Exchange} {m : ExecutionManager} {d later : Nat}
    (h : exchange.due? = some d) (hle : d ≤ later)
    (hdue : ∀ due, (v.line stage n exchange m log).due = some due → later ≤ due) : d = later := by
  obtain ⟨due, hd, hle'⟩ : ∃ due, (v.line stage n exchange m log).due = some due ∧ due ≤ d :=
    due_line_le h
  exact Nat.le_antisymm hle (Nat.le_trans (hdue due hd) hle')

/-- Time passes no further than to the next thing to happen. -/
theorem Waits.bounds {later : Nat} (h : Waits v now stage since) (hold : Errand.Answered old)
    (hdue : ∀ due, (v.waiting stage since n old log).due = some due → later ≤ due) :
    later ≤ v.finish ∧ later ≤ since + v.wait ∧ Waits v later stage since := by
  have hle : ∀ d ∈ (v.call stage).deadline.toList ++ [min v.finish (since + v.wait)],
      later ≤ d := by
    intro d hd
    obtain ⟨due, hmin, hle⟩ := Lists.exists_min?_le hd
    exact Nat.le_trans (hdue due ((due_waiting h hold).trans hmin)) hle
  have hnode := hle _ (List.mem_append_right _ (List.mem_singleton.2 rfl))
  refine ⟨by omega, by omega, h.pass fun d hd => hle d (List.mem_append_left _ ?_)⟩
  exact Option.mem_toList.2 hd

/-- Time that passes leads from one of the states to another. -/
theorem Stands.pass {u : Timed Outbound} {later : Nat} (h : Stands v u) (hle : u.now ≤ later)
    (hdue : ∀ due, u.state.due = some due → later ≤ due) : Stands v ⟨later, u.state⟩ := by
  cases h with
  | queued =>
    have hzero := hdue 0 due_submitted
    obtain rfl : v.start = later := by
      dsimp only at hle
      omega
    exact .queued
  | connecting log =>
    obtain rfl := eq_of_due_line rfl hle hdue
    exact .connecting log
  | asking log =>
    obtain rfl := eq_of_due_line rfl hle hdue
    exact .asking log
  | waiting hwaits hold hsince hwait hfinish =>
    obtain ⟨hfinish', hwait', hwaits'⟩ := hwaits.bounds hold hdue
    exact .waiting hwaits' hold (Nat.le_trans hsince hle) hwait' hfinish'
  | returning hwaits hold hfinish =>
    obtain rfl := eq_of_due_line rfl hle hdue
    exact .returning hwaits hold hfinish
  | ended hover =>
    obtain ⟨hlaunched, hconcluded⟩ := hover
    exact .ended (.intro hlaunched (hconcluded.later hle))

/-! ## Runs -/

/-- The runs of a call and its node while somebody sweeps the node now and then. -/
abbrev Runs (t : Timed Outbound) (sweeps : List (Nat × Unit)) (u : Timed Outbound) : Prop :=
  Run Outbound.machine (fun _ => Outbound.sweep) t sweeps u

/-- In every run, the call and the node stand as described. -/
theorem Stands.of_run {sweeps : List (Nat × Unit)} {u : Timed Outbound}
    (hhas : v.handlers.has v.request.command = true) (hpos : 0 < v.wait)
    (hrun : Runs ⟨v.start, v.submitted⟩ sweeps u) (hquiet : ∀ a ∈ sweeps, a.1 ≠ v.finish) :
    Stands v u := by
  refine hrun.invariant (I := fun sweeps u => (∀ a ∈ sweeps, a.1 ≠ v.finish) → Stands v u)
    (fun _ => .queued) (fun _ _ _ ih _ _ hquiet => (ih hquiet).fire hhas hpos)
    (fun _ _ _ ih hle hdue hquiet => (ih hquiet).pass hle hdue) (fun _ _ _ ih hquiet => ?_) hquiet
  refine (ih fun a ha => hquiet a (List.mem_append_left _ ha)).sweep ?_
  exact hquiet _ (List.mem_append_right _ (List.mem_singleton.2 rfl))

/-- The time at which a call returns at the latest is not over. -/
def InTime (v : Visit) (now : Nat) : Prop :=
  now ≤ v.finish ∧ ∀ b ∈ v.budget, now ≤ v.start + max v.wait b

/-- A call that waits, and is not late, is in time. -/
theorem Waits.inTime (h : Waits v now stage since) (hfinish : now ≤ v.finish)
    (hwait : now ≤ since + v.wait) : InTime v now := by
  refine ⟨hfinish, fun b hb => ?_⟩
  cases h with
  | first => omega
  | again _ _ hbudget =>
    have hthen := hbudget b hb
    omega

/-- A run goes on to the end of the call. -/
def Concludes (v : Visit) (u : Timed Outbound) : Prop :=
  ∃ w, Runs u [] w ∧ Over v w ∧ InTime v w.now

/-- What comes to a conclusion later comes to one. -/
theorem Concludes.of_run {u w : Timed Outbound} (hrun : Runs u [] w) (h : Concludes v w) :
    Concludes v u := by
  obtain ⟨w', hrun', hrest⟩ := h
  exact ⟨w', hrun.trans hrun', hrest⟩

/-- What is due is done at once. -/
theorem run_fire_line {exchange : Exchange} {m : ExecutionManager} {o : Outbound}
    (hdue : exchange.due? = some now) (hfire : (v.line stage n exchange m log).fire now = o) :
    Runs ⟨now, v.line stage n exchange m log⟩ [] ⟨now, o⟩ := by
  obtain ⟨due, hd, hle⟩ : ∃ due, (v.line stage n exchange m log).due = some due ∧ due ≤ now :=
    due_line_le hdue
  rw [← hfire]
  exact Run.start.fire hd hle

/-- The next thing to happen while the call waits is not overdue, and one of those that
`due_waiting` lists. -/
theorem Waits.exists_due (hwaits : Waits v now stage since) (hold : Errand.Answered old)
    (hwait : now ≤ since + v.wait) (hfinish : now ≤ v.finish) :
    ∃ due, (v.waiting stage since n old log).due = some due ∧ now ≤ due ∧
      ((v.call stage).deadline = some due ∨ v.finish ≤ due ∨ since + v.wait ≤ due) := by
  obtain ⟨due, hmin, -⟩ := Lists.exists_min?_le
    (List.mem_append_right (v.call stage).deadline.toList
      (List.mem_singleton.2 (rfl : min v.finish (since + v.wait) = _)))
  refine ⟨due, (due_waiting hwaits hold).trans hmin, ?_⟩
  rcases List.mem_append.1 (List.min?_eq_some_iff.1 hmin).1 with hmem | hmem
  · have hdeadline : (v.call stage).deadline = some due := Option.mem_toList.1 hmem
    refine ⟨?_, .inl hdeadline⟩
    cases hwaits with
    | first => cases hdeadline
    | again _ _ hbudget =>
      obtain ⟨b, hb, rfl⟩ := Option.map_eq_some_iff.1 hdeadline
      exact (hbudget b hb).2
  · obtain rfl := List.mem_singleton.1 hmem
    omega

/-- A call that waits comes to a conclusion. -/
theorem Waits.concludes (hpos : 0 < v.wait) (hwaits : Waits v now stage since)
    (hold : Errand.Answered old) (hwait : now ≤ since + v.wait) (hfinish : now ≤ v.finish) :
    Concludes v ⟨now, v.waiting stage since n old log⟩ := by
  -- each request that is answered leaves less of the handler's time
  induction hrest : v.finish - since using Nat.strongRecOn
    generalizing now since n stage old log with
  | ind rest ih =>
    obtain ⟨due, hdue, hnow, hwhich⟩ :
        ∃ due, (v.waiting stage since n old log).due = some due ∧ now ≤ due ∧
          ((v.call stage).deadline = some due ∨ v.finish ≤ due ∨ since + v.wait ≤ due) :=
      hwaits.exists_due hold hwait hfinish
    obtain ⟨hfinish', hwait', hwaits'⟩ := hwaits.bounds hold fun d hd =>
      Nat.le_of_eq (Option.some.inj (hdue.symm.trans hd))
    have hin := hwaits'.inTime hfinish' hwait'
    have hrun : Runs ⟨now, v.waiting stage since n old log⟩ []
        ⟨max now due, (v.waiting stage since n old log).fire (max now due)⟩ :=
      Run.start.fireAt hdue
    rw [Nat.max_eq_right hnow] at hrun
    refine .of_run hrun ?_
    rcases Nat.lt_or_ge due (since + v.wait) with hbefore | hlate
    · rcases Nat.lt_or_ge due v.finish with hrunning | hended
      · rcases fire_waiting_quiet hwaits' hold hbefore hrunning with hover | ⟨hdeadline, -⟩
        · exact ⟨_, .start, hover, hin⟩
        · -- then it was not due
          rcases hwhich with hd | hd | hd
          · exact absurd (hdeadline due hd) (Nat.lt_irrefl _)
          · omega
          · omega
      · exact ⟨_, .start, fire_waiting_finish hwaits' hold hbefore hfinish' hended, hin⟩
    · rcases fire_waiting_deadline hwaits' hold hwait' hfinish' hlate with hover | hback
      · exact ⟨_, .start, hover, hin⟩
      · obtain ⟨n', old', log', hfire, hagain, hold'⟩ := hback
        have hrun' : Runs ⟨due, v.returning due n' old' log'⟩ []
            ⟨due, (v.returning due n' old' log').fire due⟩ := run_fire_line rfl rfl
        change Concludes v ⟨due, (v.waiting stage since n old log).fire due⟩
        rw [hfire]
        refine .of_run hrun' ?_
        rcases fire_returning hpos hagain hold' hfinish' with hover | hwaiting
        · exact ⟨_, .start, hover, hin⟩
        · rw [hwaiting]
          exact ih (v.finish - due) (by omega) hagain hold' (Nat.le_add_right _ _) hfinish' rfl

/-- At its start a call is in time. -/
theorem inTime_start (v : Visit) : InTime v v.start :=
  ⟨Nat.le_add_right _ _, fun _ _ => Nat.le_add_right _ _⟩

/-- Until the call has ended it has no result, its time is not up, and a run goes on to its end. -/
theorem Stands.concludes {u : Timed Outbound} (hhas : v.handlers.has v.request.command = true)
    (hpos : 0 < v.wait) (h : Stands v u) :
    Over v u ∨ u.state.workers.result? 0 = none ∧ InTime v u.now ∧ Concludes v u := by
  have hasking : ∀ log, Concludes v ⟨v.start,
      v.line (.executing v.start) 1 (.travelling v.start 0 v.request none) v.idle log⟩ := by
    intro log
    refine .of_run (run_fire_line rfl rfl) ?_
    rcases fire_asking hhas hpos with hover | hwaiting
    · exact ⟨_, .start, hover, inTime_start v⟩
    · rw [hwaiting]
      exact Waits.first.concludes hpos (by intro q hq; cases hq) (Nat.le_add_right _ _)
        (Nat.le_add_right _ _)
  have hconnecting : ∀ log, Concludes v ⟨v.start,
      v.line .connecting 0 (.opening v.start (.ok ())) v.idle log⟩ := fun log =>
    .of_run (run_fire_line rfl (fire_connecting (Nat.le_refl _))) (hasking _)
  cases h with
  | queued =>
    have hrun : Runs ⟨v.start, v.submitted⟩ [] ⟨v.start, v.submitted.fire v.start⟩ :=
      Run.start.fire due_submitted (Nat.zero_le _)
    rw [submitted_eq, fire_queued] at hrun
    exact .inr ⟨rfl, inTime_start v, .of_run hrun (hconnecting _)⟩
  | connecting log => exact .inr ⟨rfl, inTime_start v, hconnecting log⟩
  | asking log => exact .inr ⟨rfl, inTime_start v, hasking log⟩
  | waiting hwaits hold hsince hwait hfinish =>
    refine .inr ⟨?_, hwaits.inTime hfinish hwait, hwaits.concludes hpos hold hwait hfinish⟩
    cases hwaits <;> rfl
  | @returning now n old log hwaits hold hfinish =>
    have hin := hwaits.inTime hfinish (Nat.le_add_right _ _)
    refine .inr ⟨rfl, hin, .of_run (run_fire_line rfl rfl) ?_⟩
    rcases fire_returning hpos hwaits hold hfinish with hover | hwaiting
    · exact ⟨_, .start, hover, hin⟩
    · change Concludes v ⟨now, (v.returning now n old log).fire now⟩
      rw [hwaiting]
      exact hwaits.concludes hpos hold (Nat.le_add_right _ _) hfinish
  | ended hover => exact .inl hover

/-! ## The result of a call -/

/-- The executions on the node. -/
def executions (o : Outbound) : List Execution := o.network.hosts.flatMap (·.manager.executions)

/-- The call returns a result, and that at an instant: it has not returned anything before, it
never returns anything else, it has returned after that instant, and as long as it has not, the run
goes on to its return at that very instant. -/
structure ReturnsAt (u : Timed Outbound) (instant : Nat) (result : Except ClusterError Response) :
    Prop where
  only : ∀ r, u.state.workers.result? 0 = some r → instant ≤ u.now ∧ r = result
  late : instant < u.now → u.state.workers.result? 0 = some result
  reached : u.state.workers.result? 0 = none →
    ∃ w, Runs u [] w ∧ w.now = instant ∧ w.state.workers.result? 0 = some result

/-- A visit that is over has its result, and one execution. -/
theorem Over.exists_result {u : Timed Outbound} (h : Over v u) :
    ∃ result e, u.state.workers.result? 0 = some result ∧ executions u.state = [e] ∧
      Launched v e ∧ Concluded v u.now e result := by
  obtain ⟨hlaunched, hconcluded⟩ := h
  exact ⟨_, _, rfl, rfl, hlaunched, hconcluded⟩

/-- Who knows what a call ends with that is over knows when it returns. -/
theorem Stands.returnsAt {u : Timed Outbound} {instant : Nat}
    {result : Except ClusterError Response} (hhas : v.handlers.has v.request.command = true)
    (hpos : 0 < v.wait) (h : Stands v u) (htime : ∀ t, InTime v t → t ≤ instant)
    (hresult : ∀ t e r, Concluded v t e r → instant ≤ t ∧ r = result) :
    ReturnsAt u instant result := by
  have hover : ∀ w, Over v w → instant ≤ w.now ∧ w.state.workers.result? 0 = some result := by
    intro w hw
    obtain ⟨r, e, hr, -, -, hconcluded⟩ := hw.exists_result
    obtain ⟨hle, rfl⟩ := hresult _ _ _ hconcluded
    exact ⟨hle, hr⟩
  rcases h.concludes hhas hpos with hw | ⟨hnone, hin, w, hrun, hw, hinw⟩
  · obtain ⟨hle, hr⟩ := hover u hw
    exact ⟨fun r hr' => ⟨hle, Option.some.inj (hr'.symm.trans hr)⟩, fun _ => hr, fun hnone => by
      rw [hr] at hnone
      cases hnone⟩
  · obtain ⟨hle, hr⟩ := hover w hw
    refine ⟨fun r hr' => ?_, fun hlt => ?_, fun _ => ⟨w, hrun, ?_, hr⟩⟩
    · rw [hnone] at hr'
      cases hr'
    · exact absurd hlt (Nat.not_lt_of_le (htime _ hin))
    · exact Nat.le_antisymm (htime _ hinw) hle

/-- There is one execution at most, and none before the call has been heard. -/
theorem Stands.executions_eq {u : Timed Outbound} (h : Stands v u) :
    executions u.state = [] ∧ u.state.workers.result? 0 = none ∨
      ∃ e, executions u.state = [e] ∧ e.id = v.id ∧ e.starts = 1 := by
  cases h with
  | queued => exact .inl ⟨rfl, rfl⟩
  | connecting log => exact .inl ⟨rfl, rfl⟩
  | asking log => exact .inl ⟨rfl, rfl⟩
  | waiting hwaits hold hsince hwait hfinish => exact .inr ⟨v.running, rfl, rfl, rfl⟩
  | returning hwaits hold hfinish =>
    refine .inr ⟨_, rfl, ?_⟩
    split <;> exact ⟨rfl, rfl⟩
  | ended hover =>
    obtain ⟨_, e, -, he, hlaunched, -⟩ := hover.exists_result
    exact .inr ⟨e, he, hlaunched.id_eq, hlaunched.starts⟩

/-- A call that comes back to a node for its result is one plain call of the command, whatever the
node's patience with one request, the call's own with the node, and the sweeps in between: the
handler is started once; if it ends before the time is up, the call returns its outcome at that
very instant, and the execution is out of the table; if it does not, the call returns when the time
is up, and names the id of the execution. The time is up when the budget is, but not before the
first request was answered. -/
theorem wait_loop_eq_one_call {sweeps : List (Nat × Unit)} {u : Timed Outbound}
    (hhas : v.handlers.has v.request.command = true) (hpos : 0 < v.wait)
    (hrun : Runs ⟨v.start, v.submitted⟩ sweeps u) (hquiet : ∀ a ∈ sweeps, a.1 ≠ v.finish) :
    (executions u.state = [] ∧ u.state.workers.result? 0 = none ∨
      ∃ e, executions u.state = [e] ∧ e.id = v.id ∧ e.starts = 1) ∧
    ((∀ b ∈ v.budget, v.finish < v.start + max v.wait b) →
      ReturnsAt u v.finish v.outcome ∧
        ((u.state.workers.result? 0).isSome → ∀ e ∈ executions u.state, e.listed = false)) ∧
    (∀ b ∈ v.budget, v.start + max v.wait b < v.finish →
      ReturnsAt u (v.start + max v.wait b)
        (.error (.reconnectTimeout v.server.name v.id.text b))) := by
  have hstands := Stands.of_run hhas hpos hrun hquiet
  refine ⟨hstands.executions_eq, fun htime => ?_, fun b hb htime => ?_⟩
  · have hresult : ∀ t e r, Concluded v t e r →
        v.finish ≤ t ∧ r = v.outcome ∧ e.listed = false := by
      intro t e r h
      cases h with
      | told hfinish _ hlisted => exact ⟨hfinish, rfl, hlisted⟩
      | gaveUp b hb hlate _ => exact absurd (htime b hb) (Nat.not_lt_of_le hlate)
    refine ⟨hstands.returnsAt hhas hpos (fun t hin => hin.1) fun t e r h =>
      ⟨(hresult t e r h).1, (hresult t e r h).2.1⟩, fun hsome e he => ?_⟩
    rcases hstands.concludes hhas hpos with hover | ⟨hnone, -⟩
    · obtain ⟨r, e', -, heq, -, hconcluded⟩ := hover.exists_result
      rw [heq, List.mem_singleton] at he
      rw [he]
      exact (hresult _ _ _ hconcluded).2.2
    · rw [hnone] at hsome
      cases hsome
  · refine hstands.returnsAt hhas hpos (fun t hin => hin.2 b hb) fun t e r h => ?_
    cases h with
    | told _ hbudget _ => exact absurd htime (Nat.not_lt_of_le (hbudget b hb))
    | gaveUp b' hb' _ hnow =>
      obtain rfl := Option.some.inj (hb.symm.trans hb')
      exact ⟨hnow, rfl⟩

/-- A command that runs for 25 ms on a node that lets a request wait for 10 ms. -/
def slow (budget : Nat) : Visit where
  server := ⟨"localhost:1"⟩
  config := ⟨10, 100⟩
  handlers := [("slow", fun _ => ⟨25, .answers (.serverValue (.nat 1))⟩)]
  ids := .new 0
  layout := .empty
  index := .empty
  request := ⟨"slow", .serverRead, .null, []⟩
  start := 0
  budget := some budget
  workers := 1
  elsewhere := fun _ => .unreachable 0 (.internal "no such server")

/-- With a budget of 30 ms the command returns its value after 25 ms, with one of 15 ms the call
gives up after 15 ms. -/
theorem slow_returns_or_gives_up :
    (∃ w, Runs ⟨0, (slow 30).submitted.sweep 0⟩ [] w ∧ w.now = 25 ∧
      w.state.workers.result? 0 = some (.ok (.serverValue (.nat 1)))) ∧
    ∃ w, Runs ⟨0, (slow 15).submitted.sweep 0⟩ [] w ∧ w.now = 15 ∧
      w.state.workers.result? 0 =
        some (.error (.reconnectTimeout "localhost:1" (IdSupply.name 0 0) 15)) :=
  ⟨((wait_loop_eq_one_call (v := slow 30) rfl (by decide) (Run.start.act ())
      (by decide)).2.1 (by decide)).1.reached rfl,
    ((wait_loop_eq_one_call (v := slow 15) rfl (by decide) (Run.start.act ())
      (by decide)).2.2 15 rfl (by decide)).reached rfl⟩

end Visit

end ScatterSearch
