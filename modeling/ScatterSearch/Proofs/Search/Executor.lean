import ScatterSearch.Proofs.Scatter.Reads
import ScatterSearch.Proofs.Search.Cluster

/-!
# The executor of a coordinator

Whatever a coordinator goes through, its executor goes through a run of its own
(`Coordinator.executor_run`). Searches start calls and cancel them, and what is done to nodes is
something that happens on the network. So what holds of all runs of executors holds of the executor
of a coordinator, whatever searches there are.
-/

namespace ScatterSearch

namespace Executor

variable {now : Nat} {x x' x'' : Executor}

/-- At an instant an executor can become another one. -/
def Leads (now : Nat) (x x' : Executor) : Prop :=
  ∃ trace, Run machine Deed.perform ⟨now, x⟩ trace ⟨now, x'⟩

theorem Leads.refl (now : Nat) (x : Executor) : x.Leads now x := ⟨[], .start⟩

theorem Leads.trans (h : x.Leads now x') (h' : x'.Leads now x'') : x.Leads now x'' := by
  obtain ⟨trace, hrun⟩ := h
  obtain ⟨trace', hrun'⟩ := h'
  exact ⟨_, hrun.trans hrun'⟩

/-- What leads on from the end of a run is a run. -/
theorem Leads.after (h : x.Leads now x') {t : Timed Executor} {trace : List (Nat × Deed)}
    (hrun : Run machine Deed.perform t trace ⟨now, x⟩) :
    ∃ trace', Run machine Deed.perform t trace' ⟨now, x'⟩ := by
  obtain ⟨more, hmore⟩ := h
  exact ⟨_, hrun.trans hmore⟩

theorem leads_perform (d : Deed) : x.Leads now (d.perform now x) := ⟨_, Run.start.act d⟩

theorem leads_cancelAll (handles : List CallHandle) : x.Leads now (handles.foldl cancel x) :=
  List.foldlRecOn _ _ (.refl now x) fun _ hleads h _ => hleads.trans (leads_perform (.cancel h))

theorem leads_settle : x.Leads now (Clock.settle machine now x) := ⟨[], Run.settle now x⟩

end Executor

namespace Coordinator

variable {now : Nat} {c : Coordinator}

/-! ## One step -/

theorem leads_pollSearch (place : Nat) :
    c.executor.Leads now (pollSearch now c place).executor := by
  rcases executor_pollSearch now c place with hsame | ⟨s, -, hstopped⟩
  · rw [hsame]
    exact .refl now _
  · rw [hstopped]
    exact Executor.leads_cancelAll _

theorem leads_pollAll : c.executor.Leads now (c.pollAll now).executor :=
  keeps_pollAll (P := fun c' => c.executor.Leads now c'.executor)
    (fun _ place h => h.trans (leads_pollSearch place)) (.refl now _)

theorem leads_fire : c.executor.Leads now (c.fire now).executor := by
  have hsettle : c.executor.Leads now (c.settle now).executor := by
    rw [settle]
    split
    · exact .refl now _
    · exact Executor.leads_settle
  rw [fire_eq_settle]
  exact hsettle.trans leads_pollAll

theorem leads_search (table : String) (query : QueryDescriptor) :
    c.executor.Leads now (c.search now table query).2.executor := by
  have hscattered : c.executor.Leads now (c.scattered table query).2 :=
    Executor.leads_perform (.start _ .indexRead (searchCommand table query.query))
  rcases search_cases c now table query with
    ⟨-, -, -, hsame | hsame⟩ | ⟨args, handles, -, -, hlaunched⟩
  · rw [hsame]
    exact .refl now _
  · rw [hsame]
    exact hscattered
  · rw [hlaunched]
    exact hscattered.trans (leads_pollSearch (c := c.launched now table query args handles) _)

theorem leads_drop (place : Nat) : c.executor.Leads now (c.drop now place).executor := by
  rw [drop]
  split
  · split <;> exact .refl now _
  · exact .refl now _

theorem leads_setNetwork (change : Network → Network) :
    c.executor.Leads now (c.setNetwork (change c.network)).executor :=
  Executor.leads_perform (.disturb change)

theorem leads_perform (d : Deed) : c.executor.Leads now (d.perform now c).executor := by
  cases d with
  | search table query => exact leads_search table query
  | drop place => exact leads_drop place
  | statuses change => exact .refl now _
  | read kind allOrNothing command value =>
    exact Executor.leads_perform (.read kind allOrNothing command value)
  | cancel handle => exact Executor.leads_perform (.cancel handle)
  | layouts layout =>
    have hassign : c.executor.Leads now { c.executor with layout } :=
      Executor.leads_perform (.assign layout)
    exact hassign.trans (leads_setNetwork (c := c.setExecutor { c.executor with layout })
      fun n => { n with hosts := n.hosts.map fun h => { h with layout } })
  | node place d =>
    exact leads_setNetwork fun n => { n with hosts := n.hosts.modify place fun h =>
      { h with manager := d.perform now h.manager } }
  | start place =>
    exact leads_setNetwork fun n => { n with hosts := n.hosts.modify place fun h =>
      { h with manager := h.manager.start now } }
  | shutdown place =>
    exact leads_setNetwork fun n => { n with hosts := n.hosts.modify place fun h =>
      { h with manager := h.manager.shutdown } }
  | index place f =>
    exact leads_setNetwork fun n => { n with hosts := n.hosts.modify place (Host.file f) }

/-- The coordinator is due no later than its executor. -/
theorem due_le {d : Nat} (hd : c.executor.due = some d) : ∃ d', c.due = some d' ∧ d' ≤ d := by
  rw [due]
  split
  · exact ⟨0, rfl, Nat.zero_le d⟩
  · have hmem : d ∈ c.searchDue.toList ++ c.executor.due.toList ++ c.statuses.due.toList := by
      simp [hd]
    obtain ⟨d', hd'⟩ := List.isSome_min?_of_mem hmem |> Option.isSome_iff_exists.1
    exact ⟨d', hd', (List.min?_eq_some_iff.1 hd').2 d hmem⟩

/-! ## Runs -/

/-- Whatever a coordinator goes through, its executor goes through a run of its own. -/
theorem executor_run {t u : Timed Coordinator} {trace : List (Nat × Deed)}
    (h : Run machine Deed.perform t trace u) :
    ∃ trace', Run Executor.machine Executor.Deed.perform ⟨t.now, t.state.executor⟩ trace'
      ⟨u.now, u.state.executor⟩ := by
  refine h.invariant (I := fun _ u => ∃ trace',
    Run Executor.machine Executor.Deed.perform ⟨t.now, t.state.executor⟩ trace'
      ⟨u.now, u.state.executor⟩) ⟨[], .start⟩ ?fire ?pass ?act
  case fire =>
    rintro _ u due ⟨trace', hrun⟩ - -
    exact leads_fire.after hrun
  case pass =>
    rintro _ u later ⟨trace', hrun⟩ hle hdue
    refine ⟨trace', hrun.pass hle fun d hd => ?_⟩
    obtain ⟨d', hd', hle'⟩ := due_le hd
    exact Nat.le_trans (hdue d' hd') hle'
  case act =>
    rintro _ u d ⟨trace', hrun⟩
    exact (leads_perform d).after hrun

end Coordinator

end ScatterSearch
