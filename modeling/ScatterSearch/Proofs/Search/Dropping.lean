import ScatterSearch.Proofs.Merge.Harvest
import ScatterSearch.Proofs.Search.Agreement

/-!
# Searches whose callers go away

A search that ends by itself tells its calls to stop. When its caller goes away, its query is
finished, and that is all (`Coordinator.drop_eq`): its calls have lost their handles, and nobody is
left who could tell them. They keep their workers and their connections until they come to an end of
their own, and one that then has a response gives its connection back to be used again
(`Coordinator.dropped_calls_go_on`).
-/

namespace ScatterSearch

namespace Coordinator

variable {own : List Nat} {place now : Nat} {c c' : Coordinator} {s : Search}
  {m : Merge SearchResults} {table : String} {query : QueryDescriptor} {handles : List CallHandle}
  {stops : Nat → Prop} {rewrites : StatusRegistry → StatusRegistry → Prop}

/-! ## Connections -/

theorem Move.steps (h : Move stops rewrites c c') :
    Outbound.Steps (fun _ => True) c.executor.outbound c'.executor.outbound := by
  cases h with
  | executor steps => exact steps.mono fun _ _ => trivial
  | statuses => exact .refl _
  | launch steps => exact steps.mono fun _ _ => trivial
  | poll now p => exact (steps_pollSearch now p c).mono fun _ _ => trivial
  | drop now p =>
    rw [executor_drop]
    exact .refl _

/-- What a cluster does with its connections is what a workshop does, however it is made use of. -/
theorem mirrored_of_run {cluster : Cluster} {start : Nat} {trace : List (Nat × Deed)}
    {u : Timed Coordinator} (h : Run machine Deed.perform ⟨start, cluster.start⟩ trace u) :
    ∃ w, Workshop.Course cluster.config.workerCount.toNat w ∧
      w.Mirrors u.state.executor.outbound := by
  have hmoves : Moves (fun _ => True) (fun _ _ => True) cluster.start u.state :=
    Moves.of_run (fun _ _ _ => trivial) h fun a _ => by
      cases a.2 <;> first | trivial | exact fun _ => trivial
  exact hmoves.keeps (fun _ _ hmove h => Workshop.Mirrors.steps hmove.steps h)
    ⟨_, .refl, Workshop.mirrors_new _ _⟩

/-! ## The calls of a search -/

/-- Handles hold those of some calls that go on. -/
def Held (own : List Nat) (handles : List CallHandle) (o : Outbound) : Prop :=
  ∀ call ∈ own, ∀ k, o.workers.calls[call]? = some k → k.isFinished = false →
    Executor.Owned handles call

theorem Held.steps {o o' : Outbound} (h : Held own handles o) (hsteps : Outbound.Steps stops o o')
    (huntold : o.Untold own) : Held own handles o' := by
  intro call hcall k' hk' hgoes
  obtain ⟨k, hk, -⟩ := huntold call hcall
  obtain ⟨k'', hk'', hon⟩ := hsteps.goesOn call k hk
  obtain rfl := Option.some.inj (hk''.symm.trans hk')
  exact h call hcall k hk (hon.unfinished hgoes)

/-- The handles of calls that have ended hold nothing that goes on. -/
theorem Held.outstanding {x : Executor} (h : Held own handles x.outbound) :
    Held own (handles.filter fun h => !x.isFinished h) x.outbound :=
  fun call hcall k hk hgoes => (h call hcall k hk hgoes).outstanding hk hgoes

/-- As long as the search at a place has no result, it has the handles of its calls, and nobody told
these to stop. -/
structure Attends (own : List Nat) (place : Nat) (c : Coordinator) : Prop where
  orderly : c.Orderly own place
  search : ∃ s, c.searches[place]? = some s ∧ (s.result? = none →
    c.executor.outbound.Untold own ∧ Held own s.handles c.executor.outbound)

/-- As long as nothing happens to the search itself, it has the same handles. -/
theorem Attends.goes (h : c.Attends own place) (horderly : c'.Orderly own place)
    (hsteps : Outbound.Steps (· ∉ own) c.executor.outbound c'.executor.outbound)
    (hsearch : c'.searches[place]? = c.searches[place]?) : c'.Attends own place := by
  obtain ⟨s, hs, hheld⟩ := h.search
  refine ⟨horderly, s, hsearch.trans hs, fun hresult => ?_⟩
  obtain ⟨huntold, hheld⟩ := hheld hresult
  exact ⟨hsteps.untold (fun _ hcall hnot => hnot hcall) huntold, hheld.steps hsteps huntold⟩

theorem Attends.dropped (h : c.Attends own place) (now : Nat) :
    (c.drop now place).Attends own place := by
  have horderly := h.orderly.dropped now place
  obtain ⟨s, hs, hheld⟩ := h.search
  cases hstage : s.stage with
  | merging m =>
    rw [drop_eq hs hstage] at horderly ⊢
    exact ⟨horderly, _, getElem?_setStage hs _, fun _ => hheld (by rw [Search.result?, hstage])⟩
  | ended | dropped =>
    rw [drop_of_over hs (by simp [hstage])]
    exact h

theorem Attends.look (h : c.Attends own place) (now : Nat) :
    (pollSearch now c place).Attends own place := by
  have horderly := h.orderly.polled now place
  obtain ⟨s, hs, hheld⟩ := h.search
  cases hstage : s.stage with
  | merging m =>
    cases hlook : c.look now s m with
    | waiting m' =>
      rw [pollSearch_waiting hs hstage hlook] at horderly ⊢
      obtain ⟨huntold, hheld⟩ := hheld (by rw [Search.result?, hstage])
      exact ⟨horderly, _, List.getElem?_set_self (List.getElem?_eq_some_iff.1 hs).1,
        fun _ => ⟨huntold, hheld.outstanding⟩⟩
    | ended result =>
      rw [pollSearch_ended hs hstage hlook] at horderly ⊢
      exact ⟨horderly, _, getElem?_setStage hs _, fun hresult =>
        absurd hresult (Option.some_ne_none _)⟩
    | panicked =>
      rw [pollSearch_panicked hs hstage hlook]
      exact h.dropped now
  | ended | dropped =>
    rw [pollSearch_of_over hs (by simp [hstage])]
    exact h

theorem Attends.move (hmove : Move (· ∉ own) rewrites c c') (h : c.Attends own place) :
    c'.Attends own place := by
  obtain ⟨s, hs, -⟩ := h.search
  rcases hmove.of_search (List.getElem?_eq_some_iff.1 hs).1 with hapart | ⟨now, rfl⟩ | ⟨now, rfl⟩
  · exact h.goes (h.orderly.move hmove) (hapart.steps_own h.orderly) hapart.search
  · exact h.look now
  · exact h.dropped now

/-- A search that was dropped tells nobody anything, and so nobody does. -/
theorem Attends.untold (h : c.Attends own place) (hs : c.searches[place]? = some s)
    (hstage : s.stage = .dropped) (hmoves : Moves (· ∉ own) rewrites c c') :
    c.executor.outbound.workers.GoesOn c'.executor.outbound.workers ∧
      c'.executor.outbound.Untold own := by
  have hover : ∀ m, s.stage ≠ .merging m := fun m hm =>
    SearchStage.noConfusion (hstage.symm.trans hm)
  obtain ⟨hon, hattends, hs'⟩ := hmoves.keeps
    (P := fun c' : Coordinator => c.executor.outbound.workers.GoesOn c'.executor.outbound.workers ∧
      c'.Attends own place ∧ c'.searches[place]? = some s)
    (fun _ _ hmove h =>
      ⟨h.1.trans hmove.steps.goesOn, h.2.1.move hmove, hmove.over h.2.2 hover⟩)
    ⟨.refl _, h, hs⟩
  obtain ⟨s', hs'', hheld⟩ := hattends.search
  obtain rfl := Option.some.inj (hs'.symm.trans hs'')
  exact ⟨hon, (hheld (by rw [Search.result?, hstage])).1⟩

/-- A search that was just scattered attends to its calls. -/
theorem attends_search (horderly : c.Orderly [] 0) {args : SearchArguments}
    (hargs : (Wire.decode : Decoder SearchArguments).run query.query = .ok args)
    (hhandles : (c.scattered table query).1 = .ok handles) (now : Nat) :
    (c.search now table query).2.Attends (handles.map (·.call)) c.searches.length := by
  have hlaunched : (c.launched now table query args handles).Attends (handles.map (·.call))
      c.searches.length := by
    refine ⟨orderly_launched horderly hhandles now, _, List.getElem?_concat_length, fun _ =>
      ⟨fun call hcall => ?_, fun call hcall k hk hgoes => ?_⟩⟩
    · obtain ⟨-, terms, request, hget⟩ := new_of_scattered hhandles hcall
      exact ⟨_, hget, rfl, fun h => nomatch h⟩
    · obtain ⟨handle, hmem, rfl⟩ := List.mem_map.1 hcall
      exact ⟨handle, hmem, rfl⟩
  rw [search_of_scattered hargs hhandles]
  exact hlaunched.look now

/-! ## Going away -/

/-- A search was scattered and goes on, whatever became of it and its calls so far; others leave its
calls alone. When its caller goes away, its query is finished and its calls are as they were. None
of them is told to stop then or later, and none is ever aborted; those that come to a response give
their connections back. Had the search ended by itself at this instant, all its calls that go on
would be aborted at their next turn. -/
theorem dropped_calls_go_on {cluster : Cluster} {start : Nat} {before between : List (Nat × Deed)}
    {t u : Timed Coordinator} {args : SearchArguments}
    (hbefore : Run machine Deed.perform ⟨start, cluster.start⟩ before t)
    (hargs : (Wire.decode : Decoder SearchArguments).run query.query = .ok args)
    (hhandles : (t.state.scattered table query).1 = .ok handles)
    (hbetween : Run machine Deed.perform ⟨t.now, (t.state.search t.now table query).2⟩ between u)
    (hothers : ∀ a ∈ between, a.2.Within (· ∉ handles.map (·.call)) fun _ _ => True)
    (hs : u.state.searches[t.state.searches.length]? = some s) (hstage : s.stage = .merging m) :
    (u.state.drop u.now t.state.searches.length).registry =
      u.state.registry.finish u.now s.status ∧
    (u.state.drop u.now t.state.searches.length).executor = u.state.executor ∧
    (∀ after v, Run machine Deed.perform
        ⟨u.now, u.state.drop u.now t.state.searches.length⟩ after v →
      (∀ a ∈ after, a.2.Within (· ∉ handles.map (·.call)) fun _ _ => True) →
      ∀ call ∈ handles.map (·.call), ∃ k k',
        u.state.executor.outbound.workers.calls[call]? = some k ∧
        v.state.executor.outbound.workers.calls[call]? = some k' ∧
        k.GoesOn k' ∧ k'.stopping = false ∧ k'.end? ≠ some .aborted ∧
        (k'.Succeeded → v.state.executor.outbound.dealings call k'.terms.server =
          [.get k'.terms.server, .giveBack k'.terms.server])) ∧
    ∀ result, u.state.look u.now s m = .ended result →
      ∀ call ∈ handles.map (·.call), ∀ k,
        u.state.executor.outbound.workers.calls[call]? = some k → k.isFinished = false →
        ∀ now, ((pollSearch u.now u.state t.state.searches.length).executor.fire
          now).outbound.Stopped call k (u.state.executor.outbound.actions call) := by
  have hrewrites : ∀ r r', StatusRegistry.Operated r r' → True := fun _ _ _ => trivial
  have hattends : u.state.Attends (handles.map (·.call)) t.state.searches.length :=
    (Moves.of_run hrewrites hbetween hothers).keeps (fun _ _ hmove h => h.move hmove)
      (attends_search (orderly_of_run hbefore) hargs hhandles t.now)
  obtain ⟨s', hs', hheld⟩ := hattends.search
  obtain rfl := Option.some.inj (hs'.symm.trans hs)
  obtain ⟨huntold, hheld⟩ := hheld (by rw [Search.result?, hstage])
  have hdropped := drop_eq hs hstage u.now
  refine ⟨by rw [hdropped]; rfl, executor_drop _ _ _, fun after v hafter hothers' => ?after,
    fun result hlook call hcall k hk hgoes now => ?ended⟩
  case after =>
    intro call hcall
    have hplace : (u.state.drop u.now t.state.searches.length).searches[t.state.searches.length]? =
        some { s' with stage := .dropped } := by
      rw [hdropped]
      exact getElem?_setStage hs _
    obtain ⟨hon, huntold'⟩ := (hattends.dropped u.now).untold hplace rfl
      (Moves.of_run hrewrites hafter hothers')
    rw [executor_drop] at hon
    obtain ⟨k', hk', hstopping, haborted⟩ := huntold' call hcall
    obtain ⟨k, hk, -⟩ := huntold call hcall
    obtain ⟨k'', hk'', hgoes⟩ := hon call k hk
    obtain rfl := Option.some.inj (hk''.symm.trans hk')
    refine ⟨k, k'', hk, hk', hgoes, hstopping, haborted, fun hsucceeded => ?_⟩
    have hsearched : Run machine Deed.perform ⟨start, cluster.start⟩ _
        ⟨t.now, (t.state.search t.now table query).2⟩ := hbefore.act (.search table query)
    have hgone : Run machine Deed.perform ⟨start, cluster.start⟩ _
        ⟨u.now, u.state.drop u.now t.state.searches.length⟩ :=
      (hsearched.trans hbetween).act (.drop t.state.searches.length)
    obtain ⟨w, hcourse, hmirrors⟩ := mirrored_of_run (hgone.trans hafter)
    exact (hmirrors.accounted (Workshop.sound_of_course hcourse) hk').eq_of_succeeded hsucceeded
  case ended =>
    have hended := congrArg (fun c : Coordinator => c.searches[t.state.searches.length]?)
      (pollSearch_ended hs hstage hlook)
    exact (calls_of_ended_search hs hstage (hended.trans (getElem?_setStage hs _)) rfl hk).1 hgoes
      (hheld call hcall k hk hgoes) now

/-- A coordinator whose only server takes 10 ms to connect to, and 30 ms to answer. -/
def slow : Cluster :=
  let reply : Nat → RemoteReply := fun _ =>
    ⟨30, fun r => .answers (.ok (.shardValues (r.shards.map (·, .null))))⟩
  { unreachable with routes := [(⟨"x:1"⟩, .remote ⟨10, none, reply, reply⟩)] }

/-- A search there, with the instant when its call has a connection. -/
def slowConnects : Nat × Coordinator :=
  Clock.await machine (fun c => c.executor.outbound.workers.calls.any (·.holdsConnection)) 30 0
    (slow.start.search 0 "docs" rust).2

def slowConnected : Coordinator := slowConnects.2

/-- Its caller goes away. -/
def slowDropped : Coordinator := slowConnected.drop 10 0

/-- What comes of that, with the instant when no call is left. -/
def slowEnds : Nat × Coordinator :=
  Clock.await machine (fun c => c.executor.inFlight == 0) 30 10 slowDropped

def slowEnded : Coordinator := slowEnds.2

/-- The call of the search that was dropped is not told to stop, and gives its connection back. -/
theorem slow_call_goes_on :
    (∃ (s : Search) (m : Merge SearchResults),
      slowConnected.searches[0]? = some s ∧ s.stage = .merging m) ∧
    slowDropped.executor = slowConnected.executor ∧
    ∃ (k k' : Call), slowConnected.executor.outbound.workers.calls[0]? = some k ∧
      slowEnded.executor.outbound.workers.calls[0]? = some k' ∧ k.isFinished = false ∧
      k.GoesOn k' ∧ k'.isFinished = true ∧ k'.stopping = false ∧ k'.end? ≠ some .aborted ∧
      (k'.Succeeded → slowEnded.executor.outbound.dealings 0 k'.terms.server =
        [.get k'.terms.server, .giveBack k'.terms.server]) := by
  have hargs : (Wire.decode : Decoder SearchArguments).run rust.query = .ok ⟨"rust", 10⟩ := by cbv
  have hhandles : (slow.start.scattered "docs" rust).1 = .ok [⟨.shard ⟨"docs", "0"⟩, 0⟩] := by rfl
  have hnow : slowConnects.1 = 10 := by cbv
  have hbetween : Run machine Deed.perform ⟨0, (slow.start.search 0 "docs" rust).2⟩ []
      ⟨10, slowConnected⟩ := hnow ▸ Run.await _ 30 0 _
  have hafter : Run machine Deed.perform ⟨10, slowDropped⟩ [] ⟨slowEnds.1, slowEnded⟩ :=
    Run.await _ 30 10 _
  have hmerging : (slowConnected.searches[0]?.bind Search.deadline?).isSome = true := by cbv
  have hgoes : slowConnected.executor.outbound.workers.calls[0]?.map Call.isFinished =
      some false := by cbv
  have hover : slowEnded.executor.outbound.workers.calls[0]?.map Call.isFinished = some true := by
    cbv
  obtain ⟨s, m, hs, hstage⟩ : ∃ (s : Search) (m : Merge SearchResults),
      slowConnected.searches[0]? = some s ∧ s.stage = .merging m := by
    obtain ⟨deadline, hdeadline⟩ := Option.isSome_iff_exists.1 hmerging
    obtain ⟨s, hs, hstage⟩ := Option.bind_eq_some_iff.1 hdeadline
    rw [Search.deadline?] at hstage
    split at hstage
    · rename_i m hm
      exact ⟨s, m, hs, hm⟩
    · cases hstage
  have hnone : ∀ a ∈ ([] : List (Nat × Deed)),
      a.2.Within (· ∉ [0]) fun _ _ => True := fun _ ha => absurd ha List.not_mem_nil
  obtain ⟨-, hexecutor, hgone, -⟩ := dropped_calls_go_on
    (Run.start : Run machine Deed.perform ⟨0, slow.start⟩ [] _) hargs hhandles hbetween hnone
    hs hstage
  obtain ⟨k, k', hk, hk', hon, hstopping, haborted, hdealings⟩ :=
    hgone [] ⟨slowEnds.1, slowEnded⟩ hafter hnone 0 List.mem_cons_self
  rw [hk] at hgoes
  rw [hk'] at hover
  exact ⟨⟨s, m, hs, hstage⟩, hexecutor, k, k', hk, hk', Option.some.inj hgoes, hon,
    Option.some.inj hover, hstopping, haborted, hdealings⟩

/-- A search that is dropped while it goes on leaves its call behind. The query is over, and all has
happened that is due at that instant, but the call keeps its worker; it has a response 30 ms later,
and gives its connection back to be used again. -/
theorem slow_dropped_leaves_call :
    slowConnects.1 = 10 ∧ (slowConnected.searches[0]?.bind Search.deadline?).isSome = true ∧
    (slowDropped.registry.status? 0).map QueryStatus.state = some .complete ∧
    (Clock.settle machine 10 slowDropped).executor.inFlight = 1 ∧
    Run machine Deed.perform ⟨10, slowDropped⟩ [] ⟨slowEnds.1, slowEnded⟩ ∧ slowEnds.1 = 40 ∧
    slowEnded.executor.outbound.workers.calls.map Call.isFinished = [true] ∧
    slowEnded.executor.outbound.actions 0 = [.connect, .execute, .giveBack] :=
  ⟨by cbv, by cbv, by cbv, by cbv, Run.await _ 30 10 _, by cbv, by cbv, by cbv⟩

end Coordinator

end ScatterSearch
