import ScatterSearch.Proofs.Search.Moves

/-!
# A search and its query

A search registers one query, and the two end alike, whatever comes first: a result, a failure, the
end of its time, somebody who cancels or finishes the query, or a caller who goes away
(`Coordinator.search_agrees_with_status`). `Agrees` says what it is to end alike.

There is one way for a search to report that its work was called off when nobody has called it off:
an attempt to connect to one of its servers may fail with these very words
(`Coordinator.unreachable_reports_cancelled`), and a merge passes on what its calls report. Nothing
else that a call comes to is reported so: a search tells its calls to stop only when it is over, and
nobody else has their handles (`Search.refused_of_ready`).

`Coordinator.Accords` is what every move keeps, `Coordinator.Accords.look` the look at which a
search ends.
-/

namespace ScatterSearch

/-! ## What a look may come to -/

namespace Merge

variable {α π : Type} {acc : Accumulator α π} {now : Nat} {m m' : Merge α}
  {ready : List (Except ClusterError π)} {cancelled : Option CancelReason} {reason : CancelReason}

/-- A look that reports that the work was called off found a result that says so. -/
theorem mem_of_consume (h : m.consume acc now ready = .ended (.error (.cancelled reason))) :
    .error (.cancelled reason) ∈ ready := by
  have hlook := consumed acc now m ready
  rw [h] at hlook
  cases hlook with
  | failed parts e rest => exact List.mem_append_right _ List.mem_cons_self

/-- A query that was cancelled ends its merge, if the merge has something to wait for. -/
theorem poll_of_cancelled (hpending : m.pending ≠ 0) :
    m.poll acc now (some reason) ready = .ended (.error (.cancelled reason)) := if_neg hpending

end Merge

/-- A value that is read out of a response is wrong in some way, but nobody has called it off. -/
theorem Target.cancelled_of_outcome {ν : Type} {t : Target} {server : Server} {value : Decoder ν}
    {called : Except ClusterError Response} {reason : CancelReason}
    (h : t.outcome server value called = .error (.cancelled reason)) :
    called = .error (.cancelled reason) := by
  cases called with
  | error e => exact congrArg _ (Except.error.inj h)
  | ok r =>
    have hpick : ∀ e, t.pick server r = .error e → e ≠ .cancelled reason := by
      intro e he
      cases t with
      | server s =>
        cases r with
        | serverValue value => cases he
        | shardValues values =>
          cases he
          exact ClusterError.noConfusion
      | shard s =>
        cases r with
        | serverValue value =>
          cases he
          exact ClusterError.noConfusion
        | shardValues values =>
          simp only [pick, Response.toShardValues, bind, Except.bind] at he
          split at he
          · cases he
          · rw [← Except.error.inj he]
            exact ClusterError.noConfusion
    change ((t.pick server r).bind fun v => value.ofPayload v) = _ at h
    cases hv : t.pick server r with
    | error e =>
      rw [hv] at h
      exact absurd (Except.error.inj h) (hpick e hv)
    | ok v =>
      rw [hv] at h
      change (value.run v).mapError ClusterError.ofDecode = _ at h
      cases hrun : value.run v with
      | error e =>
        rw [hrun] at h
        cases h
      | ok v' =>
        rw [hrun] at h
        cases h

/-- No search is called off before it is scattered. -/
theorem plan_search_ne_cancelled {l : Layout} {limits : CommandLimits} {table : String}
    {arguments : Json} {reason : CancelReason} :
    (searchCommand table arguments).plan .indexRead limits l ≠ .error (.cancelled reason) := by
  intro h
  rw [Command.plan] at h
  simp only [searchCommand, CommandParts.command, bind, Except.bind] at h
  split at h
  · rename_i e hcheck
    rw [Except.error.inj h, CommandLimits.check.eq_def] at hcheck
    split at hcheck
    · cases hcheck
    · dsimp only at hcheck
      split at hcheck
      · cases hcheck
      · split at hcheck <;> cases hcheck
  · split at h <;> cases h

/-! ## What it is to end alike -/

/-- The result of a search and the state in which its query ended agree. `refused` are the reasons
that an attempt to connect may have given for its failure. -/
structure Agrees (refused : CancelReason → Prop) (result : Except ClusterError SearchResponse)
    (state : QueryState) : Prop where
  terminal : state ≠ .running
  of_cancelled : ∀ reason, state.cancelReason = some reason →
    result = .error (.cancelled reason)
  of_result : ∀ reason, result = .error (.cancelled reason) →
    state.cancelReason = some reason ∨ state = .complete ∧ refused reason
  of_other : (∀ reason, result ≠ .error (.cancelled reason)) → state = .complete

variable {refused refused' : CancelReason → Prop} {result : Except ClusterError SearchResponse}
  {state : QueryState}

theorem Agrees.mono (hrefused : ∀ reason, refused reason → refused' reason)
    (h : Agrees refused result state) : Agrees refused' result state where
  terminal := h.terminal
  of_cancelled := h.of_cancelled
  of_result := fun reason hresult =>
    (h.of_result reason hresult).imp_right (And.imp_right (hrefused reason))
  of_other := h.of_other

theorem agrees_of_complete (h : ∀ reason, result = .error (.cancelled reason) → refused reason) :
    Agrees refused result .complete where
  terminal := QueryState.noConfusion
  of_cancelled := fun _ h => by cases h
  of_result := fun reason hresult => .inr ⟨rfl, h reason hresult⟩
  of_other := fun _ => rfl

theorem agrees_of_cancelled {reason : CancelReason} (h : state.cancelReason = some reason) :
    Agrees refused (.error (.cancelled reason)) state where
  terminal := by
    rintro rfl
    cases h
  of_cancelled := fun reason' h' => by rw [Option.some.inj (h.symm.trans h')]
  of_result := fun reason' h' => .inl (by
    rw [h, ClusterError.cancelled.inj (Except.error.inj h')])
  of_other := fun h => absurd rfl (h reason)

/-- What the stage of a search says of the state of its query: once the search is over, the query
is, and if the search has a result they agree. -/
def SearchStage.Concludes (refused : CancelReason → Prop) (state : QueryState) : SearchStage → Prop
  | .merging _ => True
  | .ended result => Agrees refused result state
  | .dropped => state ≠ .running

namespace Coordinator

open StatusRegistry (Operated)
open QueryStatus (Became registered)

variable {c c' : Coordinator} {now place status started : Nat} {own : List Nat} {table : String}
  {query : QueryDescriptor} {s : Search} {m m' : Merge SearchResults} {q : QueryStatus}
  {first : Option (Nat × QueryState)}

/-- One of some calls ended because the attempt to connect to its server failed, and gave as its
reason that the work was called off. -/
def Refused (own : List Nat) (c : Coordinator) (reason : CancelReason) : Prop :=
  ∃ place ∈ own, ∃ call, c.executor.outbound.workers.calls[place]? = some call ∧
    call.end? = some (.returned (.error (.cancelled reason))) ∧
    c.network.Refuses call.terms.server (.cancelled reason)

theorem Refused.of_steps {stops : Nat → Prop}
    (hsteps : Outbound.Steps stops c.executor.outbound c'.executor.outbound)
    {reason : CancelReason} (h : c.Refused own reason) : c'.Refused own reason := by
  obtain ⟨place, hplace, call, hcall, hend, hrefuses⟩ := h
  obtain ⟨call', hcall', hgoes⟩ := hsteps.goesOn place call hcall
  refine ⟨place, hplace, call', hcall', hgoes.ended _ hend, ?_⟩
  rw [hgoes.terms_eq]
  exact hsteps.refuses.2 hrefuses

/-- What has come for a search is not that its work was called off, unless an attempt to connect has
failed so. -/
theorem refused_of_ready (hcauses : c.executor.outbound.Causes)
    (huntold : c.executor.outbound.Untold own) {handles : List CallHandle}
    (hhandles : ∀ h ∈ handles, h.call ∈ own) {reason : CancelReason}
    (h : .error (.cancelled reason) ∈ c.ready handles) : c.Refused own reason := by
  obtain ⟨handle, hmem, houtcome⟩ := List.mem_filterMap.1 h
  obtain ⟨call, how, hcall, hend, houtcome⟩ := Executor.outcome?_eq_some.1 houtcome
  obtain ⟨call', hcall', -, haborted⟩ := huntold handle.call (hhandles handle hmem)
  obtain rfl := Option.some.inj (hcall.symm.trans hcall')
  have hcalled := Target.cancelled_of_outcome houtcome.symm
  cases how with
  | returned result =>
    obtain rfl : result = .error (.cancelled reason) := hcalled
    exact ⟨handle.call, hhandles handle hmem, call, hcall, hend,
      hcauses.ends handle.call call reason hcall hend⟩
  | panicked message => cases hcalled
  | aborted => exact absurd hend haborted

/-! ## What moves keep -/

/-- What a search is to its query: as long as it merges it has something to wait for, and nobody has
told its calls to stop; then it agrees with the state of its query. -/
def Holds (own : List Nat) (c : Coordinator) (state : QueryState) (stage : SearchStage) : Prop :=
  stage.Concludes (c.Refused own) state ∧
    ∀ m, stage = .merging m → m.pending ≠ 0 ∧ c.executor.outbound.Untold own

/-- The search at a place, its calls, and its query, which is at the place `status` of the registry
since the instant `started`. -/
structure Accords (own : List Nat) (place status started : Nat) (table : String)
    (query : QueryDescriptor) (c : Coordinator) : Prop where
  orderly : c.Orderly own place
  search : ∃ s first q, c.searches[place]? = some s ∧ s.status = status ∧
    (∀ h ∈ s.handles, h.call ∈ own) ∧ c.registry.status? status = some q ∧
    Became (registered status started table query) first q ∧ c.Holds own q.state s.stage

theorem Holds.of_steps {stops : Nat → Prop} (hstops : ∀ call ∈ own, ¬ stops call)
    (hsteps : Outbound.Steps stops c.executor.outbound c'.executor.outbound)
    {state state' : QueryState} {stage : SearchStage} (h : c.Holds own state stage)
    (hstate : state ≠ .running → state' = state) : c'.Holds own state' stage := by
  obtain ⟨hconcludes, hmerging⟩ := h
  refine ⟨?_, fun m hm => ⟨(hmerging m hm).1, hsteps.untold hstops (hmerging m hm).2⟩⟩
  cases stage with
  | merging m => trivial
  | ended result =>
    rw [hstate hconcludes.terminal]
    exact hconcludes.mono fun _ => Refused.of_steps hsteps
  | dropped =>
    have hended : state ≠ .running := hconcludes
    rw [hstate hended]
    exact hended

/-- As long as nothing happens to the search itself, it is to its query what it was. -/
theorem Accords.goes (h : c.Accords own place status started table query)
    (horderly : c'.Orderly own place)
    (hsteps : Outbound.Steps (· ∉ own) c.executor.outbound c'.executor.outbound)
    (hregistry : c.registry.Operated c'.registry)
    (hsearch : c'.searches[place]? = c.searches[place]?) :
    c'.Accords own place status started table query := by
  obtain ⟨s, first, q, hs, hstatus, hhandles, hq, hbecame, hholds⟩ := h.search
  obtain ⟨deeds, hdeeds⟩ := hregistry
  obtain ⟨q', hq', hbecame'⟩ := StatusRegistry.became_after hq hbecame deeds
  refine ⟨horderly, s, _, q', hsearch.trans hs, hstatus, hhandles, hdeeds ▸ hq', hbecame', ?_⟩
  exact hholds.of_steps (fun _ hcall hnot => hnot hcall) hsteps fun hended =>
    (hbecame.stays hended hbecame').1

/-- The query of a search that is over has ended, and as it did before if it had. -/
theorem ended_of_finish (hq : c.registry.status? status = some q)
    (hbecame : Became (registered status started table query) first q) (now : Nat) :
    ∃ first' q', (c.registry.finish now status).status? status = some q' ∧
      Became (registered status started table query) first' q' ∧ q'.state ≠ .running ∧
      (q.state.cancelReason = none → q'.state = .complete) ∧
      (q.state ≠ .running → q'.state = q.state) := by
  obtain ⟨q', hq', hbecame'⟩ := StatusRegistry.became_perform hq hbecame now (.finish status)
  rw [StatusRegistry.Deed.ending, if_pos rfl, Option.map_some] at hbecame'
  refine ⟨_, q', hq', hbecame', ?_⟩
  cases first with
  | none =>
    obtain ⟨hstate, listed, hbecame'⟩ := hbecame'
    rw [hbecame', hbecame]
    exact ⟨hstate, fun _ => rfl, fun hended => absurd rfl hended⟩
  | some ending =>
    obtain ⟨t, state⟩ := ending
    obtain ⟨-, listed, hbecame⟩ := hbecame
    obtain ⟨hstate, listed', hbecame'⟩ := hbecame'
    rw [hbecame', hbecame]
    refine ⟨hstate, fun hreason => ?_, fun _ => rfl⟩
    cases state with
    | running => exact absurd rfl hstate
    | complete => rfl
    | interrupted => cases hreason
    | backPressureInterrupted => cases hreason

/-- The query of a search that is gone has ended. -/
theorem accords_drop (horderly : c.Orderly own place) (hs : c.searches[place]? = some s)
    (hstatus : s.status = status) (hhandles : ∀ h ∈ s.handles, h.call ∈ own)
    (hq : c.registry.status? status = some q)
    (hbecame : Became (registered status started table query) first q)
    (hstage : s.stage = .merging m) (now : Nat) :
    (c.drop now place).Accords own place status started table query := by
  have horderly := horderly.dropped now place
  have hdrop := drop_eq hs hstage now
  obtain ⟨first', q', hq', hbecame', hended, -⟩ := ended_of_finish hq hbecame now
  refine ⟨horderly, { s with stage := .dropped }, first', q', ?_, hstatus, hhandles, ?_, hbecame',
    hended, fun m' hm => by cases hm⟩
  · rw [hdrop]
    exact getElem?_setStage hs _
  · rw [hdrop, ← hstatus] at *
    exact hq'

/-- A search that looks goes on, or ends like its query. It looks first at whether the query was
cancelled; a search without calls is over before that. -/
theorem accords_pollSearch (horderly : c.Orderly own place) (hs : c.searches[place]? = some s)
    (hstatus : s.status = status) (hhandles : ∀ h ∈ s.handles, h.call ∈ own)
    (hq : c.registry.status? status = some q)
    (hbecame : Became (registered status started table query) first q)
    (hstage : s.stage = .merging m) (huntold : c.executor.outbound.Untold own)
    (hpending : m.pending = 0 → q.state.cancelReason = none) (now : Nat) :
    (pollSearch now c place).Accords own place status started table query := by
  have hlt := (List.getElem?_eq_some_iff.1 hs).1
  have hsteps := steps_pollSearch now place c
  have hpolled := horderly.polled now place
  have hreason : (c.registry.status? s.status).bind (·.cancelReason) = q.state.cancelReason := by
    rw [hstatus, hq]
    rfl
  cases hlook : c.look now s m with
  | panicked =>
    rw [pollSearch_panicked hs hstage hlook]
    exact accords_drop horderly hs hstatus hhandles hq hbecame hstage now
  | waiting m' =>
    rw [pollSearch_waiting hs hstage hlook] at hpolled ⊢
    refine ⟨hpolled, _, first, q, List.getElem?_set_self hlt, hstatus, fun h hh => ?_, hq, hbecame,
      trivial, fun m'' hm => ?_⟩
    · exact hhandles h (List.mem_of_mem_filter hh)
    · obtain rfl := SearchStage.merging.inj hm
      exact ⟨(Merge.waiting_of_poll hlook).1, huntold⟩
  | ended result =>
    obtain ⟨first', q', hq', hbecame', hended, hcomplete, hsame⟩ := ended_of_finish hq hbecame now
    rw [pollSearch_ended hs hstage hlook] at hsteps hpolled ⊢
    refine ⟨hpolled, { s with stage := .ended (result.map s.response) }, first', q', ?_, hstatus,
      hhandles, ?_, hbecame', ?_, fun m'' hm => by cases hm⟩
    · exact getElem?_setStage hs _
    · rw [← hstatus] at hq' ⊢
      exact hq'
    rw [look, hreason] at hlook
    cases hcancelled : q.state.cancelReason with
    | some reason =>
      have hrunning : q.state ≠ .running := by
        intro hrun
        rw [hrun] at hcancelled
        cases hcancelled
      have hne : m.pending ≠ 0 := fun hzero => by
        rw [hpending hzero] at hcancelled
        cases hcancelled
      rw [hcancelled, Merge.poll_of_cancelled hne] at hlook
      rw [← MergeProgress.ended.inj hlook]
      exact agrees_of_cancelled (by rw [hsame hrunning, hcancelled])
    | none =>
      rw [hcomplete hcancelled]
      refine agrees_of_complete fun reason hresult => ?_
      rw [hcancelled] at hlook
      cases result with
      | ok outcome => cases hresult
      | error e =>
        obtain rfl : e = .cancelled reason := Except.error.inj hresult
        exact Refused.of_steps hsteps
          (refused_of_ready horderly.causes huntold hhandles (Merge.mem_of_consume hlook))

theorem Accords.look (h : c.Accords own place status started table query) (now : Nat) :
    (pollSearch now c place).Accords own place status started table query := by
  have hsearch := h.search
  obtain ⟨s, first, q, hs, hstatus, hhandles, hq, hbecame, hholds⟩ := hsearch
  cases hstage : s.stage with
  | merging m =>
    obtain ⟨hpending, huntold⟩ := hholds.2 m hstage
    exact accords_pollSearch h.orderly hs hstatus hhandles hq hbecame hstage huntold
      (fun hzero => absurd hzero hpending) now
  | ended | dropped =>
    rw [pollSearch_of_over hs (by simp [hstage])]
    exact h

theorem Accords.dropped (h : c.Accords own place status started table query) (now : Nat) :
    (c.drop now place).Accords own place status started table query := by
  obtain ⟨s, first, q, hs, hstatus, hhandles, hq, hbecame, -⟩ := h.search
  cases hstage : s.stage with
  | merging m => exact accords_drop h.orderly hs hstatus hhandles hq hbecame hstage now
  | ended | dropped =>
    rw [drop_of_over hs (by simp [hstage])]
    exact h

theorem Accords.move (hmove : Move (· ∉ own) Operated c c')
    (h : c.Accords own place status started table query) :
    c'.Accords own place status started table query := by
  obtain ⟨s, -, -, hs, -⟩ := h.search
  rcases hmove.of_search (List.getElem?_eq_some_iff.1 hs).1 with hapart | ⟨now, rfl⟩ | ⟨now, rfl⟩
  · exact h.goes (h.orderly.move hmove) (hapart.steps_own h.orderly) (hapart.registry.elim id id)
      hapart.search
  · exact h.look now
  · exact h.dropped now

/-! ## From start to end -/

/-- The calls of a search that have handles. -/
def ownCalls (c : Coordinator) (table : String) (query : QueryDescriptor) : List Nat :=
  ((c.scattered table query).1.toOption.getD []).map (·.call)

/-- A search that begins accords with its query, which it has just registered. -/
theorem accords_search (horderly : c.Orderly [] 0) {args : SearchArguments}
    (hargs : (Wire.decode : Decoder SearchArguments).run query.query = .ok args) (now : Nat) :
    (c.search now table query).2.Accords (c.ownCalls table query) c.searches.length
      c.registry.records.length now table query := by
  have hsteps : Outbound.Steps (fun _ => False) c.executor.outbound
      (c.scattered table query).2.outbound := Executor.steps_startWithin _ _ _
  cases hhandles : (c.scattered table query).1 with
  | error e =>
    have hown : c.ownCalls table query = [] := by
      rw [ownCalls, hhandles]
      rfl
    rw [hown, search_of_unscattered hargs hhandles]
    have hfresh : (c.setRegistry (c.registry.register now table query)).registry.status?
        c.registry.records.length = some (registered c.registry.records.length now table query) :=
      StatusRegistry.status?_register_self
    have hbecame : Became (registered c.registry.records.length now table query) none
        (registered c.registry.records.length now table query) := rfl
    obtain ⟨first', q', hq', hbecame', -, hcomplete, -⟩ := ended_of_finish hfresh hbecame now
    have horderly' : (((c.scattering now table query).push (c.refused table query e)).finishQuery
        now (c.refused table query e)).Orderly [] c.searches.length := by
      refine ⟨hsteps.causes horderly.causes, (fun call hcall => by cases hcall),
        fun p s' hs' handle hhandle => ?_⟩
      rcases Lists.getElem?_concat hs' with hs | ⟨-, rfl⟩
      · refine ⟨?_, fun _ hmem => by cases hmem⟩
        exact Nat.lt_of_lt_of_le (horderly.handles p s' hs handle hhandle).1 hsteps.length_le
      · cases hhandle
    refine ⟨horderly', c.refused table query e, first', q', List.getElem?_concat_length, rfl,
      (fun h hh => by cases hh), hq', hbecame', ?_, fun m hm => by cases hm⟩
    rw [hcomplete rfl]
    refine agrees_of_complete fun reason hresult => ?_
    -- what keeps a search from being scattered is found before anything is sent
    obtain rfl : e = .cancelled reason := Except.error.inj hresult
    cases hplan : (searchCommand table query.query).plan .indexRead c.executor.limits
        c.executor.layout with
    | error e =>
      rw [scattered, Executor.startWithin_error _ hplan] at hhandles
      rw [Except.error.inj hhandles] at hplan
      exact absurd hplan plan_search_ne_cancelled
    | ok planned =>
      rw [scattered, Executor.startWithin_ok _ hplan] at hhandles
      cases hhandles
  | ok handles =>
    have hown : c.ownCalls table query = handles.map (·.call) := by
      rw [ownCalls, hhandles]
      rfl
    rw [hown, search_of_scattered hargs hhandles]
    have hbecame : Became (registered c.registry.records.length now table query) none
        (registered c.registry.records.length now table query) := rfl
    refine accords_pollSearch (orderly_launched horderly hhandles now)
      List.getElem?_concat_length rfl
      (fun h hh => List.mem_map_of_mem hh) StatusRegistry.status?_register_self hbecame rfl
      (fun call hcall => ?_) (fun _ => rfl) now
    obtain ⟨-, terms, request, hget⟩ := new_of_scattered hhandles hcall
    exact ⟨_, hget, rfl, fun h => by cases h⟩

/-- A search that looks leaves the registry as it is, or finishes its query. -/
theorem registry_pollSearch (hs : c.searches[place]? = some s) (now : Nat) :
    (pollSearch now c place).registry = c.registry ∨
      (pollSearch now c place).registry = c.registry.finish now s.status := by
  rcases pollSearch_cases now c place with
    hover | hgone | ⟨s', m, m', -, -, -, hwaiting⟩ | ⟨s', m, result, hs', -, -, hended⟩
  · exact .inl (by rw [hover])
  · rw [hgone, drop, hs]
    dsimp only
    split
    · exact .inr rfl
    · exact .inl rfl
  · exact .inl (by rw [hwaiting]; rfl)
  · obtain rfl := Option.some.inj (hs.symm.trans hs')
    exact .inr (by rw [hended]; rfl)

/-- A search registers one query, behind those that there are. -/
theorem records_search {args : SearchArguments}
    (hargs : (Wire.decode : Decoder SearchArguments).run query.query = .ok args) (now : Nat) :
    ∃ q, (c.search now table query).2.registry.records = c.registry.records ++ [q] ∧
      q.table = table ∧ q.query = query := by
  have hfinish : ((c.registry.register now table query).finish now
      c.registry.records.length).records = c.registry.records ++
        [(registered c.registry.records.length now table query).moveTo .complete now] :=
    Lists.modify_concat _ _ _
  cases hhandles : (c.scattered table query).1 with
  | error e =>
    rw [search_of_unscattered hargs hhandles]
    exact ⟨_, hfinish, rfl, rfl⟩
  | ok handles =>
    rw [search_of_scattered hargs hhandles]
    obtain ⟨s, hs, hstatus⟩ : ∃ s,
        (c.launched now table query args handles).searches[c.searches.length]? = some s ∧
          s.status = c.registry.records.length := ⟨_, List.getElem?_concat_length, rfl⟩
    rcases registry_pollSearch hs now with hsame | hfinished
    · rw [hsame]
      exact ⟨_, rfl, rfl, rfl⟩
    · rw [hfinished, hstatus]
      exact ⟨_, hfinish, rfl, rfl⟩

/-- A search and its query agree, whatever its calls come to and whatever others do meanwhile, if
they leave the search's calls alone and do with the registry only what can be done with it. A query
that is no search is refused and leaves no trace. Any other search registers one query; when the
search is over, by a result or because its caller went away or it panicked, the query has ended, and
its result says how: that it was called off for a reason if the query was cancelled for it, and
otherwise only if an attempt to connect for one of its calls failed for that very reason. -/
theorem search_agrees_with_status {cluster : Cluster} {start : Nat}
    {before after : List (Nat × Deed)} {t u : Timed Coordinator}
    (hbefore : Run machine Deed.perform ⟨start, cluster.start⟩ before t)
    (hafter : Run machine Deed.perform ⟨t.now, (t.state.search t.now table query).2⟩ after u)
    (hothers : ∀ a ∈ after, a.2.Within (· ∉ t.state.ownCalls table query) Operated) :
    (∀ e, (Wire.decode : Decoder SearchArguments).run query.query = .error e →
      let (place, refused) := t.state.search t.now table query
      refused.result? place = some (.error (.rejected Builtin.searchCommand e.message)) ∧
        refused.registry = t.state.registry) ∧
    ∀ args, (Wire.decode : Decoder SearchArguments).run query.query = .ok args →
      (∃ q, (t.state.search t.now table query).2.registry.records =
        t.state.registry.records ++ [q] ∧ q.table = table ∧ q.query = query) ∧
      ∃ s q, u.state.searches[(t.state.search t.now table query).1]? = some s ∧
        u.state.registry.status? t.state.registry.records.length = some q ∧
        q.table = table ∧ q.query = query ∧
        s.stage.Concludes (u.state.Refused (t.state.ownCalls table query)) q.state := by
  refine ⟨fun e he => ?_, fun args hargs => ⟨records_search hargs t.now, ?_⟩⟩
  · rw [search_of_undecoded he]
    refine ⟨?_, rfl⟩
    rw [result?, push, List.getElem?_concat_length]
    rfl
  · have haccords : (t.state.search t.now table query).2.Accords (t.state.ownCalls table query)
        t.state.searches.length t.state.registry.records.length t.now table query :=
      accords_search (orderly_of_run hbefore) hargs t.now
    obtain ⟨-, s, first, q, hs, -, -, hq, hbecame, hconcludes, -⟩ :=
      (Moves.of_run (fun _ _ h => h) hafter hothers).keeps (fun _ _ hmove h => h.move hmove)
        haccords
    rw [search_fst]
    refine ⟨s, q, hs, hq, ?_, ?_, hconcludes⟩
    · exact hbecame.table_eq
    · exact hbecame.query_eq

/-- What somebody does who cancels a query by table and uuid. -/
def cancelled (now : Nat) (table uuid : String) : Deed :=
  .statuses fun m => { m with registry := (m.registry.cancel now table uuid).2 }

/-- The two nodes of `pair` while a search of them is cancelled, before the second has answered. -/
def pairCancelled : Nat × Coordinator :=
  Clock.await machine (fun c => (c.result? 0).isSome) 30 0
    ((cancelled 0 "t" "q").perform 0 (pairFiled.search 0 "t" redOrBlue).2)

/-- A search that somebody cancels says so, and its query is interrupted. -/
theorem pair_cancelled_agrees :
    pairCancelled.2.result? 0 = some (.error (.cancelled .user)) ∧
      (pairCancelled.2.registry.status? 0).map (·.state) = some .interrupted ∧
      ∃ s q, pairCancelled.2.searches[0]? = some s ∧
        pairCancelled.2.registry.status? 0 = some q ∧
        s.stage.Concludes (pairCancelled.2.Refused (pairFiled.ownCalls "t" redOrBlue)) q.state := by
  have hbefore : Run machine Deed.perform ⟨0, pair.start⟩ pairTrace ⟨0, pairFiled⟩ :=
    (((Run.start.act _).act _).act _).act _
  have hafter : Run machine Deed.perform ⟨0, (pairFiled.search 0 "t" redOrBlue).2⟩
      [(0, cancelled 0 "t" "q")] ⟨pairCancelled.1, pairCancelled.2⟩ :=
    (Run.start.act (cancelled 0 "t" "q")).trans (Run.await _ 30 0 _)
  have hothers : ∀ a ∈ [((0 : Nat), cancelled 0 "t" "q")],
      a.2.Within (· ∉ pairFiled.ownCalls "t" redOrBlue) Operated := by
    intro a ha
    rw [List.mem_singleton.1 ha]
    exact fun m => StatusRegistry.operated_perform 0 (.cancel "t" "q")
  have hargs : ∃ args, (Wire.decode : Decoder SearchArguments).run redOrBlue.query = .ok args :=
    ⟨⟨"red blue", 2⟩, by cbv⟩
  have hplace : (pairFiled.search 0 "t" redOrBlue).1 = 0 := by
    rw [search_fst]
    rfl
  obtain ⟨args, hargs⟩ := hargs
  obtain ⟨-, s, q, hs, hq, -, -, hconcludes⟩ :=
    (search_agrees_with_status hbefore hafter hothers).2 args hargs
  rw [hplace] at hs
  exact ⟨by cbv, by cbv, s, q, hs, hq, hconcludes⟩

/-- A coordinator whose only server cannot be reached: the attempt to connect fails as if a user had
cancelled the query. -/
def unreachable : Cluster where
  members := []
  routes := [(⟨"x:1"⟩, .remote (.unreachable 0 (.cancelled .user)))]
  elsewhere := fun _ => .unreachable 0 (.internal "no such server")
  layout := .ofAssignments [(⟨"x:1"⟩, [⟨"docs", "0"⟩])]
  config := ⟨2, none, 1000⟩
  statuses := .new 0 0

/-- A search for one word. -/
def rust : QueryDescriptor :=
  { QueryDescriptor.named "q" with query := .obj [("text", .str "rust")] }

/-- What comes of the search if nobody does anything. -/
def unreachableSearched : Nat × Coordinator :=
  Clock.await machine (fun c => (c.result? 0).isSome) 30 0
    (unreachable.start.search 0 "docs" rust).2

/-- A search may say that its user cancelled it when nobody has, and its query is complete. -/
theorem unreachable_reports_cancelled :
    Run machine Deed.perform ⟨0, (unreachable.start.search 0 "docs" rust).2⟩ []
        ⟨unreachableSearched.1, unreachableSearched.2⟩ ∧
      unreachableSearched.2.result? 0 = some (.error (.cancelled .user)) ∧
      (unreachableSearched.2.registry.status? 0).map (·.state) = some .complete :=
  ⟨Run.await _ 30 0 _, by cbv, by cbv⟩

end Coordinator

end ScatterSearch
