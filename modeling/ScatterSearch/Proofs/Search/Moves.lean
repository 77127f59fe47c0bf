import ScatterSearch.Proofs.Call.Steps
import ScatterSearch.Proofs.Query.Lifecycle
import ScatterSearch.Proofs.Query.Visibility
import ScatterSearch.Proofs.Scatter.Reads
import ScatterSearch.Proofs.Search.Central

/-!
# A coordinator move by move

What a coordinator goes through is made of a few kinds of moves (`Coordinator.Move`): its calls make
steps, its registry changes, a search begins whose calls were just submitted, one search looks, and
one is dropped. `Coordinator.moves_fire` and `Coordinator.moves_perform` take apart what happens by
itself and what others do; `Coordinator.Move.of_search` says what a move is for one search.

Two things are left open: which calls may be told to stop (`stops`), and how the registry may change
(`rewrites`). Where only the registry's own operations are used, it is `StatusRegistry.Operated`.

All moves keep a coordinator `Orderly`: the handles of searches are for calls that there are, and
some calls have no handle in other searches than one.
-/

namespace ScatterSearch

/-! ## Registries -/

/-- A registry came of another one by some deeds. -/
def StatusRegistry.Operated (r r' : StatusRegistry) : Prop :=
  ∃ deeds : List (Nat × StatusRegistry.Deed), r' = r.after deeds

namespace StatusRegistry

variable {r r' r'' : StatusRegistry}

theorem Operated.refl (r : StatusRegistry) : r.Operated r := ⟨[], rfl⟩

theorem Operated.trans (h : r.Operated r') (h' : r'.Operated r'') : r.Operated r'' := by
  obtain ⟨deeds, rfl⟩ := h
  obtain ⟨more, rfl⟩ := h'
  exact ⟨deeds ++ more, after_append.symm⟩

/-- A deed is an operation. -/
theorem operated_perform (now : Nat) (d : Deed) : r.Operated (d.perform now r) := ⟨[(now, d)], rfl⟩

end StatusRegistry

/-- What a registry does by itself is no more than what can be done with it. -/
theorem StatusMonitor.operated_fire (now : Nat) (m : StatusMonitor) :
    m.registry.Operated (m.fire now).registry :=
  registry_fire (P := m.registry.Operated)
    (fun _ d h => h.trans (StatusRegistry.operated_perform now d)) (.refl _)

/-! ## Executors -/

namespace Executor

variable {stops : Nat → Prop} {x : Executor}

/-- To submit calls is some steps. -/
theorem steps_submitted (budget : Option Nat) (planned : List PlannedCall) (o : Outbound) :
    Outbound.Steps stops o (submitted budget planned o).2 := by
  induction planned using List.reverseRecOn with
  | nil => exact .refl o
  | append_singleton planned p ih =>
    rw [submitted_concat]
    exact ih.trans (Outbound.Step.submit _ _).steps

/-- To start calls is some steps. -/
theorem steps_startWithin (budget : Option Nat) (kind : CommandKind) (c : Command) :
    Outbound.Steps stops x.outbound (x.startWithin budget kind c).2.outbound := by
  cases hplan : c.plan kind x.limits x.layout with
  | error e =>
    rw [startWithin_error _ hplan]
    exact .refl _
  | ok planned =>
    rw [startWithin_ok _ hplan]
    exact steps_submitted budget planned _

/-- To cancel handles is some steps, of those who may stop these calls. -/
theorem steps_cancelAll {handles : List CallHandle} (h : ∀ h ∈ handles, stops h.call) :
    Outbound.Steps stops x.outbound (handles.foldl cancel x).outbound :=
  List.foldlRecOn _ _
    (motive := fun x' : Executor => Outbound.Steps stops x.outbound x'.outbound) (.refl _)
    fun _ hsteps call hcall => hsteps.trans (Outbound.Step.requestStop (h call hcall)).steps

/-- The turns of an executor at an instant are steps. -/
theorem steps_settle (now : Nat) (x : Executor) :
    Outbound.Steps stops x.outbound (Clock.settle machine now x).outbound :=
  Clock.keeps_settle (P := fun x' : Executor => Outbound.Steps stops x.outbound x'.outbound)
    (fun now x' h => h.trans (outbound_fire (x := x') ▸ Outbound.steps_fire now x'.outbound))
    (.refl _)

/-- Handles are for the calls that were submitted with them. -/
theorem call_of_startWithin {budget : Option Nat} {kind : CommandKind} {c : Command}
    {handles : List CallHandle} (h : (x.startWithin budget kind c).1 = .ok handles)
    {handle : CallHandle} (hmem : handle ∈ handles) :
    ∃ terms request, x.outbound.workers.calls.length ≤ handle.call ∧
      (x.startWithin budget kind c).2.outbound.workers.calls[handle.call]? =
        some (.new terms request) := by
  cases hplan : c.plan kind x.limits x.layout with
  | error e =>
    rw [startWithin_error _ hplan] at h
    cases h
  | ok planned =>
    rw [startWithin_ok _ hplan] at h ⊢
    obtain rfl := Except.ok.inj h
    obtain ⟨earlier, p, later, hplanned, -, -, hcall⟩ :=
      get?_submitted.1 (mem_handed.1 hmem)
    refine ⟨⟨p.server, budget⟩, p.request, ?_, ?_⟩
    · rw [hcall]
      exact Nat.le_add_right _ _
    · rw [hcall]
      exact getElem?_submitted budget x.outbound hplanned

end Executor

/-! ## Moves -/

namespace Coordinator

variable {stops : Nat → Prop} {rewrites : StatusRegistry → StatusRegistry → Prop}
  {c c' : Coordinator} {now : Nat}

/-- How many calls were ever made. -/
def callCount (c : Coordinator) : Nat := c.executor.outbound.workers.calls.length

/-- What can happen to a coordinator at once. -/
inductive Move (stops : Nat → Prop) (rewrites : StatusRegistry → StatusRegistry → Prop)
    (c : Coordinator) : Coordinator → Prop where
  | executor {x : Executor} (steps : Outbound.Steps stops c.executor.outbound x.outbound) :
      Move stops rewrites c (c.setExecutor x)
  | statuses {m : StatusMonitor} (rewritten : rewrites c.registry m.registry) :
      Move stops rewrites c { c with statuses := m }
  /-- a search begins, whose handles are for new calls -/
  | launch {x : Executor} {s : Search}
      (steps : Outbound.Steps (fun _ => False) c.executor.outbound x.outbound)
      (fresh : ∀ h ∈ s.handles, c.callCount ≤ h.call ∧ h.call < (c.setExecutor x).callCount) :
      Move stops rewrites c ((c.setExecutor x).push s)
  | poll (now place : Nat) : Move stops rewrites c (pollSearch now c place)
  | drop (now place : Nat) : Move stops rewrites c (c.drop now place)

/-- Any number of moves. -/
def Moves (stops : Nat → Prop) (rewrites : StatusRegistry → StatusRegistry → Prop) :
    Coordinator → Coordinator → Prop := Relation.ReflTransGen (Move stops rewrites)

theorem Moves.refl (c : Coordinator) : Moves stops rewrites c c := Relation.ReflTransGen.refl

/-- One move is some moves. -/
theorem Move.moves (h : Move stops rewrites c c') : Moves stops rewrites c c' :=
  Relation.ReflTransGen.single h

theorem Moves.trans {c'' : Coordinator} (h : Moves stops rewrites c c')
    (h' : Moves stops rewrites c' c'') : Moves stops rewrites c c'' :=
  Relation.ReflTransGen.trans h h'

/-- What every move keeps is kept by any number of them. -/
theorem Moves.keeps {P : Coordinator → Prop}
    (move : ∀ c c', Move stops rewrites c c' → P c → P c') (h : Moves stops rewrites c c')
    (hc : P c) : P c' := by
  induction h with
  | refl => exact hc
  | tail _ hmove ih => exact move _ _ hmove ih

/-! ### What is made of moves -/

/-- The looks of all searches are moves. -/
theorem moves_pollAll (now : Nat) (c : Coordinator) : Moves stops rewrites c (c.pollAll now) :=
  keeps_pollAll (fun _ place h => h.trans (Move.poll now place).moves) (.refl c)

/-- The turn of a coordinator is some moves. -/
theorem moves_fire (hrewrites : ∀ r r', r.Operated r' → rewrites r r') (now : Nat)
    (c : Coordinator) : Moves stops rewrites c (c.fire now) := by
  rw [fire_eq_settle]
  refine Moves.trans ?_ (moves_pollAll now _)
  rw [settle]
  split
  · exact .refl c
  · have hexecutor : Moves stops rewrites c
        (c.setExecutor (Clock.settle Executor.machine now c.executor)) :=
      (Move.executor (Executor.steps_settle now c.executor)).moves
    refine hexecutor.trans (Move.statuses (hrewrites _ _ ?_)).moves
    split
    · exact StatusMonitor.operated_fire now _
    · exact .refl _

/-- Whether a deed tells only such calls to stop and changes a registry only in such a way. -/
def Deed.Within (stops : Nat → Prop) (rewrites : StatusRegistry → StatusRegistry → Prop) :
    Deed → Prop
  | .cancel h => stops h.call
  | .statuses change => ∀ m : StatusMonitor, rewrites m.registry (change m).registry
  | _ => True

/-- A search that is over when it begins. -/
def refused (c : Coordinator) (table : String) (query : QueryDescriptor) (e : ClusterError) :
    Search :=
  ⟨table, query, 0, c.registry.records.length, [], .ended (.error e)⟩

/-- A coordinator that has registered a query and scattered it. -/
def scattering (c : Coordinator) (now : Nat) (table : String) (query : QueryDescriptor) :
    Coordinator :=
  (c.setRegistry (c.registry.register now table query)).setExecutor (c.scattered table query).2

variable {table : String} {query : QueryDescriptor}

/-- A query that is no search is refused, and nothing else happens. -/
theorem search_of_undecoded {e : DecodeError}
    (h : (Wire.decode : Decoder SearchArguments).run query.query = .error e) :
    c.search now table query = (c.searches.length,
      c.push (c.refused table query (.rejected Builtin.searchCommand e.message))) := by
  simp only [search, h]
  rfl

/-- A search that cannot be scattered is over, and so is its query. -/
theorem search_of_unscattered {args : SearchArguments} {e : ClusterError}
    (hargs : (Wire.decode : Decoder SearchArguments).run query.query = .ok args)
    (h : (c.scattered table query).1 = .error e) :
    (c.search now table query).2 =
      ((c.scattering now table query).push (c.refused table query e)).finishQuery now
        (c.refused table query e) := by
  have hscattered := h
  rw [scattered, searchCommand] at hscattered
  simp only [search, hargs, setRegistry, hscattered]
  rfl

/-- A search whose calls were started is launched, and looks once. -/
theorem search_of_scattered {args : SearchArguments} {handles : List CallHandle}
    (hargs : (Wire.decode : Decoder SearchArguments).run query.query = .ok args)
    (h : (c.scattered table query).1 = .ok handles) :
    (c.search now table query).2 =
      pollSearch now (c.launched now table query args handles) c.searches.length := by
  have hscattered := h
  rw [scattered, searchCommand] at hscattered
  simp only [search, hargs, setRegistry, hscattered]
  rfl

/-- The calls of a search are new. -/
theorem fresh_of_scattered {handles : List CallHandle}
    (h : (c.scattered table query).1 = .ok handles)
    {handle : CallHandle} (hmem : handle ∈ handles) :
    c.callCount ≤ handle.call ∧
      handle.call < (c.setExecutor (c.scattered table query).2).callCount := by
  obtain ⟨terms, request, hle, hcall⟩ := Executor.call_of_startWithin h hmem
  exact ⟨hle, (List.getElem?_eq_some_iff.1 hcall).1⟩

/-- The start of a search is some moves. -/
theorem moves_search (hrewrites : ∀ r r', r.Operated r' → rewrites r r') (now : Nat)
    (c : Coordinator) (table : String) (query : QueryDescriptor) :
    Moves stops rewrites c (c.search now table query).2 := by
  have hregister : Moves stops rewrites c
      (c.setRegistry (c.registry.register now table query)) :=
    (Move.statuses (hrewrites _ _
      (StatusRegistry.operated_perform now (.register table query)))).moves
  have hsteps : Outbound.Steps (fun _ => False) c.executor.outbound
      (c.scattered table query).2.outbound := Executor.steps_startWithin _ _ _
  cases hargs : (Wire.decode : Decoder SearchArguments).run query.query with
  | error e =>
    have hlaunch : Move stops rewrites c
        (c.push (c.refused table query (.rejected Builtin.searchCommand e.message))) :=
      .launch (x := c.executor) (.refl _) fun _ hh => nomatch hh
    rw [search_of_undecoded hargs]
    exact hlaunch.moves
  | ok args =>
    cases hhandles : (c.scattered table query).1 with
    | error e =>
      rw [search_of_unscattered hargs hhandles]
      have hlaunch : Move stops rewrites (c.setRegistry (c.registry.register now table query))
          ((c.scattering now table query).push (c.refused table query e)) :=
        .launch hsteps fun _ hh => nomatch hh
      exact (hregister.trans hlaunch.moves).trans (Move.statuses (hrewrites _ _
        (StatusRegistry.operated_perform now (.finish _)))).moves
    | ok handles =>
      rw [search_of_scattered hargs hhandles]
      have hlaunch : Move stops rewrites (c.setRegistry (c.registry.register now table query))
          (c.launched now table query args handles) :=
        .launch hsteps fun h hh => fresh_of_scattered hhandles hh
      exact (hregister.trans hlaunch.moves).trans (Move.poll now _).moves

/-- Whatever is done is some moves, within what is allowed. -/
theorem moves_perform (hrewrites : ∀ r r', r.Operated r' → rewrites r r') {d : Deed}
    (hd : d.Within stops rewrites) (now : Nat) (c : Coordinator) :
    Moves stops rewrites c (d.perform now c) := by
  -- hosts and layouts change, the calls do not
  have hosts (x : Executor) (hosts : List Host) (hcalls : x.outbound =
      { c.executor.outbound with network := { c.network with hosts } }) :
      Moves stops rewrites c (c.setExecutor x) := by
    refine (Move.executor ?_).moves
    rw [hcalls]
    exact (Outbound.Step.network (Network.keeps_hosts hosts)).steps
  cases d with
  | search table query => exact moves_search hrewrites now c table query
  | drop place => exact (Move.drop now place).moves
  | statuses change => exact (Move.statuses (hd c.statuses)).moves
  | read kind allOrNothing command value =>
    exact (Move.executor (x := (c.executor.read kind allOrNothing command value).2)
      (Executor.steps_startWithin c.executor.budget kind command)).moves
  | cancel h =>
    exact (Move.executor (x := c.executor.cancel h) (Outbound.Step.requestStop hd).steps).moves
  | layouts layout => exact hosts _ _ rfl
  | node place d => exact hosts _ _ rfl
  | start place => exact hosts _ _ rfl
  | shutdown place => exact hosts _ _ rfl
  | index place f => exact hosts _ _ rfl

/-- What every move keeps is kept in every run, if others keep to what they may do. -/
theorem Moves.of_run (hrewrites : ∀ r r', r.Operated r' → rewrites r r')
    {trace : List (Nat × Deed)} {t u : Timed Coordinator} (h : Run machine Deed.perform t trace u)
    (hothers : ∀ a ∈ trace, a.2.Within stops rewrites) :
    Moves stops rewrites t.state u.state := by
  induction h with
  | start => exact .refl _
  | fire _ _ _ ih => exact (ih hothers).trans (moves_fire hrewrites _ _)
  | pass _ _ _ ih => exact ih hothers
  | act d _ ih =>
    refine (ih fun a ha => hothers a (List.mem_append_left _ ha)).trans ?_
    exact moves_perform hrewrites
      (hothers _ (List.mem_append_right _ (List.mem_singleton.2 rfl))) _ _

/-! ### One look -/

/-- A search that looks only tells its own calls to stop. -/
theorem steps_pollSearch (now place : Nat) (c : Coordinator) :
    Outbound.Steps (fun call => ∃ s, c.searches[place]? = some s ∧ ∃ h ∈ s.handles, h.call = call)
      c.executor.outbound (pollSearch now c place).executor.outbound := by
  rcases executor_pollSearch now c place with hsame | ⟨s, hs, hstopped⟩
  · rw [hsame]
    exact .refl _
  · rw [hstopped]
    exact Executor.steps_cancelAll fun h hh => ⟨s, hs, h, List.mem_of_mem_filter hh, rfl⟩

/-- A search that is gone at most finishes its query. -/
theorem operated_drop (now place : Nat) (c : Coordinator) :
    c.registry.Operated (c.drop now place).registry := by
  rw [drop]
  split
  · split
    · exact StatusRegistry.operated_perform now (.finish _)
    · exact .refl _
  · exact .refl _

/-- A search that looks at most finishes its query. -/
theorem operated_pollSearch (now place : Nat) (c : Coordinator) :
    c.registry.Operated (pollSearch now c place).registry := by
  rcases pollSearch_cases now c place with
    hover | hgone | ⟨s, m, m', -, -, -, hwaiting⟩ | ⟨s, m, result, -, -, -, hended⟩
  · rw [hover]
    exact .refl _
  · rw [hgone]
    exact operated_drop now place c
  · rw [hwaiting]
    exact .refl _
  · rw [hended]
    exact StatusRegistry.operated_perform now (.finish _)

/-- What happens to a coordinator leaves the search at a place as it is, and tells calls to stop
only if it may, or if another search has handles for them. -/
structure Apart (stops : Nat → Prop) (rewrites : StatusRegistry → StatusRegistry → Prop)
    (place : Nat) (c c' : Coordinator) : Prop where
  steps : Outbound.Steps
    (fun call => stops call ∨ ∃ (p : Nat) (s : Search), p ≠ place ∧ c.searches[p]? = some s ∧
      ∃ h ∈ s.handles, h.call = call) c.executor.outbound c'.executor.outbound
  registry : c.registry.Operated c'.registry ∨ rewrites c.registry c'.registry
  search : c'.searches[place]? = c.searches[place]?

/-- What a move is for one search: it happens apart from it, or the search itself looks or is
dropped. -/
theorem Move.of_search (h : Move stops rewrites c c') {place : Nat}
    (hplace : place < c.searches.length) :
    Apart stops rewrites place c c' ∨ (∃ now, c' = pollSearch now c place) ∨
      ∃ now, c' = c.drop now place := by
  cases h with
  | executor steps => exact .inl ⟨steps.mono fun _ => .inl, .inl (.refl _), rfl⟩
  | statuses rewritten => exact .inl ⟨.refl _, .inr rewritten, rfl⟩
  | launch steps fresh =>
    exact .inl ⟨steps.mono fun _ hstops => hstops.elim, .inl (.refl _),
      List.getElem?_append_left hplace⟩
  | poll now p =>
    by_cases hp : p = place
    · subst hp
      exact .inr (.inl ⟨now, rfl⟩)
    · refine .inl ⟨(steps_pollSearch now p c).mono ?_, .inl (operated_pollSearch now p c),
        searches_pollSearch hp⟩
      exact fun _ ⟨s, hs, hhandle⟩ => .inr ⟨p, s, hp, hs, hhandle⟩
  | drop now p =>
    by_cases hp : p = place
    · subst hp
      exact .inr (.inr ⟨now, rfl⟩)
    · refine .inl ⟨executor_drop now p c ▸ .refl _, .inl (operated_drop now p c), ?_⟩
      exact getElem?_drop_of_ne hp now

/-- Nothing happens any more to a search that is over. -/
theorem Move.over (h : Move stops rewrites c c') {place : Nat} {s : Search}
    (hs : c.searches[place]? = some s) (hover : ∀ m, s.stage ≠ .merging m) :
    c'.searches[place]? = some s := by
  rcases h.of_search (List.getElem?_eq_some_iff.1 hs).1 with hapart | ⟨now, rfl⟩ | ⟨now, rfl⟩
  · exact hapart.search.trans hs
  · rw [pollSearch_of_over hs hover, hs]
  · rw [drop_of_over hs hover, hs]

/-! ### Order -/

/-- No search comes by a handle. -/
def HandlesFrom (c c' : Coordinator) : Prop :=
  ∀ (p : Nat) (s' : Search), c'.searches[p]? = some s' →
    ∃ s, c.searches[p]? = some s ∧ ∀ h ∈ s'.handles, h ∈ s.handles

theorem handlesFrom_of_eq (h : c'.searches = c.searches) : c.HandlesFrom c' :=
  fun _ s' hs' => ⟨s', h ▸ hs', fun _ hh => hh⟩

/-- A change of a search's stage gives it no handle. -/
theorem handlesFrom_setStage (place : Nat) (stage : SearchStage) :
    c.HandlesFrom (c.setStage place stage) := by
  intro p s' hs'
  by_cases hp : place = p
  · subst hp
    rw [setStage, List.getElem?_modify, Option.map_eq_map, Option.map_eq_some_iff] at hs'
    obtain ⟨s, hs, rfl⟩ := hs'
    exact ⟨s, hs, fun h hh => by simpa using hh⟩
  · rw [getElem?_setStage_of_ne hp] at hs'
    exact ⟨s', hs', fun _ hh => hh⟩

theorem handlesFrom_drop (now place : Nat) (c : Coordinator) :
    c.HandlesFrom (c.drop now place) := by
  rcases searches_drop c now place with hsame | hdropped
  · exact handlesFrom_of_eq hsame
  · intro p s' hs'
    rw [hdropped] at hs'
    exact handlesFrom_setStage place .dropped p s' hs'

/-- A look gives no search a handle that it had not. -/
theorem handlesFrom_pollSearch (now place : Nat) (c : Coordinator) :
    c.HandlesFrom (pollSearch now c place) := by
  rcases pollSearch_cases now c place with
    hover | hgone | ⟨s, m, m', hs, -, -, hwaiting⟩ | ⟨s, m, result, -, -, -, hended⟩
  · rw [hover]
    exact handlesFrom_of_eq rfl
  · rw [hgone]
    exact handlesFrom_drop now place c
  · rw [hwaiting]
    intro p s' hs'
    by_cases hp : place = p
    · subst hp
      have hlt := (List.getElem?_eq_some_iff.1 hs).1
      obtain rfl := Option.some.inj ((List.getElem?_set_self hlt).symm.trans hs')
      exact ⟨s, hs, fun h hh => List.mem_of_mem_filter hh⟩
    · exact ⟨s', (List.getElem?_set_ne hp).symm.trans hs', fun _ hh => hh⟩
  · rw [hended]
    exact handlesFrom_setStage (c := c) place _

/-- All handles of searches are for calls that there are, and some calls have handles at most in the
search at a place. -/
structure Orderly (own : List Nat) (place : Nat) (c : Coordinator) : Prop where
  causes : c.executor.outbound.Causes
  exist : ∀ call ∈ own, call < c.callCount
  handles : ∀ (p : Nat) (s : Search), c.searches[p]? = some s → ∀ h ∈ s.handles,
    h.call < c.callCount ∧ (p ≠ place → h.call ∉ own)

variable {own : List Nat} {place : Nat}

/-- Steps of the executor keep searches in order. -/
theorem Orderly.of_steps (h : c.Orderly own place)
    (hsteps : Outbound.Steps stops c.executor.outbound c'.executor.outbound)
    (hhandles : c.HandlesFrom c') : c'.Orderly own place where
  causes := hsteps.causes h.causes
  exist := fun call hcall => Nat.lt_of_lt_of_le (h.exist call hcall) hsteps.length_le
  handles := by
    intro p s' hs' handle hhandle
    obtain ⟨s, hs, hsub⟩ := hhandles p s' hs'
    obtain ⟨hlt, hown⟩ := h.handles p s hs handle (hsub handle hhandle)
    exact ⟨Nat.lt_of_lt_of_le hlt hsteps.length_le, hown⟩

/-- A look keeps searches in order. -/
theorem Orderly.polled (h : c.Orderly own place) (now p : Nat) :
    (pollSearch now c p).Orderly own place :=
  h.of_steps (steps_pollSearch now p c) (handlesFrom_pollSearch now p c)

theorem Orderly.dropped (h : c.Orderly own place) (now p : Nat) :
    (c.drop now p).Orderly own place := by
  have hsteps : Outbound.Steps (fun _ => False) c.executor.outbound
      (c.drop now p).executor.outbound := by
    rw [executor_drop]
    exact .refl _
  exact h.of_steps hsteps (handlesFrom_drop now p c)

theorem Orderly.move (hmove : Move stops rewrites c c') (h : c.Orderly own place) :
    c'.Orderly own place := by
  cases hmove with
  | executor steps => exact h.of_steps steps (handlesFrom_of_eq rfl)
  | statuses =>
    have hsteps : Outbound.Steps stops c.executor.outbound c.executor.outbound := .refl _
    exact h.of_steps hsteps (handlesFrom_of_eq rfl)
  | @launch x s steps fresh =>
    have hexecutor : (c.setExecutor x).Orderly own place := h.of_steps steps (handlesFrom_of_eq rfl)
    refine ⟨hexecutor.causes, hexecutor.exist, fun p s' hs' handle hhandle => ?_⟩
    rcases Lists.getElem?_concat hs' with hs | ⟨-, rfl⟩
    · exact hexecutor.handles p s' hs handle hhandle
    · obtain ⟨hle, hlt⟩ := fresh handle hhandle
      exact ⟨hlt, fun _ hmem => absurd (h.exist _ hmem) (Nat.not_lt_of_le hle)⟩
  | poll now p => exact h.polled now p
  | drop now p => exact h.dropped now p

/-- Calls of which only the search at a place has handles are told to stop by nobody else. -/
theorem Apart.steps_own (h : Apart (· ∉ own) rewrites place c c') (horderly : c.Orderly own place) :
    Outbound.Steps (· ∉ own) c.executor.outbound c'.executor.outbound := by
  refine h.steps.mono ?_
  rintro call (hnot | ⟨p, s, hp, hs, handle, hmem, rfl⟩)
  · exact hnot
  · exact (horderly.handles p s hs handle hmem).2 hp

/-- A cluster at rest, and whatever becomes of it. -/
theorem orderly_of_run {cluster : Cluster} {start : Nat} {trace : List (Nat × Deed)}
    {s : Timed Coordinator} (h : Run machine Deed.perform ⟨start, cluster.start⟩ trace s) :
    s.state.Orderly [] 0 := by
  have hmoves : Moves (fun _ => True) (fun _ _ => True) cluster.start s.state :=
    Moves.of_run (fun _ _ _ => trivial) h fun a _ => by
      cases a.2 <;> first | trivial | exact fun _ => trivial
  refine hmoves.keeps (fun _ _ hmove h => h.move hmove) ⟨⟨?_, ?_⟩, ?_, ?_⟩
  · intro place t ht
    cases ht
  · intro place c reason hc
    cases hc
  · intro call hcall
    cases hcall
  · intro p s hs
    cases hs

/-- The calls of a search that was scattered are new. -/
theorem new_of_scattered {handles : List CallHandle}
    (h : (c.scattered table query).1 = .ok handles) {call : Nat}
    (hcall : call ∈ handles.map (·.call)) :
    c.callCount ≤ call ∧ ∃ terms request,
      (c.scattered table query).2.outbound.workers.calls[call]? = some (.new terms request) := by
  obtain ⟨handle, hmem, rfl⟩ := List.mem_map.1 hcall
  obtain ⟨terms, request, hle, hget⟩ := Executor.call_of_startWithin h hmem
  exact ⟨hle, terms, request, hget⟩

/-- Only the search that was just launched has handles for its calls. -/
theorem orderly_launched (horderly : c.Orderly [] 0) {args : SearchArguments}
    {handles : List CallHandle} (hhandles : (c.scattered table query).1 = .ok handles) (now : Nat) :
    (c.launched now table query args handles).Orderly (handles.map (·.call))
      c.searches.length := by
  have hsteps : Outbound.Steps (fun _ => False) c.executor.outbound
      (c.scattered table query).2.outbound := Executor.steps_startWithin _ _ _
  refine ⟨hsteps.causes horderly.causes, fun call hcall => ?_, fun p s' hs' handle hhandle => ?_⟩
  · obtain ⟨-, terms, request, hget⟩ := new_of_scattered hhandles hcall
    exact (List.getElem?_eq_some_iff.1 hget).1
  · rcases Lists.getElem?_concat hs' with hs | ⟨hp, rfl⟩
    · have hlt := (horderly.handles p s' hs handle hhandle).1
      exact ⟨Nat.lt_of_lt_of_le hlt hsteps.length_le, fun _ hmem =>
        absurd hlt (Nat.not_lt_of_le (new_of_scattered hhandles hmem).1)⟩
    · obtain ⟨-, terms, request, hget⟩ :=
        new_of_scattered hhandles (List.mem_map_of_mem (f := (·.call)) hhandle)
      exact ⟨(List.getElem?_eq_some_iff.1 hget).1, fun hne => absurd hp hne⟩

end Coordinator

end ScatterSearch
