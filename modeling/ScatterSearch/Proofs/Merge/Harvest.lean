import ScatterSearch.Proofs.Merge.Course
import ScatterSearch.Proofs.Scatter.Halting
import ScatterSearch.Proofs.Search.Central

/-!
# What a merge leaves behind

A merge holds handles of an executor's calls. It looks from time to time at those whose calls have
ended, in whatever order they came, and when it is over it stops the calls that go on
(`Harvest.look`). In between everything else goes its way, as it does afterwards.

However it ends, nothing of it keeps running (`Harvest.leaves_nothing_running`): every handle was
consumed, or its call had ended unseen, or its call was told to stop; what was told to stop goes no
further. The searches of a coordinator are such merges (`Coordinator.pollSearch_eq_look`).
-/

namespace ScatterSearch

variable {α π : Type}

/-- An order in which the results of handles come. -/
structure Arrival where
  order : List CallHandle → List CallHandle
  perm : ∀ handles, (order handles).Perm handles

/-- The results come in the order of the handles. -/
def Arrival.inOrder : Arrival := ⟨id, fun handles => .refl handles⟩

/-- A merge at work, and the executor of its calls. -/
structure Harvest (α : Type) where
  executor : Executor
  /-- the handles that were not consumed -/
  handles : List CallHandle
  progress : MergeProgress α

namespace Harvest

/-- A merge of some handles that starts now. -/
def start (acc : Accumulator α π) (limits : MergeLimits) (query : String)
    (handles : List CallHandle) (now : Nat) (x : Executor) : Harvest α :=
  ⟨x, handles, .waiting (.start acc limits query handles.length now)⟩

/-- The handles whose calls go on. -/
def outstanding (g : Harvest α) : List CallHandle :=
  g.handles.filter fun h => !g.executor.isFinished h

/-- The results that are there, in the order in which they came. -/
def ready (value : Decoder π) (arrival : Arrival) (g : Harvest α) : List (Except ClusterError π) :=
  (arrival.order g.handles).filterMap (g.executor.outcome? value)

/-- The handles of these results. -/
def seen (arrival : Arrival) (g : Harvest α) : List CallHandle :=
  (arrival.order g.handles).filter g.executor.isFinished

/-- The merge looks at what is there. At its end it stops the calls that go on. If it panics, it
only drops its handles. -/
def look (acc : Accumulator α π) (value : Decoder π) (now : Nat) (reason : Option CancelReason)
    (arrival : Arrival) (g : Harvest α) : Harvest α :=
  match g.progress with
  | .waiting m =>
    match m.poll acc now reason (g.ready value arrival) with
    | .waiting m => { g with handles := g.outstanding, progress := .waiting m }
    | .ended result =>
      ⟨g.outstanding.foldl Executor.cancel g.executor, [], .ended result⟩
    | .panicked => { g with handles := [], progress := .panicked }
  | _ => g

/-- The merge consumes no more than so many of the results that are there, and others get their turn
before it sees the rest. -/
def glance (acc : Accumulator α π) (value : Decoder π) (now : Nat) (arrival : Arrival) (count : Nat)
    (g : Harvest α) : Harvest α :=
  match g.progress with
  | .waiting m =>
    match m.poll acc now none ((g.ready value arrival).take count) with
    | .waiting m =>
      { g with handles := (g.seen arrival).drop count ++ g.outstanding, progress := .waiting m }
    -- it is not interrupted at its end
    | _ => g
  | _ => g

/-- What can be done at any time. -/
inductive Deed where
  | look (reason : Option CancelReason) (arrival : Arrival)
  | glance (arrival : Arrival) (count : Nat)
  /-- others use the executor -/
  | meddle (d : Executor.Deed)

/-- The merge after a deed. -/
def Deed.perform (acc : Accumulator α π) (value : Decoder π) : Deed → Nat → Harvest α → Harvest α
  | .look reason arrival, now, g => g.look acc value now reason arrival
  | .glance arrival count, now, g => g.glance acc value now arrival count
  | .meddle d, now, g => { g with executor := d.perform now g.executor }

/-- The executor acts by itself. -/
def machine : Machine (Harvest α) where
  due g := g.executor.due
  fire now g := { g with executor := g.executor.fire now }

/-! ## While it goes on -/

variable {acc : Accumulator α π} {value : Decoder π} {limits : MergeLimits} {query : String}
  {given consumed : List CallHandle} {parts : List π} {g : Harvest α} {m m' : Merge α}
  {now begun : Nat} {reason : Option CancelReason} {arrival : Arrival}
  {result : Except ClusterError (MergeOutcome α)} {x x' : Executor} {calls : Set Nat}
  {trace trace' : List (Nat × Deed)} {u w : Timed (Harvest α)}

theorem map_outcome?_seen (value : Decoder π) (arrival : Arrival) (g : Harvest α) :
    (g.seen arrival).map (g.executor.outcome? value) = (g.ready value arrival).map some :=
  Executor.map_outcome?_filter value _

/-- There are as many results as handles whose calls have ended. -/
theorem length_ready (value : Decoder π) (arrival : Arrival) (g : Harvest α) :
    (g.ready value arrival).length = (g.seen arrival).length := by
  have hlength := congrArg List.length (map_outcome?_seen value arrival g)
  rw [List.length_map, List.length_map] at hlength
  exact hlength.symm

/-- A handle's call has ended, or it is outstanding. -/
theorem seen_append_outstanding (arrival : Arrival) (g : Harvest α) :
    (g.seen arrival ++ g.outstanding).Perm g.handles :=
  (((arrival.perm g.handles).filter _).append_right _).trans (List.filter_append_perm _ _)

/-- What a merge that goes on has: the handles that it consumed, with the parts that they brought,
and those that it was given besides. -/
structure Tally (acc : Accumulator α π) (value : Decoder π) (limits : MergeLimits) (query : String)
    (given consumed : List CallHandle) (parts : List π) (g : Harvest α) (m : Merge α) : Prop where
  handles : (consumed ++ g.handles).Perm given
  brought : g.executor.Yields value consumed parts
  going : ∃ last, m = .going acc limits query given.length parts last

/-- The tally is right while calls go on. -/
theorem Tally.goesOn (h : Tally acc value limits query given consumed parts g m)
    (hon : g.executor.GoesOn x) :
    Tally acc value limits query given consumed parts { g with executor := x } m :=
  ⟨h.handles, h.brought.goesOn hon.calls, h.going⟩

/-- A merge that goes on has consumed all that it saw. -/
theorem Tally.waiting (h : Tally acc value limits query given consumed parts g m) {count : Nat}
    (hpoll : m.poll acc now reason ((g.ready value arrival).take count) = .waiting m') :
    ∃ consumed parts, Tally acc value limits query given consumed parts
      { g with
        handles := (g.seen arrival).drop count ++ g.outstanding
        progress := .waiting m' } m' := by
  obtain ⟨hhandles, hbrought, last, rfl⟩ := h
  obtain ⟨more, last', hready, rfl⟩ := Merge.going_of_poll hpoll
  have hmore : g.executor.Yields value ((g.seen arrival).take count) more := by
    rw [Executor.Yields, List.map_take, map_outcome?_seen, ← List.map_take, hready, List.map_map]
    rfl
  refine ⟨consumed ++ (g.seen arrival).take count, parts ++ more, ?_, hbrought.append hmore, last',
    rfl⟩
  have hseen : consumed ++ (g.seen arrival).take count ++
      ((g.seen arrival).drop count ++ g.outstanding) =
        consumed ++ (g.seen arrival ++ g.outstanding) := by
    rw [List.append_assoc, ← List.append_assoc (List.take _ _), List.take_append_drop]
  exact hseen ▸ ((seen_append_outstanding arrival g).append_left consumed).trans hhandles

/-- A merge that is over does not look. -/
theorem look_of_over (h : ∀ m, g.progress ≠ .waiting m) :
    g.look acc value now reason arrival = g := by
  rw [look]
  split
  · rename_i hm
    exact absurd hm (h _)
  · rfl

theorem glance_of_over (h : ∀ m, g.progress ≠ .waiting m) (count : Nat) :
    g.glance acc value now arrival count = g := by
  rw [glance]
  split
  · rename_i hm
    exact absurd hm (h _)
  · rfl

/-- If a merge goes on, it has a tally. -/
def Tallied (acc : Accumulator α π) (value : Decoder π) (limits : MergeLimits) (query : String)
    (given : List CallHandle) (g : Harvest α) : Prop :=
  ∀ m, g.progress = .waiting m →
    ∃ consumed parts, Tally acc value limits query given consumed parts g m

/-- A look keeps the tally. -/
theorem Tallied.look (h : Tallied acc value limits query given g) (now : Nat)
    (reason : Option CancelReason) (arrival : Arrival) :
    Tallied acc value limits query given (g.look acc value now reason arrival) := by
  intro m' hafter
  cases hbefore : g.progress with
  | ended | panicked =>
    rw [look_of_over (by simp [hbefore]), hbefore] at hafter
    cases hafter
  | waiting m =>
    obtain ⟨consumed, parts, htally⟩ := h m hbefore
    simp only [Harvest.look, hbefore] at hafter ⊢
    cases hpoll : m.poll acc now reason (g.ready value arrival) with
    | ended | panicked =>
      simp only [hpoll] at hafter
      cases hafter
    | waiting after =>
      simp only [hpoll] at hafter ⊢
      obtain rfl := MergeProgress.waiting.inj hafter
      have hall : (g.ready value arrival).take (g.seen arrival).length = g.ready value arrival := by
        rw [← length_ready value, List.take_length]
      have hwaiting := htally.waiting (hall.symm ▸ hpoll)
      rw [List.drop_length, List.nil_append] at hwaiting
      exact hwaiting

theorem Tallied.glance (h : Tallied acc value limits query given g) (now : Nat) (arrival : Arrival)
    (count : Nat) :
    Tallied acc value limits query given (g.glance acc value now arrival count) := by
  intro m' hafter
  cases hbefore : g.progress with
  | ended | panicked =>
    rw [glance_of_over (by simp [hbefore]), hbefore] at hafter
    cases hafter
  | waiting m =>
    obtain ⟨consumed, parts, htally⟩ := h m hbefore
    simp only [Harvest.glance, hbefore] at hafter ⊢
    cases hpoll : m.poll acc now none ((g.ready value arrival).take count) with
    | ended | panicked =>
      simp only [hpoll] at hafter ⊢
      exact h m' hafter
    | waiting after =>
      simp only [hpoll] at hafter ⊢
      obtain rfl := MergeProgress.waiting.inj hafter
      exact htally.waiting hpoll

theorem Tallied.goesOn (h : Tallied acc value limits query given g) (hon : g.executor.GoesOn x) :
    Tallied acc value limits query given { g with executor := x } := by
  intro m hm
  obtain ⟨consumed, parts, htally⟩ := h m hm
  exact ⟨consumed, parts, htally.goesOn hon⟩

/-- In every run the tally is right. -/
theorem tallied_of_run (h : Run machine (Deed.perform acc value)
    ⟨begun, start acc limits query given begun x⟩ trace u) :
    Tallied acc value limits query given u.state := by
  refine h.invariant (I := fun _ u => Tallied acc value limits query given u.state)
    ?start ?fire ?pass ?act
  case start =>
    intro m hm
    obtain rfl := MergeProgress.waiting.inj hm
    exact ⟨[], [], .refl _, rfl, begun, Merge.start_eq_going⟩
  case fire => exact fun _ _ _ htallied _ _ => htallied.goesOn Executor.goesOn_fire
  case pass => exact fun _ _ _ htallied _ _ => htallied
  case act =>
    intro trace u e htallied
    cases e with
    | look reason arrival => exact htallied.look u.now reason arrival
    | glance arrival count => exact htallied.glance u.now arrival count
    | meddle d => exact htallied.goesOn (Executor.goesOn_perform d)

theorem goesOn_look : g.executor.GoesOn (g.look acc value now reason arrival).executor := by
  rw [look]
  split
  · split
    · exact .refl _
    · exact Executor.goesOn_cancelAll _
    · exact .refl _
  · exact .refl _

theorem executor_glance (now : Nat) (arrival : Arrival) (count : Nat) (g : Harvest α) :
    (g.glance acc value now arrival count).executor = g.executor := by
  rw [glance]
  split
  · split <;> rfl
  · rfl

/-- Calls go on in every run, and what they brought stays. -/
theorem goesOn_of_run {t : Timed (Harvest α)}
    (h : Run machine (Deed.perform acc value) t trace u) :
    t.state.executor.GoesOn u.state.executor := by
  have hdeed (e : Deed) (now : Nat) (g : Harvest α) :
      g.executor.GoesOn (e.perform acc value now g).executor := by
    cases e with
    | look reason arrival => exact goesOn_look
    | glance arrival count =>
      rw [Deed.perform, executor_glance]
      exact .refl _
    | meddle d => exact Executor.goesOn_perform d
  exact h.invariant (I := fun _ (u : Timed (Harvest α)) =>
      t.state.executor.GoesOn u.state.executor)
    (.refl _) (fun _ _ _ hon _ _ => hon.trans Executor.goesOn_fire) (fun _ _ _ hon _ _ => hon)
    (fun _ u e hon => hon.trans (hdeed e u.now u.state))

/-! ## At its end -/

/-- What has become of the handles that a merge was given, when it ends with a result. It consumed
some; the calls of some had ended without being consumed; and the calls of the others are stopped. A
result that is no error says how many there are of the first and of the last. -/
structure Account (acc : Accumulator α π) (value : Decoder π) (given : List CallHandle)
    (x : Executor) (result : Except ClusterError (MergeOutcome α))
    (consumed unconsumed stopped : List CallHandle) : Prop where
  handles : (consumed ++ unconsumed ++ stopped).Perm given
  ended : ∀ h ∈ consumed ++ unconsumed, x.isFinished h = true
  going : ∀ h ∈ stopped, x.isFinished h = false
  merged : ∀ o, result = .ok o →
    ∃ parts, x.Yields value consumed parts ∧ o.aggregate = acc.fold parts
  counted : ∀ o, result = .ok o → o.completed = consumed.length ∧ o.cancelled = stopped.length ∧
    o.completed + o.cancelled + unconsumed.length = given.length
  exhausted : ∀ o, result = .ok o → o.state = .exhausted → unconsumed = [] ∧ o.cancelled = 0

/-- Whatever ends a merge, its handles are accounted for. -/
theorem Tally.account (h : Tally acc value limits query given consumed parts g m)
    (hpoll : m.poll acc now reason (g.ready value arrival) = .ended result) :
    ∃ consumed unconsumed,
      Account acc value given g.executor result consumed unconsumed g.outstanding := by
  obtain ⟨hhandles, hbrought, last, rfl⟩ := h
  have hsplit := seen_append_outstanding arrival g
  have hseen : ∀ h ∈ g.seen arrival, g.executor.isFinished h = true := fun h hmem =>
    (List.mem_filter.1 hmem).2
  have hgoing : ∀ h ∈ g.outstanding, g.executor.isFinished h = false := fun h hmem => by
    simpa using (List.mem_filter.1 hmem).2
  cases result with
  | error e =>
    refine ⟨consumed, g.seen arrival, ?_, fun h hmem => ?_, hgoing, (fun _ ho => nomatch ho),
      (fun _ ho => nomatch ho), fun _ ho => nomatch ho⟩
    · rw [List.append_assoc]
      exact (hsplit.append_left consumed).trans hhandles
    · exact (List.mem_append.1 hmem).elim (hbrought.isFinished h) (hseen h)
  | ok o =>
    have hgiven := hhandles.length_eq
    have hlength := hsplit.length_eq
    rw [List.length_append, hbrought.length_eq] at hgiven
    rw [List.length_append] at hlength
    have hready := length_ready value arrival g
    obtain ⟨more, rest, hmore, haggregate, hcompleted, hstate⟩ :=
      Merge.ended_of_poll (by omega) hpoll
    -- the first results were consumed, the others came too late
    have hrest : more.length + rest.length = (g.seen arrival).length := by
      rw [← hready, hmore, List.length_append, List.length_map]
    have htaken : g.executor.Yields value ((g.seen arrival).take more.length) more := by
      rw [Executor.Yields, List.map_take, map_outcome?_seen, hmore, List.map_append, List.map_map,
        List.take_left' (by rw [List.length_map])]
      rfl
    rw [List.length_append] at hcompleted hstate
    have hconsumed : (consumed ++ (g.seen arrival).take more.length).length =
        parts.length + more.length := by
      rw [List.length_append, hbrought.length_eq, htaken.length_eq]
    have hunconsumed : ((g.seen arrival).drop more.length).length = rest.length := by
      rw [List.length_drop]
      omega
    have hstopped : o.cancelled = g.outstanding.length := by
      rcases hstate with ⟨-, hcancelled⟩ | ⟨-, rfl, hcalls, hcancelled⟩
      · omega
      · rw [List.length_nil] at hrest
        omega
    refine ⟨consumed ++ (g.seen arrival).take more.length, (g.seen arrival).drop more.length, ?_,
      fun h hmem => ?_, hgoing, fun o' ho => ?_, fun o' ho => ?_, fun o' ho hexhausted => ?_⟩
    · rw [List.append_assoc consumed, List.take_append_drop, List.append_assoc]
      exact (hsplit.append_left consumed).trans hhandles
    · rw [List.append_assoc, List.take_append_drop] at hmem
      exact (List.mem_append.1 hmem).elim (hbrought.isFinished h) (hseen h)
    · obtain rfl := Except.ok.inj ho
      exact ⟨parts ++ more, hbrought.append htaken, haggregate⟩
    · obtain rfl := Except.ok.inj ho
      refine ⟨hcompleted.trans hconsumed.symm, hstopped, ?_⟩
      omega
    · obtain rfl := Except.ok.inj ho
      rcases hstate with ⟨hearly, -⟩ | ⟨-, hnone, -, hcancelled⟩
      · cases hearly.symm.trans hexhausted
      · exact ⟨List.length_eq_zero_iff.1 (by rw [hunconsumed, hnone]; rfl), hcancelled⟩

/-! ## Afterwards -/

/-- What came of a merge stays. -/
theorem ended_of_run {t : Timed (Harvest α)} (h : Run machine (Deed.perform acc value) t trace w)
    (hend : t.state.progress = .ended result) : w.state.progress = .ended result := by
  refine h.invariant (I := fun _ (w : Timed (Harvest α)) => w.state.progress = .ended result) hend
    (fun _ _ _ hprogress _ _ => hprogress) (fun _ _ _ hprogress _ _ => hprogress)
    fun _ w e hprogress => ?_
  have hover : ∀ m, w.state.progress ≠ .waiting m := by simp [hprogress]
  cases e with
  | look reason arrival => rwa [Deed.perform, look_of_over hover]
  | glance arrival count => rwa [Deed.perform, glance_of_over hover]
  | meddle d => exact hprogress

/-- A call that was told to stop goes no further, whatever comes. Time passes only when it has
stopped. -/
theorem halts_of_run {t : Timed (Harvest α)} {call : Nat} {c : Call} {did : List CallAction}
    (hrun : Run machine (Deed.perform acc value) t trace w)
    (hend : t.state.progress = .ended result) (hgoes : c.isFinished = false)
    (htold : t.state.executor.outbound.Stands call c.requestStop did) :
    w.now = t.now ∧ w.state.executor.outbound.Stands call c.requestStop did ∨
      w.state.executor.outbound.Stopped call c did := by
  refine (hrun.invariant (I := fun _ w => w.state.progress = .ended result ∧
    (w.now = t.now ∧ w.state.executor.outbound.Stands call c.requestStop did ∨
      w.state.executor.outbound.Stopped call c did)) ⟨hend, .inl ⟨rfl, htold⟩⟩ ?fire ?pass ?act).2
  case fire =>
    rintro _ w _ ⟨hprogress, hstands⟩ - -
    exact ⟨hprogress, .inr (Executor.stopped_fire hgoes w.now (hstands.elim (.told ·.2) .stopped))⟩
  case pass =>
    rintro _ w now ⟨hprogress, hstands⟩ hle hdue
    refine ⟨hprogress, hstands.imp_left fun ⟨hnow, hstands⟩ => ⟨?_, hstands⟩⟩
    -- what is due at once lets no time pass
    have hzero := hdue 0 (Executor.due_of_told hgoes hstands)
    dsimp only
    omega
  case act =>
    rintro _ w e ⟨hprogress, hstands⟩
    have hover : ∀ m, w.state.progress ≠ .waiting m := by simp [hprogress]
    cases e with
    | look reason arrival =>
      rw [Deed.perform, look_of_over hover]
      exact ⟨hprogress, hstands⟩
    | glance arrival count =>
      rw [Deed.perform, glance_of_over hover]
      exact ⟨hprogress, hstands⟩
    | meddle d =>
      exact ⟨hprogress, hstands.imp
        (.imp_right (Executor.stands_perform Call.requestStop_requestStop d))
        (Executor.stands_perform (Call.requestStop_of_finished rfl) d)⟩

/-- A call that has not ended has an outstanding handle, if it has one of those that were given. -/
theorem Tally.owned (h : Tally acc value limits query given consumed parts g m) {call : Nat}
    {c : Call} (hc : g.executor.outbound.workers.calls[call]? = some c)
    (hgoes : c.isFinished = false) (howned : Executor.Owned given call) :
    Executor.Owned g.outstanding call := by
  obtain ⟨handle, hmem, rfl⟩ := howned
  have hunfinished : g.executor.isFinished handle = false :=
    (Executor.isFinished_eq hc).trans hgoes
  -- what was consumed has ended
  have hleft : handle ∈ g.handles :=
    (List.mem_append.1 (h.handles.mem_iff.2 hmem)).resolve_left fun hconsumed => by
      cases hunfinished.symm.trans (h.brought.isFinished handle hconsumed)
  exact Executor.Owned.outstanding ⟨handle, hleft, rfl⟩ hc hgoes

/-- The look that ends a merge stops what is outstanding. -/
theorem look_ended (hgoes : g.progress = .waiting m)
    (hend : (g.look acc value now reason arrival).progress = .ended result) :
    m.poll acc now reason (g.ready value arrival) = .ended result ∧
      (g.look acc value now reason arrival).executor =
        g.outstanding.foldl Executor.cancel g.executor := by
  simp only [look, hgoes] at hend ⊢
  cases hpoll : m.poll acc now reason (g.ready value arrival) with
  | waiting | panicked =>
    simp only [hpoll] at hend
    cases hend
  | ended result' =>
    simp only [hpoll] at hend
    exact ⟨congrArg _ (MergeProgress.ended.inj hend), rfl⟩

/-- Let every call of a set that has not ended be held by the handles that a merge is given. When
the merge ends, whatever ends it, its handles are accounted for. From then on its result stays, no
call of the set that was going on does anything but stop, and all the other calls, and those that
had ended, are as they were. -/
theorem leaves_nothing_running
    (hcalls : ∀ call ∈ calls, ∃ c, x.outbound.workers.calls[call]? = some c ∧
      (c.isFinished = false → Executor.Owned given call))
    (hrun : Run machine (Deed.perform acc value)
      ⟨begun, start acc limits query given begun x⟩ trace u)
    (hgoes : u.state.progress = .waiting m)
    (hend : (u.state.look acc value u.now reason arrival).progress = .ended result) :
    (∃ consumed unconsumed stopped,
      Account acc value given u.state.executor result consumed unconsumed stopped) ∧
    (∀ trace' w, Run machine (Deed.perform acc value)
        ⟨u.now, u.state.look acc value u.now reason arrival⟩ trace' w →
      w.state.progress = .ended result ∧
      ∀ call ∈ calls, ∀ c, u.state.executor.outbound.workers.calls[call]? = some c →
        c.isFinished = false →
        w.state.executor.outbound.Halts call c (u.state.executor.outbound.actions call) ∧
        (u.now < w.now →
          w.state.executor.outbound.Stopped call c (u.state.executor.outbound.actions call)) ∧
        ∀ now, (machine.fire now w.state).executor.outbound.Stopped call c
          (u.state.executor.outbound.actions call)) ∧
    ∀ call c, u.state.executor.outbound.workers.calls[call]? = some c →
      (c.isFinished = true ∨ ¬ Executor.Owned given call) →
      (u.state.look acc value u.now reason arrival).executor.outbound.Stands call c
        (u.state.executor.outbound.actions call) := by
  obtain ⟨consumed, parts, htally⟩ := tallied_of_run hrun m hgoes
  obtain ⟨hpoll, hexecutor⟩ := look_ended hgoes hend
  refine ⟨?account, fun trace' w hafter => ?after, fun call c hc hspared => ?spared⟩
  case account =>
    obtain ⟨consumed, unconsumed, haccount⟩ := htally.account hpoll
    exact ⟨consumed, unconsumed, _, haccount⟩
  case after =>
    refine ⟨?_, fun call hcall c hc hunfinished => ?_⟩
    · exact ended_of_run hafter hend
    · obtain ⟨c₀, hc₀, howned⟩ := hcalls call hcall
      obtain ⟨c', hc', hon⟩ := (goesOn_of_run hrun).calls call c₀ hc₀
      obtain rfl := Option.some.inj (hc.symm.trans hc')
      have hgiven : Executor.Owned given call := howned (hon.unfinished hunfinished)
      have htold := Executor.stands_cancelled hc (htally.owned hc hunfinished hgiven)
      rw [← hexecutor] at htold
      have hstands := halts_of_run hafter hend hunfinished htold
      have hhalts : w.state.executor.outbound.Halts call c
          (u.state.executor.outbound.actions call) := hstands.elim (.told ·.2) .stopped
      refine ⟨hhalts, fun hlater => hstands.resolve_left fun hnow => ?_,
        fun now => Executor.stopped_fire hunfinished now hhalts⟩
      exact absurd hnow.1 (Nat.ne_of_gt hlater)
  case spared =>
    rw [hexecutor]
    refine Executor.stands_spared hc (hspared.imp_right fun hnot howned => hnot ?_)
    obtain ⟨handle, hmem, hcall⟩ := howned
    exact ⟨handle, htally.handles.mem_iff.1
      (List.mem_append_right _ (List.mem_filter.1 hmem).1), hcall⟩

/-- A server that answers a number after some time. -/
def numbering (delay n : Nat) : Remote :=
  let reply : Nat → RemoteReply := fun _ =>
    ⟨delay, fun _ => .answers (.ok (.serverValue (.num (.int n))))⟩
  ⟨0, none, reply, reply⟩

/-- Two servers were asked for a number, 10 ms ago. The first one has answered 5; the second one
needs 30 ms. -/
def duo : Executor :=
  Clock.pass Executor.machine 0 10 <| Prod.snd <|
    (Executor.new (.ofAssignments [(⟨"a:1"⟩, [⟨"t", "0"⟩]), (⟨"b:1"⟩, [⟨"t", "1"⟩])]) .default
      (.new [] [(⟨"a:1"⟩, .remote (numbering 1 5)), (⟨"b:1"⟩, .remote (numbering 30 9))]
        fun _ => .unreachable 0 (.internal "no such server"))).start
      .serverRead ((CommandParts.named "c").table "t").command

/-- The handles of the two calls. -/
def duoHandles : List CallHandle := [⟨.server ⟨"a:1"⟩, 0⟩, ⟨.server ⟨"b:1"⟩, 1⟩]

/-- A count of 5 is enough, and so the second server is not waited for: its call throws away the
connection that it has, and is over. -/
theorem duo_stops_early :
    let g := start Merge.counting ⟨5, 60⟩ "q" duoHandles 10 duo
    let g' := g.look Merge.counting .u64 10 none .inOrder
    g'.progress = .ended (.ok ⟨5, .earlyStop, 1, 1⟩) ∧
    (∃ consumed unconsumed stopped, Account Merge.counting .u64 duoHandles duo
      (.ok ⟨5, .earlyStop, 1, 1⟩) consumed unconsumed stopped) ∧
    ∃ c, duo.outbound.workers.calls[1]? = some c ∧ c.isFinished = false ∧
      c.farewell = [.discard] ∧
      ∀ trace w, Run machine (Deed.perform Merge.counting .u64) ⟨10, g'⟩ trace w → 10 < w.now →
        w.state.executor.outbound.Stopped 1 c [.connect, .execute] := by
  intro g g'
  have hend : g'.progress = .ended (.ok ⟨5, .earlyStop, 1, 1⟩) := by rfl
  have hfirst : duo.outbound.workers.calls[0]?.map (·.isFinished) = some true := by decide +kernel
  have hsecond : duo.outbound.workers.calls[1]?.map (fun c => (c.isFinished, c.farewell)) =
      some (false, [.discard]) := by decide +kernel
  have hactions : duo.outbound.actions 1 = [.connect, .execute] := by decide +kernel
  obtain ⟨c₀, hc₀, -⟩ := Option.map_eq_some_iff.1 hfirst
  obtain ⟨c, hc, hstage⟩ := Option.map_eq_some_iff.1 hsecond
  obtain ⟨hgoes, hfarewell⟩ := Prod.mk.inj hstage
  have hcalls : ∀ call ∈ ({0, 1} : Set Nat), ∃ c, duo.outbound.workers.calls[call]? = some c ∧
      (c.isFinished = false → Executor.Owned duoHandles call) := by
    rintro call (rfl | rfl)
    · exact ⟨c₀, hc₀, fun _ => ⟨_, List.mem_cons_self, rfl⟩⟩
    · exact ⟨c, hc, fun _ => ⟨_, List.mem_cons_of_mem _ List.mem_cons_self, rfl⟩⟩
  obtain ⟨haccount, hafter, -⟩ := leaves_nothing_running hcalls
    (Run.start : Run machine (Deed.perform Merge.counting .u64) ⟨10, g⟩ [] ⟨10, g⟩) rfl hend
  refine ⟨hend, haccount, c, hc, hgoes, hfarewell, fun trace w hrun hlater => ?_⟩
  have hstopped := ((hafter trace w hrun).2 1 (.inr rfl) c hc hgoes).2.1 hlater
  rw [← hactions]
  exact hstopped

end Harvest

/-! ## Searches -/

namespace Coordinator

variable {c : Coordinator} {s : Search} {place now : Nat} {m : Merge SearchResults}

/-- What a search looks at, and the executor of its coordinator. -/
def harvest (c : Coordinator) (s : Search) (m : Merge SearchResults) : Harvest SearchResults :=
  ⟨c.executor, s.handles, .waiting m⟩

/-- A search that looks is a merge that looks, which is called off if its query is cancelled. -/
theorem pollSearch_eq_look (hs : c.searches[place]? = some s) (hstage : s.stage = .merging m) :
    let g := (c.harvest s m).look .search Wire.decode now
      ((c.registry.status? s.status).bind (·.cancelReason)) .inOrder
    (pollSearch now c place).executor = g.executor ∧
    ∃ s', (pollSearch now c place).searches[place]? = some s' ∧
      match g.progress with
      | .waiting m' => s'.stage = .merging m' ∧ s'.handles = g.handles
      | .ended result => s'.stage = .ended (result.map s.response)
      | .panicked => s'.stage = .dropped := by
  intro g
  cases hlook : c.look now s m with
  | waiting m' =>
    have hg : g = ⟨c.executor, (c.harvest s m).outstanding, .waiting m'⟩ := by
      rw [look] at hlook
      simp only [g, Harvest.look, harvest, Harvest.ready, Arrival.inOrder, id_eq]
      simp only [ready] at hlook
      rw [hlook]
    rw [hg, pollSearch_waiting hs hstage hlook]
    exact ⟨rfl, _, List.getElem?_set_self (List.getElem?_eq_some_iff.1 hs).1, rfl, rfl⟩
  | ended result =>
    have hg : g = ⟨(c.harvest s m).outstanding.foldl Executor.cancel c.executor, [],
        .ended result⟩ := by
      rw [look] at hlook
      simp only [g, Harvest.look, harvest, Harvest.ready, Arrival.inOrder, id_eq]
      simp only [ready] at hlook
      rw [hlook]
    rw [hg, pollSearch_ended hs hstage hlook]
    exact ⟨rfl, _, getElem?_setStage hs _, rfl⟩
  | panicked =>
    have hg : g = ⟨c.executor, [], .panicked⟩ := by
      rw [look] at hlook
      simp only [g, Harvest.look, harvest, Harvest.ready, Arrival.inOrder, id_eq]
      simp only [ready] at hlook
      rw [hlook]
    rw [hg, pollSearch_panicked hs hstage hlook]
    refine ⟨executor_drop now place c, { s with stage := .dropped }, ?_, rfl⟩
    rw [drop_eq hs hstage]
    exact getElem?_setStage hs _

/-- A search that ends leaves nothing running: the calls of its handles that have not ended are told
to stop, and do at their next turn; no other call notices. -/
theorem calls_of_ended_search {s' : Search} {result : Except ClusterError SearchResponse}
    (hs : c.searches[place]? = some s) (hstage : s.stage = .merging m)
    (hs' : (pollSearch now c place).searches[place]? = some s') (hended : s'.stage = .ended result)
    {call : Nat} {k : Call} (hk : c.executor.outbound.workers.calls[call]? = some k) :
    (k.isFinished = false → Executor.Owned s.handles call →
      ∀ later, ((pollSearch now c place).executor.fire later).outbound.Stopped call k
        (c.executor.outbound.actions call)) ∧
    (k.isFinished = true ∨ ¬ Executor.Owned s.handles call →
      (pollSearch now c place).executor.outbound.Stands call k
        (c.executor.outbound.actions call)) := by
  obtain ⟨hexecutor, s'', hs'', hprogress⟩ :
      (pollSearch now c place).executor = _ ∧ _ := pollSearch_eq_look hs hstage
  obtain rfl := Option.some.inj (hs''.symm.trans hs')
  obtain ⟨result', hlook⟩ : ∃ result', ((c.harvest s m).look .search Wire.decode now
      ((c.registry.status? s.status).bind (·.cancelReason)) .inOrder).progress =
        .ended result' := by
    cases hcases : ((c.harvest s m).look .search Wire.decode now
        ((c.registry.status? s.status).bind (·.cancelReason)) .inOrder).progress with
    | waiting m' =>
      rw [hcases] at hprogress
      cases hended.symm.trans hprogress.1
    | ended result' => exact ⟨result', rfl⟩
    | panicked =>
      rw [hcases] at hprogress
      cases hended.symm.trans hprogress
  rw [hexecutor, (Harvest.look_ended rfl hlook).2]
  refine ⟨fun hgoes howned later => ?_, fun hspared => ?_⟩
  · exact Executor.stopped_fire hgoes later
      (.told (Executor.stands_cancelled hk (howned.outstanding hk hgoes)))
  · refine Executor.stands_spared hk (hspared.imp_right fun hnot howned => hnot ?_)
    obtain ⟨handle, hmem, hcall⟩ := howned
    exact ⟨handle, (List.mem_filter.1 hmem).1, hcall⟩

end Coordinator

end ScatterSearch
