import ScatterSearch.Proofs.Call.Progress
import ScatterSearch.Proofs.Scatter.Submission
import ScatterSearch.Proofs.Time.Run

/-!
# What becomes of reads

While an executor runs, anybody may start other operations on it, cancel handles, change its layout
or meddle with its network (`Executor.Deed`). Through all of that reads keep their places and their
handles, and what once came back for a read stays (`Executor.GoesOn`).

A read is over at the next turn after all its calls have ended, and not before
(`Executor.gather?_eq_some`, `Executor.Reads.returns`). What came back for it then is what its calls
say, and it stays so in every run (`Executor.Reads.of_run`).
-/

namespace ScatterSearch

namespace Executor

/-- What can be done to an executor at any time. -/
inductive Deed where
  | start (budget : Option Nat) (kind : CommandKind) (c : Command)
  | read (kind : CommandKind) (allOrNothing : Bool) (c : Command) (value : Decoder Json)
  | cancel (h : CallHandle)
  /-- the layout changes -/
  | assign (layout : Layout)
  /-- something happens on the network -/
  | disturb (change : Network → Network)

/-- The executor after a deed. -/
def Deed.perform : Deed → Nat → Executor → Executor
  | .start budget kind c, _, x => (x.startWithin budget kind c).2
  | .read kind allOrNothing c value, _, x => (x.read kind allOrNothing c value).2
  | .cancel h, _, x => x.cancel h
  | .assign layout, _, x => { x with layout }
  | .disturb change, _, x =>
    { x with outbound := { x.outbound with network := change x.outbound.network } }

end Executor

namespace ReadOperation

/-- What can become of a read. -/
structure GoesOn (r r' : ReadOperation) : Prop where
  command_eq : r'.command = r.command
  counter_eq : r'.counter = r.counter
  value_eq : r'.value = r.value
  handles_eq : r'.handles = r.handles
  gathered : ∀ result, r.gathered = some result → r'.gathered = some result

variable {r r' r'' : ReadOperation}

theorem GoesOn.refl (r : ReadOperation) : r.GoesOn r := ⟨rfl, rfl, rfl, rfl, fun _ h => h⟩

theorem GoesOn.trans (h : r.GoesOn r') (h' : r'.GoesOn r'') : r.GoesOn r'' where
  command_eq := h'.command_eq.trans h.command_eq
  counter_eq := h'.counter_eq.trans h.counter_eq
  value_eq := h'.value_eq.trans h.value_eq
  handles_eq := h'.handles_eq.trans h.handles_eq
  gathered := fun result hresult => h'.gathered result (h.gathered result hresult)

end ReadOperation

namespace Executor

variable {x x' x'' : Executor} {r : ReadOperation} {place now : Nat}
  {result : Except ClusterError (Gathered Json)}

/-! ## Outcomes -/

/-- A target has an outcome once the call of its handle has ended, by what that call says. -/
theorem outcome?_eq_some {ν : Type} {value : Decoder ν} {h : CallHandle}
    {outcome : Except ClusterError ν} : x.outcome? value h = some outcome ↔
      ∃ c how, x.outbound.workers.calls[h.call]? = some c ∧ c.end? = some how ∧
        outcome = h.target.outcome c.terms.server value (how.toResult c.terms.server h.call) := by
  simp only [outcome?, Option.bind_eq_bind, Option.bind_eq_some_iff, Option.pure_def,
    Option.some.injEq]
  constructor
  · rintro ⟨c, hc, called, hcalled, rfl⟩
    rw [Workers.result?_eq hc, Option.map_eq_some_iff] at hcalled
    obtain ⟨how, hend, rfl⟩ := hcalled
    exact ⟨c, how, hc, hend, rfl⟩
  · rintro ⟨c, how, hc, hend, rfl⟩
    refine ⟨c, hc, _, ?_, rfl⟩
    rw [Workers.result?_eq hc, hend]
    rfl

/-- Whether a handle's call has ended is whether its target has an outcome. -/
theorem isFinished_iff {ν : Type} (value : Decoder ν) {h : CallHandle} :
    x.isFinished h = true ↔ (x.outcome? value h).isSome = true := by
  rw [isFinished, Workers.isFinished, outcome?]
  cases hc : x.outbound.workers.calls[h.call]? with
  | none => simp [Workers.result?, hc]
  | some c => cases x.outbound.workers.result? h.call <;> simp

/-- What is there for some handles are the outcomes of those whose calls have ended. -/
theorem map_outcome?_filter {ν : Type} (value : Decoder ν) (handles : List CallHandle) :
    (handles.filter x.isFinished).map (x.outcome? value) =
      (handles.filterMap (x.outcome? value)).map some := by
  induction handles with
  | nil => rfl
  | cons h handles ih =>
    have hfinished := isFinished_iff (x := x) (h := h) value
    cases houtcome : x.outcome? value h with
    | none =>
      rw [houtcome] at hfinished
      rw [List.filter_cons_of_neg (by simp [hfinished]), List.filterMap_cons_none houtcome, ih]
    | some outcome =>
      rw [houtcome] at hfinished
      rw [List.filter_cons_of_pos (hfinished.2 rfl), List.filterMap_cons_some houtcome,
        List.map_cons, List.map_cons, houtcome, ih]

theorem isFinished_eq {c : Call} {h : CallHandle}
    (hc : x.outbound.workers.calls[h.call]? = some c) :
    x.isFinished h = c.isFinished := by
  rw [isFinished, Workers.isFinished, Workers.result?_eq hc, Option.isSome_map, Call.isFinished]

/-- The calls of the handles have ended and brought these values, one each. -/
def Yields {ν : Type} (x : Executor) (value : Decoder ν) (handles : List CallHandle)
    (values : List ν) : Prop :=
  handles.map (x.outcome? value) = values.map fun v => some (.ok v)

section Yields

variable {ν : Type} {value : Decoder ν} {handles handles' : List CallHandle}
  {values values' : List ν}

/-- What two lists of handles yield, they yield together. -/
theorem Yields.append (h : x.Yields value handles values) (h' : x.Yields value handles' values') :
    x.Yields value (handles ++ handles') (values ++ values') := by
  rw [Yields, List.map_append, List.map_append, h, h']

theorem Yields.length_eq (h : x.Yields value handles values) : handles.length = values.length := by
  have hlength := congrArg List.length h
  rwa [List.length_map, List.length_map] at hlength

/-- Calls that yield values have ended. -/
theorem Yields.isFinished (h : x.Yields value handles values) :
    ∀ handle ∈ handles, x.isFinished handle = true := by
  intro handle hmem
  have hsome : x.outcome? value handle ∈ values.map fun v => some (.ok v) :=
    h ▸ List.mem_map_of_mem hmem
  obtain ⟨v, -, hv⟩ := List.mem_map.1 hsome
  rw [isFinished_iff value, ← hv]
  rfl

end Yields

/-! ## Going on -/

/-- What can become of an executor: calls go on, and so do reads. -/
structure GoesOn (x x' : Executor) : Prop where
  calls : x.outbound.workers.GoesOn x'.outbound.workers
  reads : ∀ (place : Nat) (r : ReadOperation), x.reads[place]? = some r →
    ∃ r', x'.reads[place]? = some r' ∧ r.GoesOn r'

theorem GoesOn.refl (x : Executor) : x.GoesOn x := ⟨.refl _, fun _ r hr => ⟨r, hr, .refl r⟩⟩

theorem GoesOn.trans (h : x.GoesOn x') (h' : x'.GoesOn x'') : x.GoesOn x'' := by
  refine ⟨h.calls.trans h'.calls, fun place r hr => ?_⟩
  obtain ⟨r', hr', hon⟩ := h.reads place r hr
  obtain ⟨r'', hr'', hon'⟩ := h'.reads place r' hr'
  exact ⟨r'', hr'', hon.trans hon'⟩

/-- Calls go on, and reads stay as they are. -/
theorem GoesOn.of_calls (hreads : x'.reads = x.reads)
    (hcalls : x.outbound.workers.GoesOn x'.outbound.workers) : x.GoesOn x' :=
  ⟨hcalls, fun _ r hr => ⟨r, hreads ▸ hr, .refl r⟩⟩

/-- Outcomes stay as long as calls go on. -/
theorem outcome?_of_calls (h : x.outbound.workers.GoesOn x'.outbound.workers) {ν : Type}
    {value : Decoder ν} {handle : CallHandle} {outcome : Except ClusterError ν}
    (houtcome : x.outcome? value handle = some outcome) :
    x'.outcome? value handle = some outcome := by
  obtain ⟨c, how, hc, hend, rfl⟩ := outcome?_eq_some.1 houtcome
  obtain ⟨c', hc', hon⟩ := h handle.call c hc
  exact outcome?_eq_some.2 ⟨c', how, hc', hon.ended how hend, by rw [hon.terms_eq]⟩

/-- What calls brought stays. -/
theorem Yields.goesOn {ν : Type} {value : Decoder ν} {handles : List CallHandle} {values : List ν}
    (h : x.Yields value handles values)
    (hcalls : x.outbound.workers.GoesOn x'.outbound.workers) : x'.Yields value handles values := by
  rw [Yields, ← h]
  refine List.map_congr_left fun handle hmem => ?_
  obtain ⟨outcome, houtcome⟩ :=
    Option.isSome_iff_exists.1 ((isFinished_iff value).1 (h.isFinished handle hmem))
  rw [houtcome]
  exact outcome?_of_calls hcalls houtcome

/-- An outcome that is there stays. -/
theorem GoesOn.outcome? (h : x.GoesOn x') {ν : Type} {value : Decoder ν} {handle : CallHandle}
    {outcome : Except ClusterError ν} (houtcome : x.outcome? value handle = some outcome) :
    x'.outcome? value handle = some outcome := outcome?_of_calls h.calls houtcome

/-- What comes back for a read is there if all its handles' calls have ended. -/
theorem gather?_eq_some {handles : List CallHandle} (hhandles : r.handles = .ok handles) :
    x.gather? r = some result ↔ (∀ h ∈ handles, x.isFinished h = true) ∧
      result = .ok (.ofOutcomes r.command
        (handles.filterMap fun h => (x.outcome? r.value h).map (h.target, ·))) := by
  rw [gather?, hhandles]
  simp only [Option.map_eq_some_iff, Lists.mapM_eq_some, Option.isSome_map,
    ← isFinished_iff r.value]
  constructor
  · rintro ⟨outcomes, ⟨hall, rfl⟩, rfl⟩
    exact ⟨hall, rfl⟩
  · rintro ⟨hall, rfl⟩
    exact ⟨_, ⟨hall, rfl⟩, rfl⟩

/-- What a read gathered stays. -/
theorem GoesOn.gather? (h : x.GoesOn x') {r' : ReadOperation} (hr : r.GoesOn r')
    (hgather : x.gather? r = some result) : x'.gather? r' = some result := by
  cases hhandles : r.handles with
  | error e =>
    rw [Executor.gather?, hhandles] at hgather
    rw [Executor.gather?, hr.handles_eq, hhandles]
    exact hgather
  | ok handles =>
    obtain ⟨hall, rfl⟩ := (gather?_eq_some hhandles).1 hgather
    have hsome : ∀ handle ∈ handles, ∃ outcome, x.outcome? r.value handle = some outcome ∧
        x'.outcome? r.value handle = some outcome := by
      intro handle hmem
      obtain ⟨outcome, houtcome⟩ :=
        Option.isSome_iff_exists.1 ((isFinished_iff r.value).1 (hall handle hmem))
      exact ⟨outcome, houtcome, h.outcome? houtcome⟩
    refine (gather?_eq_some (hr.handles_eq.trans hhandles)).2 ⟨fun handle hmem => ?_, ?_⟩
    · obtain ⟨outcome, -, houtcome⟩ := hsome handle hmem
      exact (isFinished_iff r.value).2 (by rw [houtcome]; rfl)
    · rw [hr.command_eq, hr.value_eq]
      congr 2
      refine List.filterMap_congr fun handle hmem => ?_
      obtain ⟨outcome, hbefore, hafter⟩ := hsome handle hmem
      rw [hbefore, hafter]

/-! ## Deeds -/

/-- To start calls changes nothing about those that are there. -/
theorem goesOn_startWithin (budget : Option Nat) (kind : CommandKind) (c : Command) :
    x.GoesOn (x.startWithin budget kind c).2 := by
  cases hplan : c.plan kind x.limits x.layout with
  | error e =>
    rw [startWithin_error _ hplan]
    exact .of_calls rfl (.refl _)
  | ok planned =>
    rw [startWithin_ok _ hplan]
    refine .of_calls rfl ?_
    rw [outbound_submitted]
    exact Workers.goesOn_append _

theorem goesOn_read (kind : CommandKind) (allOrNothing : Bool) (c : Command)
    (value : Decoder Json) : x.GoesOn (x.read kind allOrNothing c value).2 := by
  have hstart : x.GoesOn (x.start kind c).2 := goesOn_startWithin x.budget kind c
  exact ⟨hstart.calls, fun _ r hr =>
    ⟨r, Lists.getElem?_of_prefix (List.prefix_append _ _) hr, .refl r⟩⟩

theorem goesOn_cancel (h : CallHandle) : x.GoesOn (x.cancel h) :=
  .of_calls rfl (Workers.goesOn_requestStop _)

theorem goesOn_cancelAll (handles : List CallHandle) : x.GoesOn (handles.foldl cancel x) := by
  induction handles generalizing x with
  | nil => exact .refl x
  | cons h handles ih => exact (goesOn_cancel h).trans ih

/-- Whatever is done, calls and reads go on. -/
theorem goesOn_perform (d : Deed) : x.GoesOn (d.perform now x) := by
  cases d with
  | start budget kind c => exact goesOn_startWithin budget kind c
  | read kind allOrNothing c value => exact goesOn_read kind allOrNothing c value
  | cancel h => exact goesOn_cancel h
  | assign layout => exact .of_calls rfl (.refl _)
  | disturb change => exact .of_calls rfl (.refl _)

/-! ## Ending reads -/

/-- A read after its turn: it has ended, if its calls have. -/
def concluded (x : Executor) (r : ReadOperation) : ReadOperation :=
  { r with gathered := r.gathered.or (x.gather? r) }

/-- A read that is concluded keeps its result, if it had one. -/
theorem goesOn_concluded : r.GoesOn (x.concluded r) :=
  ⟨rfl, rfl, rfl, rfl, fun result hresult => by rw [concluded, hresult]; rfl⟩

/-- How reads conclude depends on the calls alone. -/
theorem concluded_congr (h : x'.outbound = x.outbound) : x'.concluded = x.concluded := by
  funext r
  simp only [concluded, Executor.gather?, Executor.outcome?, h]

/-- What has ended and what has no outcome yet stays as it is. -/
theorem concluded_eq_self (h : r.gathered.isSome = true ∨ x.gather? r = none) :
    x.concluded r = r := by
  rw [concluded]
  rcases h with h | h
  · obtain ⟨result, hresult⟩ := Option.isSome_iff_exists.1 h
    rw [hresult, Option.some_or, ← hresult]
  · rw [h, Option.or_none]

theorem outbound_finishRead (place : Nat) : (x.finishRead place).outbound = x.outbound := by
  rw [finishRead]
  split
  · split
    · dsimp only
      split <;> rfl
    · rfl
  · rfl

/-- Only the read at the place is concluded. -/
theorem getElem?_finishRead (place i : Nat) : (x.finishRead place).reads[i]? =
    if i = place then x.reads[i]?.map x.concluded else x.reads[i]? := by
  by_cases hi : i = place
  · subst hi
    rw [if_pos rfl, finishRead]
    split
    · rename_i r hr
      rw [hr, Option.map_some]
      split
      · rename_i g hnone hgather
        have hset : (x.reads.set i { r with gathered := some g })[i]? =
            some { r with gathered := some g } :=
          List.getElem?_set_self (List.getElem?_eq_some_iff.1 hr).1
        rw [concluded, hnone, Option.none_or, hgather]
        dsimp only
        split <;> exact hset
      · rename_i hother
        rw [hr, concluded_eq_self]
        cases hgathered : r.gathered with
        | some result => exact .inl rfl
        | none =>
          cases hgather : x.gather? r with
          | none => exact .inr rfl
          | some g => exact (hother g hgathered hgather).elim
    · rename_i hnone
      rw [hnone]
      rfl
  · rw [if_neg hi, finishRead]
    split
    · split
      · dsimp only
        split <;> exact List.getElem?_set_ne (Ne.symm hi)
      · rfl
    · rfl

/-- The first reads are concluded, one after the other. -/
theorem foldl_finishRead (k : Nat) :
    ((List.range k).foldl finishRead x).outbound = x.outbound ∧
      ∀ i, ((List.range k).foldl finishRead x).reads[i]? =
        if i < k then x.reads[i]?.map x.concluded else x.reads[i]? := by
  induction k with
  | zero => exact ⟨rfl, fun _ => rfl⟩
  | succ k ih =>
    obtain ⟨houtbound, hreads⟩ := ih
    rw [List.range_succ, List.foldl_concat]
    refine ⟨(outbound_finishRead k).trans houtbound, fun i => ?_⟩
    rw [getElem?_finishRead, concluded_congr houtbound, hreads]
    by_cases hi : i = k
    · rw [if_pos hi, if_neg (by omega), if_pos (by omega)]
    · rw [if_neg hi]
      by_cases hlt : i < k
      · rw [if_pos hlt, if_pos (by omega)]
      · rw [if_neg hlt, if_neg (by omega)]

/-- To conclude reads does nothing to calls. -/
theorem outbound_finishReads : x.finishReads.outbound = x.outbound := (foldl_finishRead _).1

/-- All reads have their turn. -/
theorem reads_finishReads : x.finishReads.reads = x.reads.map x.concluded := by
  refine List.ext_getElem? fun i => ?_
  rw [finishReads, (foldl_finishRead _).2, List.getElem?_map]
  split
  · rfl
  · rename_i hi
    rw [List.getElem?_eq_none (Nat.le_of_not_lt hi)]
    rfl

/-- The turn of an executor is that of its calls, for the calls. -/
theorem outbound_fire : (x.fire now).outbound = x.outbound.fire now := outbound_finishReads

/-- At a turn every read is concluded that can be, by the calls as they are then. -/
theorem reads_fire : (x.fire now).reads = x.reads.map (x.fire now).concluded := by
  rw [concluded_congr (x := { x with outbound := x.outbound.fire now }) outbound_fire]
  exact reads_finishReads

/-- At a turn calls and reads go on. -/
theorem goesOn_fire : x.GoesOn (x.fire now) := by
  refine ⟨?_, fun place r hr => ?_⟩
  · rw [outbound_fire]
    exact Outbound.goesOn_fire now _
  · refine ⟨(x.fire now).concluded r, ?_, goesOn_concluded⟩
    rw [reads_fire, List.getElem?_map, hr]
    rfl

/-! ## Runs -/

/-- In a run calls and reads go on. -/
theorem goesOn_of_run {t u : Timed Executor} {trace : List (Nat × Deed)}
    (h : Run machine Deed.perform t trace u) : t.state.GoesOn u.state :=
  h.invariant (I := fun _ u => t.state.GoesOn u.state) (.refl _)
    (fun _ _ _ hon _ _ => hon.trans goesOn_fire) (fun _ _ _ hon _ _ => hon)
    (fun _ _ d hon => hon.trans (goesOn_perform d))

/-- The read at a place went on from `r`, and what has come back for it is what its calls say. -/
def Reads (place : Nat) (r : ReadOperation) (x : Executor) : Prop :=
  ∃ r', x.reads[place]? = some r' ∧ r.GoesOn r' ∧
    ∀ result, r'.gathered = some result → x.gather? r' = some result

/-- Whatever is done, a read stays as it is until a turn. -/
theorem reads_perform {d : Deed} (hr : x.reads[place]? = some r) :
    (d.perform now x).reads[place]? = some r := by
  cases d with
  | start budget kind c =>
    rw [Deed.perform]
    cases hplan : c.plan kind x.limits x.layout with
    | error e => rw [startWithin_error _ hplan]; exact hr
    | ok planned => rw [startWithin_ok _ hplan]; exact hr
  | read kind allOrNothing c value => exact Lists.getElem?_of_prefix (List.prefix_append _ _) hr
  | cancel h => exact hr
  | assign layout => exact hr
  | disturb change => exact hr

/-- A read that is followed stays so, whatever is done. -/
theorem Reads.perform (h : Reads place r x) (d : Deed) : Reads place r (d.perform now x) := by
  obtain ⟨r', hr', hon, htold⟩ := h
  exact ⟨r', reads_perform hr', hon, fun result hresult =>
    (goesOn_perform d).gather? (.refl r') (htold result hresult)⟩

theorem Reads.fire (h : Reads place r x) : Reads place r (x.fire now) := by
  obtain ⟨r', hr', hon, htold⟩ := h
  refine ⟨(x.fire now).concluded r', ?_, hon.trans goesOn_concluded, fun result hresult => ?_⟩
  · rw [reads_fire, List.getElem?_map, hr']
    rfl
  · change (x.fire now).gather? r' = some result
    cases hgathered : r'.gathered with
    | some result' =>
      rw [concluded, hgathered, Option.some_or, Option.some.injEq] at hresult
      exact goesOn_fire.gather? (.refl r') (hresult ▸ htold result' hgathered)
    | none =>
      rw [concluded, hgathered, Option.none_or] at hresult
      exact hresult

theorem Reads.of_run {t u : Timed Executor} {trace : List (Nat × Deed)}
    (h : Run machine Deed.perform t trace u) (hreads : Reads place r t.state) :
    Reads place r u.state :=
  h.invariant (I := fun _ u => Reads place r u.state) hreads
    (fun _ _ _ h _ _ => h.fire) (fun _ _ _ h _ _ => h) (fun _ _ d h => h.perform d)

/-- A read that was just started. -/
theorem reads_read (kind : CommandKind) (allOrNothing : Bool) (c : Command)
    (value : Decoder Json) :
    Reads x.reads.length
      ⟨c.name, if allOrNothing then some (readCounter kind) else none, value, (x.start kind c).1,
        none⟩ (x.read kind allOrNothing c value).2 :=
  ⟨_, List.getElem?_concat_length, .refl _, fun _ h => nomatch h⟩

/-- What has come back is what the calls say. -/
theorem Reads.gather? (h : Reads place r x) (hresult : x.gathered? place = some result) :
    x.gather? r = some result := by
  obtain ⟨r', hr', hon, htold⟩ := h
  rw [gathered?, hr'] at hresult
  have hgather := htold result hresult
  rw [Executor.gather?, hon.handles_eq, hon.command_eq, hon.value_eq] at hgather
  exact hgather

/-- Once there is an outcome of a read, it comes back at the next turn, which is due at once. -/
theorem Reads.returns (h : Reads place r x) (hresult : x.gather? r = some result) (now : Nat) :
    (x.fire now).gathered? place = some result ∧
      (x.gathered? place = none → machine.due x = some 0) := by
  obtain ⟨r', hr', hon, htold⟩ := h
  have hgather : x.gather? r' = some result := by
    rw [Executor.gather?, hon.handles_eq, hon.command_eq, hon.value_eq]
    exact hresult
  constructor
  · rw [gathered?, reads_fire, List.getElem?_map, hr']
    change ((x.fire now).concluded r').gathered = some result
    rw [concluded, goesOn_fire.gather? (.refl r') hgather]
    cases hgathered : r'.gathered with
    | some result' => rw [Option.some_or, ← htold result' hgathered, hgather]
    | none => rfl
  · intro hnone
    have hany : (x.reads.any fun r => r.gathered.isNone && (x.gather? r).isSome) = true := by
      refine List.any_eq_true.2 ⟨r', List.mem_of_getElem? hr', ?_⟩
      rw [gathered?, hr', Option.bind_some] at hnone
      rw [hnone, hgather]
      rfl
    change due x = some 0
    rw [due, if_pos hany]

end Executor

end ScatterSearch
