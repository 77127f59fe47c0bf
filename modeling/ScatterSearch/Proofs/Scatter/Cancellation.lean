import ScatterSearch.Proofs.Call.Line
import ScatterSearch.Proofs.Scatter.Halting
import ScatterSearch.Proofs.Scatter.Isolation

/-!
# Cancelling handles

To cancel a handle of a shard is to stop the call of the server that serves the shard. Where no
shard is on two servers, that ends the call for all handles of this server and for no others
(`Executor.cancel_stops_own_call`).

Each call goes through the flow of its own line (`Executor.flow_of_run`), whatever handles of other
servers are cancelled meanwhile, so what comes of it is what had come of it without that
(`Executor.SameOutcome`). This takes that it need not wait for a worker that another call holds
(`Workers.Roomy`). A call that is told to stop before its end is aborted
(`Executor.halts_of_run`).
-/

namespace ScatterSearch

/-! ## Room for all -/

/-- All calls but the last ones have ended, and each of these could have a worker. -/
structure Workers.Roomy (first count : Nat) (w : Workers) : Prop where
  length : w.calls.length = first + count
  capacity : count ≤ w.capacity
  ended : ∀ place < first, ∀ c, w.calls[place]? = some c → c.isFinished = true

namespace Workers.Roomy

variable {first count : Nat} {w w' : Workers}

/-- Whoever waits for a worker finds one. -/
theorem free (h : w.Roomy first count) {place : Nat} {c : Call} (hc : w.calls[place]? = some c)
    (hqueued : c.isQueued = true) : w.inFlight < w.capacity := by
  have hunfinished : c.isFinished = false := by
    obtain ⟨terms, request, stage, stopping⟩ := c
    cases stage with
    | queued => rfl
    | connecting | executing | reconnecting | ended => cases hqueued
  have hfirst : first ≤ place := by
    refine Nat.le_of_not_lt fun hlt => ?_
    rw [h.ended place hlt c hc] at hunfinished
    cases hunfinished
  have hmem : c ∈ w.calls.drop first := by
    refine List.mem_of_getElem? (i := place - first) ?_
    rw [List.getElem?_drop, Nat.add_sub_cancel' hfirst]
    exact hc
  have hcount : w.inFlight = ((w.calls.drop first).filter (·.holdsWorker)).length := by
    have hended : ∀ i < first, ∀ c, w.calls[0 + i]? = some c → c.isFinished = true :=
      fun i hi c hc => h.ended i hi c (by rwa [Nat.zero_add] at hc)
    rw [Executor.inFlight_of_ended hended]
    simp
  have hlt : ((w.calls.drop first).filter (·.holdsWorker)).length < (w.calls.drop first).length :=
    List.length_filter_lt_length_iff_exists.2
      ⟨c, hmem, Bool.eq_false_iff.1 (Call.holdsWorker_of_isQueued hqueued)⟩
  rw [List.length_drop, h.length, Nat.add_sub_cancel_left] at hlt
  exact hcount ▸ Nat.lt_of_lt_of_le hlt h.capacity

theorem goesOn (h : w.Roomy first count) (hon : w.GoesOn w')
    (hlength : w'.calls.length = w.calls.length) (hcapacity : w'.capacity = w.capacity) :
    w'.Roomy first count := by
  refine ⟨hlength.trans h.length, hcapacity ▸ h.capacity, fun place hlt c' hc' => ?_⟩
  have hplace : place < w.calls.length := hlength ▸ (List.getElem?_eq_some_iff.1 hc').1
  obtain ⟨c'', hc'', hgoes⟩ := hon place _ (List.getElem?_eq_getElem hplace)
  obtain rfl := Option.some.inj (hc''.symm.trans hc')
  obtain ⟨how, hend⟩ :=
    Call.isFinished_iff.1 (h.ended place hlt _ (List.getElem?_eq_getElem hplace))
  exact Call.isFinished_iff.2 ⟨how, hgoes.ended how hend⟩

end Workers.Roomy

namespace Outbound

variable {o : Outbound} {now : Nat}

theorem capacity_apply (place : Nat) (e : CallEvent) :
    (o.apply now place e).workers.capacity = o.workers.capacity := by
  rw [workers_apply, Workers.step]
  split <;> rfl

theorem length_fire (now : Nat) (o : Outbound) :
    (o.fire now).workers.calls.length = o.workers.calls.length :=
  keeps_fire (P := fun o' => o'.workers.calls.length = o.workers.calls.length)
    (fun _ place e h => (length_apply place e).trans h) (fun _ h => h) rfl

theorem capacity_fire (now : Nat) (o : Outbound) :
    (o.fire now).workers.capacity = o.workers.capacity :=
  keeps_fire (P := fun o' => o'.workers.capacity = o.workers.capacity)
    (fun _ place e h => (capacity_apply place e).trans h) (fun _ h => h) rfl

end Outbound

/-- Another call is told to stop. -/
theorem Line.On.requestStop {k : Talk} {l : Line} {o : Outbound} (h : l.On k o) {other : Nat}
    (hother : other ≠ k.place) : l.On k (o.requestStop other) := by
  refine ⟨⟨?_, h.exchange, h.contact⟩, h.terms, ⟨⟨h.secluded.tidy.fresh, h.secluded.tidy.apart⟩,
    ?_, h.secluded.route⟩⟩
  · exact (List.getElem?_modify_ne _ _ hother).trans h.call
  · exact h.secluded.alone.of_goesOn (Workers.goesOn_requestStop other) (List.length_modify _ _ _)

namespace Executor

variable {x : Executor} {c : Command} {planned earlier later : List PlannedCall} {p : PlannedCall}
  {handles : List CallHandle} {h : CallHandle} {k : Talk} {l : Line} {first count now : Nat}
  {trace : List (Nat × Deed)} {t u u' v : Timed Executor} {server : Server} {arguments : Json}
  {remote : Remote}

/-! ## Runs in which other calls are cancelled -/

/-- A line that is on its way among the calls of an executor. -/
structure Follows (k : Talk) (first count : Nat) (begun : Timed Line) (l : Line)
    (u : Timed Executor) : Prop where
  on : l.On k u.state.outbound
  sound : l.Sound
  roomy : u.state.outbound.workers.Roomy first count
  flow : Flow (Line.machine k.remote) begun ⟨u.now, l⟩

variable {begun : Timed Line}

/-- The executor is due no later than the line. -/
theorem Follows.due_le (hf : Follows k first count begun l u) {d : Nat} (hd : l.due = some d) :
    ∃ d', u.state.due = some d' ∧ d' ≤ d := by
  rw [due]
  split
  · exact ⟨0, rfl, Nat.zero_le d⟩
  · exact hf.on.due_le hf.sound (fun hqueued => hf.roomy.free hf.on.call hqueued) hd

theorem Follows.settled (hf : Follows k first count begun l u) (hsettled : u.Settled machine) :
    Timed.Settled (Line.machine k.remote) ⟨u.now, l⟩ := by
  intro d hd
  obtain ⟨d', hd', hle⟩ := hf.due_le hd
  exact Nat.lt_of_lt_of_le (hsettled d' hd') hle

theorem Follows.fire (hf : Follows k first count begun l u) :
    ∃ l', Follows k first count begun l' ⟨u.now, u.state.fire u.now⟩ := by
  have hroomy : (u.state.outbound.fire u.now).workers.Roomy first count :=
    hf.roomy.goesOn (Outbound.goesOn_fire u.now _) (Outbound.length_fire u.now _)
      (Outbound.capacity_fire u.now _)
  rcases hf.on.fire hf.sound u.now with hon | hon
  · by_cases hdue : ∃ d, l.due = some d ∧ d ≤ u.now
    · obtain ⟨d, hd, hle⟩ := hdue
      refine ⟨l.fire k.remote u.now, ?_, hf.sound.fire, ?_, hf.flow.fire hd hle⟩
      · rw [outbound_fire]
        exact hon
      · rw [outbound_fire]
        exact hroomy
    · have hidle : l.fire k.remote u.now = l :=
        Line.fire_of_idle fun d hd => Nat.lt_of_not_le fun hle => hdue ⟨d, hd, hle⟩
      rw [hidle] at hon
      refine ⟨l, ?_, hf.sound, ?_, hf.flow⟩
      · rw [outbound_fire]
        exact hon
      · rw [outbound_fire]
        exact hroomy
  · refine ⟨l, ?_, hf.sound, ?_, hf.flow⟩
    · rw [outbound_fire]
      exact hon
    · rw [outbound_fire]
      exact hroomy

/-- A line goes through its flow while handles of other calls are cancelled. -/
theorem flow_of_run (hrun : Run machine Deed.perform t trace u)
    (hdeeds : ∀ d ∈ trace, ∃ h, d.2 = .cancel h ∧ h.call ≠ k.place)
    (hstart : Follows k first count begun l t) : ∃ l', Follows k first count begun l' u := by
  refine hrun.invariant
    (I := fun trace u => (∀ d ∈ trace, ∃ h, d.2 = .cancel h ∧ h.call ≠ k.place) →
      ∃ l', Follows k first count begun l' u) (fun _ => ⟨l, hstart⟩) ?fire ?pass ?act hdeeds
  case fire =>
    intro trace u due hu hdue hle hdeeds
    obtain ⟨l', hf⟩ := hu hdeeds
    exact hf.fire
  case pass =>
    intro trace u later hu hle hdue hdeeds
    obtain ⟨l', hf⟩ := hu hdeeds
    refine ⟨l', hf.on, hf.sound, hf.roomy, hf.flow.pass hle fun d hd => ?_⟩
    obtain ⟨d', hd', hle'⟩ := hf.due_le hd
    exact Nat.le_trans (hdue d' hd') hle'
  case act =>
    intro trace u d hu hdeeds
    obtain ⟨l', hf⟩ := hu fun d' hd' => hdeeds d' (List.mem_append_left _ hd')
    obtain ⟨h, rfl, hother⟩ :=
      hdeeds (u.now, d) (List.mem_append_right _ (List.mem_singleton_self _))
    refine ⟨l', hf.on.requestStop hother, hf.sound, ?_, hf.flow⟩
    exact hf.roomy.goesOn (Workers.goesOn_requestStop h.call) (List.length_modify _ _ _) rfl

/-! ## What comes of a handle -/

/-- What has come of a handle in one run has come of it in another by the instant at which that is
settled. -/
def Carries (h : CallHandle) (u u' : Timed Executor) : Prop :=
  u.now ≤ u'.now → u'.Settled machine → ∀ (ν : Type) (value : Decoder ν) outcome,
    u.state.outcome? value h = some outcome → u'.state.outcome? value h = some outcome

/-- The same comes of a handle in two runs. -/
def SameOutcome (h : CallHandle) (u u' : Timed Executor) : Prop := Carries h u u' ∧ Carries h u' u

variable {l' : Line} {ν : Type} {value : Decoder ν} {outcome outcome' : Except ClusterError ν}

/-- What has come of a handle is told by the end of the line's call. -/
theorem Follows.outcome?_eq_some (hf : Follows k first count begun l u) (hcall : h.call = k.place) :
    u.state.outcome? value h = some outcome ↔ ∃ how, l.call.end? = some how ∧
      outcome = h.target.outcome k.terms.server value (how.toResult k.terms.server h.call) := by
  rw [Executor.outcome?_eq_some]
  constructor
  · rintro ⟨c, how, hc, hend, rfl⟩
    rw [hcall] at hc
    obtain rfl := Option.some.inj (hf.on.call.symm.trans hc)
    exact ⟨how, hend, by rw [hf.on.terms]⟩
  · rintro ⟨how, hend, rfl⟩
    exact ⟨l.call, how, hcall ▸ hf.on.call, hend, by rw [hf.on.terms]⟩

theorem lasts_end (r : Remote) (how : CallEnd) (now : Nat) (l : Line)
    (h : l.call.end? = some how) : ((Line.machine r).fire now l).call.end? = some how := by
  change (l.fire r now).call.end? = some how
  rw [Line.call_fire_of_ended h]
  exact h

/-- Two executors among whose calls the same line is on its way carry its outcome to each other. -/
theorem Follows.carries (hf : Follows k first count begun l u)
    (hf' : Follows k first count begun l' u') (hcall : h.call = k.place) : Carries h u u' := by
  intro hle hsettled ν value outcome houtcome
  obtain ⟨how, hend, rfl⟩ := (hf.outcome?_eq_some hcall).1 houtcome
  refine (hf'.outcome?_eq_some hcall).2 ⟨how, ?_, rfl⟩
  exact hf.flow.meets (P := fun l => l.call.end? = some how) (lasts_end k.remote how) hf'.flow hle
    (hf'.settled hsettled) hend

/-- What they have both seen come of the handle is the same. -/
theorem Follows.outcome_eq (hf : Follows k first count begun l u)
    (hf' : Follows k first count begun l' u') (hcall : h.call = k.place)
    (houtcome : u.state.outcome? value h = some outcome)
    (houtcome' : u'.state.outcome? value h = some outcome') : outcome = outcome' := by
  obtain ⟨how, hend, rfl⟩ := (hf.outcome?_eq_some hcall).1 houtcome
  obtain ⟨how', hend', rfl⟩ := (hf'.outcome?_eq_some hcall).1 houtcome'
  have hsame : how = how' := by
    rcases hf.flow.comparable hf'.flow with hflow | hflow
    · have hlast := hflow.lasts (P := fun l => l.call.end? = some how) (lasts_end k.remote how) hend
      exact Option.some.inj (hlast.symm.trans hend')
    · have hlast := hflow.lasts (P := fun l => l.call.end? = some how') (lasts_end k.remote how')
        hend'
      exact Option.some.inj (hend.symm.trans hlast)
  rw [hsame]

/-- Once the line's call has ended, it does not matter what happens to the executor. -/
theorem Follows.sameOutcome (hf : Follows k first count begun l u)
    (hf' : Follows k first count begun l' u') (hcall : h.call = k.place)
    (hended : u.state.isFinished h = true) {v : Timed Executor} (hstays : u.state.GoesOn v.state)
    (hnow : u.now ≤ v.now) : SameOutcome h v u' := by
  have hcame : ∀ (ν : Type) (value : Decoder ν), ∃ outcome,
      u.state.outcome? value h = some outcome ∧ v.state.outcome? value h = some outcome := by
    intro ν value
    obtain ⟨outcome, houtcome⟩ := Option.isSome_iff_exists.1 ((isFinished_iff value).1 hended)
    exact ⟨outcome, houtcome, hstays.outcome? houtcome⟩
  constructor
  · intro hle hsettled ν value outcome houtcome
    obtain ⟨outcome', hu, hv⟩ := hcame ν value
    obtain rfl := Option.some.inj (hv.symm.trans houtcome)
    exact hf.carries hf' hcall (Nat.le_trans hnow hle) hsettled ν value _ hu
  · intro hle hsettled ν value outcome houtcome
    obtain ⟨outcome', hu, hv⟩ := hcame ν value
    rw [hv, hf.outcome_eq hf' hcall hu houtcome]

/-! ## A call that was told to stop -/

/-- Whatever is done, a call that was told to stop before its end goes no further. -/
theorem halts_of_run {place : Nat} {call : Call} {did : List CallAction}
    (hrun : Run machine Deed.perform t trace u) (hgoes : call.isFinished = false)
    (h : t.state.outbound.Halts place call did) : u.state.outbound.Halts place call did := by
  refine hrun.invariant (I := fun _ u => u.state.outbound.Halts place call did) h
    (fun _ u _ hu _ _ => ?_) (fun _ _ _ hu _ _ => hu) fun _ u d hu => ?_
  · exact .stopped (stopped_fire hgoes u.now hu)
  · cases hu with
    | told stands => exact .told (stands_perform Call.requestStop_requestStop d stands)
    | stopped stopped =>
      exact .stopped (stands_perform (Call.requestStop_of_finished rfl) d stopped)

/-- What comes of a handle that is cancelled before the end of its call, once no more is due. -/
theorem abandoned_of_run (hrun : Run machine Deed.perform ⟨v.now, v.state.cancel h⟩ trace u)
    {h' : CallHandle} (hsibling : h'.call = h.call) {call : Call}
    (hc : v.state.outbound.workers.calls[h.call]? = some call) (hgoes : call.isFinished = false) :
    (u.Settled machine → u.state.isFinished h' = true) ∧ ∀ (ν : Type) (value : Decoder ν) outcome,
      u.state.outcome? value h' = some outcome → outcome = .error (.cancelled .abandoned) := by
  have hstart :
      (v.state.cancel h).outbound.Halts h.call call (v.state.outbound.actions h.call) := by
    refine .told ⟨?_, rfl⟩
    change (v.state.outbound.workers.calls.modify h.call Call.requestStop)[h.call]? = _
    rw [List.getElem?_modify_eq, hc]
    rfl
  have hhalts := halts_of_run hrun hgoes hstart
  refine ⟨fun hsettled => ?_, fun ν value outcome houtcome => ?_⟩
  · cases hhalts with
    | told stands => exact absurd (hsettled 0 (due_of_told hgoes stands)) (Nat.not_lt_zero _)
    | stopped stopped => rw [isFinished_eq (hsibling ▸ stopped.call)]; rfl
  · obtain ⟨c, how, hc', hend, rfl⟩ := outcome?_eq_some.1 houtcome
    rw [hsibling] at hc'
    cases hhalts with
    | told stands =>
      obtain rfl := Option.some.inj (stands.call.symm.trans hc')
      have hfinished := Call.isFinished_iff.2 ⟨how, hend⟩
      rw [Call.isFinished_requestStop, hgoes] at hfinished
      cases hfinished
    | stopped stopped =>
      obtain rfl := Option.some.inj (stopped.call.symm.trans hc')
      obtain rfl := Option.some.inj (hend.symm.trans rfl)
      rfl

/-! ## The handles of a server -/

/-- The handle is for a shard of the server. -/
def Of (l : Layout) (server : Server) (h : CallHandle) : Prop :=
  ∃ s, h.target = .shard s ∧ s ∈ l.served server

/-- The call of a handle is to the server of its shard. -/
theorem exists_call_of_handle (hdisjoint : x.layout.Disjoint)
    (hh : h ∈ handed x.budget (c.calls .indexRead arguments x.layout) x.outbound) :
    ∃ earlier p later, c.calls .indexRead arguments x.layout = earlier ++ p :: later ∧
      h.call = x.outbound.workers.calls.length + earlier.length ∧
      ∀ server, Of x.layout server h ↔ server = p.server := by
  obtain ⟨earlier, p, later, hcalls, htarget, -, hcall⟩ := get?_submitted.1 (mem_handed.1 hh)
  have hp : p ∈ c.calls .indexRead arguments x.layout :=
    hcalls ▸ List.mem_append_right _ List.mem_cons_self
  rw [targets, (Command.mem_calls hp).1, List.mem_map] at htarget
  obtain ⟨s, hs, hshard⟩ := htarget
  obtain ⟨hserved, -⟩ := (Command.mem_shards hp).1 hs
  refine ⟨earlier, p, later, hcalls, hcall, fun server => ⟨?_, ?_⟩⟩
  · rintro ⟨s', hs', hserved'⟩
    obtain rfl := Target.shard.inj (hshard.trans hs')
    exact hdisjoint _ _ _ hserved' hserved
  · rintro rfl
    exact ⟨s, hshard.symm, hserved⟩

/-- A server is called once. -/
theorem earlier_eq (hvalid : x.layout.Valid) {earlier' later' : List PlannedCall} {p' : PlannedCall}
    (hcalls : c.calls .indexRead arguments x.layout = earlier ++ p :: later)
    (hcalls' : c.calls .indexRead arguments x.layout = earlier' ++ p' :: later')
    (hserver : p.server = p'.server) : earlier.length = earlier'.length := by
  have hp : (c.calls .indexRead arguments x.layout)[earlier.length]? = some p := by
    rw [hcalls]
    simp
  have hp' : (c.calls .indexRead arguments x.layout)[earlier'.length]? = some p' := by
    rw [hcalls']
    simp
  exact Command.place_eq_of_server_eq hvalid hp hp' hserver

/-- Handles have one call if they are for shards of one server, and only then. -/
theorem call_eq_iff (hvalid : x.layout.Valid) (hdisjoint : x.layout.Disjoint) {h' : CallHandle}
    (hh : h ∈ handed x.budget (c.calls .indexRead arguments x.layout) x.outbound)
    (hh' : h' ∈ handed x.budget (c.calls .indexRead arguments x.layout) x.outbound) :
    h'.call = h.call ↔ ∃ server, Of x.layout server h ∧ Of x.layout server h' := by
  obtain ⟨earlier, p, later, hcalls, hcall, hof⟩ := exists_call_of_handle hdisjoint hh
  obtain ⟨earlier', p', later', hcalls', hcall', hof'⟩ := exists_call_of_handle hdisjoint hh'
  constructor
  · intro hsame
    have hlength : earlier'.length = earlier.length := by omega
    obtain ⟨-, hrest⟩ := List.append_inj (hcalls'.symm.trans hcalls) hlength
    obtain ⟨rfl, -⟩ := List.cons.inj hrest
    exact ⟨p'.server, (hof _).2 rfl, (hof' _).2 rfl⟩
  · rintro ⟨server, hserver, hserver'⟩
    have hsame := ((hof' server).1 hserver').symm.trans ((hof server).1 hserver)
    rw [hcall, hcall', earlier_eq hvalid hcalls' hcalls hsame]

/-- Once a plan is submitted, the line of each of its calls is on its way. -/
theorem follows_started (now : Nat) (hvalid : x.layout.Valid) (hrests : x.Rests)
    (hplan : c.plan .indexRead x.limits x.layout = .ok (c.calls .indexRead arguments x.layout))
    (hcalls : c.calls .indexRead arguments x.layout = earlier ++ p :: later)
    (hroom : (c.calls .indexRead arguments x.layout).length ≤ x.outbound.workers.capacity)
    (hroute : x.outbound.network.route p.server = .remote remote) :
    ∃ l, Follows (x.talk earlier p remote) x.outbound.workers.calls.length
      (c.calls .indexRead arguments x.layout).length ⟨now, l⟩ l
      ⟨now, (x.start .indexRead c).2⟩ := by
  have hstart : (x.start .indexRead c).2.outbound =
      (submitted x.budget (c.calls .indexRead arguments x.layout) x.outbound).2 :=
    congrArg (·.2.outbound) (startWithin_ok x.budget hplan)
  have hsecluded := (goes_submitted now hvalid hrests hcalls hroute).2
  have hcall := getElem?_submitted x.budget x.outbound hcalls
  rw [← hstart] at hsecluded hcall
  rw [outbound_submitted] at hstart
  refine ⟨⟨.new ⟨p.server, x.budget⟩ p.request, none, x.outbound.network.contact p.server⟩,
    ⟨⟨hcall, ?_, ?_⟩, rfl, hsecluded⟩, ⟨rfl, fun _ => rfl, fun _ h => nomatch h⟩, ⟨?_, ?_, ?_⟩,
    .start _⟩
  · change Option.bind ((x.start .indexRead c).2.outbound.waits.get? _) _ = _
    rw [hstart, hrests.waits]
    rfl
  · change (x.start .indexRead c).2.outbound.network.contact _ = _
    rw [hstart]
    rfl
  · change (x.start .indexRead c).2.outbound.workers.calls.length = _
    rw [hstart, List.length_append, freshCalls, List.length_map]
  · change _ ≤ (x.start .indexRead c).2.outbound.workers.capacity
    rw [hstart]
    exact hroom
  · intro place hlt call hc
    change (x.start .indexRead c).2.outbound.workers.calls[place]? = some call at hc
    rw [hstart, List.getElem?_append_left hlt] at hc
    exact hrests.ended call (List.mem_of_getElem? hc)

/-! ## Cancelling some handles -/

/-- No handle of the server is cancelled. -/
def Spares (l : Layout) (server : Server) (trace : List (Nat × Deed)) : Prop :=
  ∀ d ∈ trace, ∀ h, d.2 = .cancel h → ¬ Of l server h

/-- An index read over a layout in which no shard is on two servers, by an executor at rest that has
a worker for each call. Handles share a call if they are for shards of one server, and only then.
Any of them may be cancelled at any instants. As long as none of a server's handles is cancelled,
the same comes of all of them as if no handle at all were cancelled. Once one of them is cancelled
for the first time, it is decided what comes of them all: if their call goes on, it is abandoned; if
it has ended, the same comes of them as if no handle were cancelled. -/
theorem cancel_stops_own_call (hvalid : x.layout.Valid) (hdisjoint : x.layout.Disjoint)
    (hrests : x.Rests) (hplan : c.plan .indexRead x.limits x.layout = .ok planned)
    (hroom : planned.length ≤ x.outbound.workers.capacity)
    (hremote : ∀ p ∈ planned, ∃ remote, x.outbound.network.route p.server = .remote remote)
    (now : Nat) :
    ∃ handles, (x.start .indexRead c).1 = .ok handles ∧
      (handles.map (·.target)).Perm ((c.selected x.layout).map .shard) ∧
      (∀ h ∈ handles, ∀ h' ∈ handles,
        h'.call = h.call ↔ ∃ server, Of x.layout server h ∧ Of x.layout server h') ∧
      ∀ trace u, Run machine Deed.perform ⟨now, (x.start .indexRead c).2⟩ trace u →
        (∀ d ∈ trace, ∃ h ∈ handles, d.2 = .cancel h) →
        ∀ h ∈ handles, ∀ server, Of x.layout server h →
          (Spares x.layout server trace →
            ∀ u', Run machine Deed.perform ⟨now, (x.start .indexRead c).2⟩ [] u' →
              SameOutcome h u u') ∧
          ∀ before t h' after, trace = before ++ (t, .cancel h') :: after →
            Spares x.layout server before → Of x.layout server h' →
            (∃ v, Run machine Deed.perform ⟨now, (x.start .indexRead c).2⟩ before v ∧ v.now = t ∧
              Run machine Deed.perform ⟨v.now, v.state.cancel h'⟩ after u) ∧
            ∀ v, Run machine Deed.perform ⟨now, (x.start .indexRead c).2⟩ before v → v.now = t →
              Run machine Deed.perform ⟨v.now, v.state.cancel h'⟩ after u →
              (v.state.isFinished h = false →
                (u.Settled machine → u.state.isFinished h = true) ∧
                ∀ (ν : Type) (value : Decoder ν) outcome,
                  u.state.outcome? value h = some outcome →
                    outcome = .error (.cancelled .abandoned)) ∧
              (v.state.isFinished h = true →
                ∀ u', Run machine Deed.perform ⟨now, (x.start .indexRead c).2⟩ [] u' →
                  SameOutcome h u u') := by
  obtain ⟨arguments, -, rfl⟩ := Command.calls_of_plan hplan
  refine ⟨_, congrArg Prod.fst (startWithin_ok x.budget hplan),
    targets_perm_selected hvalid hdisjoint, fun h hh h' hh' => call_eq_iff hvalid hdisjoint hh hh',
    fun trace u hrun hdeeds h hh server hof => ?_⟩
  obtain ⟨earlier, p, later, hcalls, hcall, hservers⟩ := exists_call_of_handle hdisjoint hh
  obtain rfl := (hservers server).1 hof
  obtain ⟨remote, hroute⟩ := hremote p (hcalls ▸ List.mem_append_right _ List.mem_cons_self)
  obtain ⟨line, hstart⟩ := follows_started now hvalid hrests hplan hcalls hroom hroute
  -- through a run that spares the server the line goes its way
  have hspared : ∀ {trace : List (Nat × Deed)} {u : Timed Executor},
      Run machine Deed.perform ⟨now, (x.start .indexRead c).2⟩ trace u →
      (∀ d ∈ trace, ∃ h ∈ handed x.budget (c.calls .indexRead arguments x.layout) x.outbound,
        d.2 = .cancel h) → Spares x.layout p.server trace →
      ∃ l, Follows (x.talk earlier p remote) x.outbound.workers.calls.length
        (c.calls .indexRead arguments x.layout).length ⟨now, line⟩ l u := by
    intro trace u hrun hdeeds hspares
    refine flow_of_run hrun (fun d hd => ?_) hstart
    obtain ⟨h', hh', hcancel⟩ := hdeeds d hd
    refine ⟨h', hcancel, fun hplace => hspares d hd h' hcancel ?_⟩
    obtain ⟨server', hof, hof'⟩ := (call_eq_iff hvalid hdisjoint hh hh').1 (hplace.trans hcall.symm)
    rwa [(hservers server').1 hof] at hof'
  have halone : ∀ {u' : Timed Executor},
      Run machine Deed.perform ⟨now, (x.start .indexRead c).2⟩ [] u' →
      ∃ l, Follows (x.talk earlier p remote) x.outbound.workers.calls.length
        (c.calls .indexRead arguments x.layout).length ⟨now, line⟩ l u' :=
    fun hrun' => hspared hrun' (fun _ hd => nomatch hd) fun _ hd => nomatch hd
  refine ⟨fun hspares u' hrun' => ?_, fun before t h' after htrace hbefore hof' => ?_⟩
  · obtain ⟨l, hf⟩ := hspared hrun hdeeds hspares
    obtain ⟨l', hf'⟩ := halone hrun'
    exact ⟨hf.carries hf' hcall, hf'.carries hf hcall⟩
  · refine ⟨hrun.split htrace, ?_⟩
    rintro v hrunv rfl hafter
    obtain ⟨l, hf⟩ := hspared hrunv
      (fun d hd => hdeeds d (htrace ▸ List.mem_append_left _ hd)) hbefore
    obtain ⟨h'', hh'', hcancel⟩ := hdeeds (v.now, .cancel h')
      (htrace ▸ List.mem_append_right _ List.mem_cons_self)
    obtain rfl := Deed.cancel.inj hcancel
    have hsibling : h'.call = h.call :=
      (call_eq_iff hvalid hdisjoint hh hh'').2 ⟨p.server, hof, hof'⟩
    have hcallv : v.state.outbound.workers.calls[h'.call]? = some l.call := by
      rw [hsibling, hcall]
      exact hf.on.call
    refine ⟨fun hgoes => ?_, fun hended u' hrun' => ?_⟩
    · rw [isFinished_eq (hsibling ▸ hcallv)] at hgoes
      exact abandoned_of_run hafter hsibling.symm hcallv hgoes
    · obtain ⟨l', hf'⟩ := halone hrun'
      exact hf.sameOutcome hf' hcall hended ((goesOn_cancel h').trans (goesOn_of_run hafter))
        hafter.now_le

/-- Two shards on one server, a third one on another. Both servers count. -/
def uneven : Executor :=
  .new (.ofAssignments [(⟨"a:1"⟩, [⟨"t", "0"⟩, ⟨"t", "1"⟩]), (⟨"b:1"⟩, [⟨"t", "2"⟩])]) .default
    (coupleNetwork counting)

/-- It has been told to read the table. -/
def unevenStarted : Timed Executor := ⟨0, (uneven.start .indexRead coupleCommand).2⟩

/-- The handles of its shards: two of the first server, one of the other. -/
def unevenHandle (shard : String) (call : Nat) : CallHandle := ⟨.shard ⟨"t", shard⟩, call⟩

/-- A run goes on through some instants at which something is due. -/
def goOn (instants : Nat) (t : Timed Executor) : Timed Executor :=
  let (now, x) := Clock.await machine (fun _ => false) instants t.now t.state
  ⟨now, x⟩

theorem run_goOn (instants : Nat) (t : Timed Executor) :
    Run machine Deed.perform t [] (goOn instants t) :=
  Run.await _ instants t.now t.state

/-- The handle of the first shard is cancelled while both calls connect. Its sibling on the same
server is abandoned with it, and the same comes of the third shard as without that. -/
theorem uneven_cancelled : uneven.layout.Valid ∧ uneven.layout.Disjoint ∧ uneven.Rests ∧
    (uneven.start .indexRead coupleCommand).1 =
      .ok [unevenHandle "0" 0, unevenHandle "1" 0, unevenHandle "2" 1] ∧
    ∃ v u u' : Timed Executor, Run machine Deed.perform unevenStarted [] v ∧
      Run machine Deed.perform ⟨v.now, v.state.cancel (unevenHandle "0" 0)⟩ [] u ∧
      Run machine Deed.perform unevenStarted [] u' ∧
      u.state.outcome? .any (unevenHandle "0" 0) = some (.error (.cancelled .abandoned)) ∧
      u.state.outcome? .any (unevenHandle "1" 0) = some (.error (.cancelled .abandoned)) ∧
      u.state.isFinished (unevenHandle "2" 1) = true ∧ SameOutcome (unevenHandle "2" 1) u u' := by
  have hvalid : uneven.layout.Valid := Layout.valid_ofAssignments _
  have hdisjoint : uneven.layout.Disjoint := Layout.disjoint_of_servers (by decide +kernel)
  have hplan : coupleCommand.plan .indexRead uneven.limits uneven.layout =
      .ok (coupleCommand.calls .indexRead .null uneven.layout) :=
    Command.plan_of_known rfl (by decide +kernel) (by decide +kernel)
  have hremote : ∀ p ∈ coupleCommand.calls .indexRead .null uneven.layout,
      ∃ remote, uneven.outbound.network.route p.server = .remote remote := by
    intro p hp
    have hservers : ∀ server ∈ (coupleCommand.calls .indexRead .null uneven.layout).map (·.server),
        server = ⟨"a:1"⟩ ∨ server = ⟨"b:1"⟩ := by decide +kernel
    rcases hservers _ (List.mem_map_of_mem hp) with h | h <;> exact ⟨counting, by rw [h]; rfl⟩
  have hhandles : (uneven.start .indexRead coupleCommand).1 =
      .ok [unevenHandle "0" 0, unevenHandle "1" 0, unevenHandle "2" 1] := rfl
  obtain ⟨v, u, u', hv, hu, hu', hgoes, hdue, hother⟩ : ∃ v u u' : Timed Executor,
      Run machine Deed.perform unevenStarted [] v ∧
      Run machine Deed.perform ⟨v.now, v.state.cancel (unevenHandle "0" 0)⟩ [] u ∧
      Run machine Deed.perform unevenStarted [] u' ∧
      v.state.isFinished (unevenHandle "0" 0) = false ∧ u.state.due = none ∧
      u.state.isFinished (unevenHandle "2" 1) = true :=
    ⟨goOn 1 unevenStarted, goOn 20 ⟨(goOn 1 unevenStarted).now,
      (goOn 1 unevenStarted).state.cancel (unevenHandle "0" 0)⟩, goOn 20 unevenStarted,
      run_goOn _ _, run_goOn _ _, run_goOn _ _, by decide +kernel, by decide +kernel,
      by decide +kernel⟩
  have hrun : Run machine Deed.perform unevenStarted [(v.now, .cancel (unevenHandle "0" 0))] u :=
    (hv.act _).trans hu
  obtain ⟨handles, hresult, -, -, hall⟩ := cancel_stops_own_call hvalid hdisjoint (rests_new _ _ _)
    hplan (by decide +kernel) hremote 0
  obtain rfl := Except.ok.inj (hresult.symm.trans hhandles)
  have hall := hall _ u hrun fun d hd =>
    ⟨_, List.mem_cons_self, by rw [List.mem_singleton.1 hd]⟩
  have hfirst : Of uneven.layout ⟨"a:1"⟩ (unevenHandle "0" 0) := ⟨_, rfl, by decide +kernel⟩
  have hsibling : Of uneven.layout ⟨"a:1"⟩ (unevenHandle "1" 0) := ⟨_, rfl, by decide +kernel⟩
  have hthird : Of uneven.layout ⟨"b:1"⟩ (unevenHandle "2" 1) := ⟨_, rfl, by decide +kernel⟩
  have habandoned : ∀ h ∈ [unevenHandle "0" 0, unevenHandle "1" 0, unevenHandle "2" 1],
      Of uneven.layout ⟨"a:1"⟩ h → v.state.isFinished h = false →
      u.state.outcome? .any h = some (.error (.cancelled .abandoned)) := by
    intro h hh hof hgoes
    have hcancelled := ((hall h hh _ hof).2 [] v.now _ [] rfl (fun _ hd => nomatch hd) hfirst).2
      v hv rfl hu
    obtain ⟨hends, houtcome⟩ := hcancelled.1 hgoes
    have hfinished := hends fun due hdue' => nomatch hdue.symm.trans hdue'
    obtain ⟨outcome, hsome⟩ := Option.isSome_iff_exists.1 ((isFinished_iff Decoder.any).1 hfinished)
    rw [hsome, houtcome _ _ _ hsome]
  refine ⟨hvalid, hdisjoint, rests_new _ _ _, hhandles, v, u, u', hv, hu, hu',
    habandoned _ (by simp) hfirst hgoes, habandoned _ (by simp) hsibling hgoes, hother, ?_⟩
  refine (hall _ (by simp) _ hthird).1 (fun d hd h hcancel hof => ?_) u' hu'
  obtain rfl := Deed.cancel.inj ((congrArg Prod.snd (List.mem_singleton.1 hd)).symm.trans hcancel)
  obtain ⟨s, hs, hserved⟩ := hof
  obtain ⟨s', hs', hserved'⟩ := hfirst
  cases Target.shard.inj (hs.symm.trans hs')
  exact absurd (hdisjoint _ _ _ hserved hserved') (by decide)

end Executor

end ScatterSearch
