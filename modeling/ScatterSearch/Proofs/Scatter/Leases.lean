import ScatterSearch.Proofs.Call.Leases
import ScatterSearch.Proofs.Search.Moves

/-!
# An executor conserves workers and connections

All that an executor goes through, whatever is started, cancelled and changed meanwhile, is a course
of a workshop: its calls hear what comes for them, and let go at once of all that they hold when
they end (`Workshop.Mirrors`). So whatever holds of every moment of every course holds of executors,
and of what they log (`Executor.leases_conserved`).
-/

namespace ScatterSearch

/-! ## The log -/

namespace Outbound

variable {o : Outbound} {now place other : Nat} {c : Call} {e : CallEvent} {s : Server}

/-- What the call at a place did, by the log. -/
def actions (o : Outbound) (place : Nat) : List CallAction :=
  o.log.reverse.filterMap fun a => if a.1 = place then some a.2 else none

/-- What the call at a place did with its connection to a server, by the log. -/
def dealings (o : Outbound) (place : Nat) (s : Server) : List Dealing :=
  o.log.reverse.filterMap fun a => if a.1 = place then Dealing.ofAction? s a.2 else none

/-- What happens to a call logs what the call does. -/
theorem log_apply (hc : o.workers.calls[place]? = some c) (e : CallEvent) :
    (o.apply now place e).log = ((c.step now e).2.map (place, ·)).reverse ++ o.log := by
  have hperform (c : Call) (actions : List CallAction) (o : Outbound) :
      (actions.foldl (perform now place c) o).log = (actions.map (place, ·)).reverse ++ o.log := by
    induction actions generalizing o with
    | nil => rfl
    | cons action actions ih =>
      have hone : (perform now place c o action).log = (place, action) :: o.log := by
        cases action <;> rfl
      rw [List.foldl_cons, ih, hone, List.map_cons, List.reverse_cons, List.append_assoc]
      rfl
  have hstop : (o.stopWaiting place).log = o.log := by
    rw [stopWaiting]
    split <;> rfl
  rw [apply_eq hc, hperform, hstop]

/-- Of that only the call itself has done anything. -/
theorem actions_apply (hc : o.workers.calls[place]? = some c) (e : CallEvent) (other : Nat) :
    (o.apply now place e).actions other =
      o.actions other ++ if place = other then (c.step now e).2 else [] := by
  rw [actions, log_apply hc, List.reverse_append, List.reverse_reverse, List.filterMap_append,
    List.filterMap_map]
  congr 1
  by_cases hother : place = other
  · rw [if_pos hother]
    exact (List.filterMap_congr fun a _ => if_pos hother).trans List.filterMap_some
  · rw [if_neg hother]
    exact List.filterMap_eq_nil_iff.2 fun a _ => if_neg hother

/-- A call's dealings are some of its actions. -/
theorem dealings_eq (o : Outbound) (place : Nat) (s : Server) :
    o.dealings place s = (o.actions place).filterMap (Dealing.ofAction? s) := by
  rw [dealings, actions, List.filterMap_filterMap]
  refine List.filterMap_congr fun a _ => ?_
  by_cases hplace : a.1 = place <;> simp [hplace]

theorem dealings_apply (hc : o.workers.calls[place]? = some c) (e : CallEvent) (other : Nat)
    (s : Server) : (o.apply now place e).dealings other s = o.dealings other s ++
      if place = other then (c.step now e).2.filterMap (Dealing.ofAction? s) else [] := by
  rw [dealings_eq, dealings_eq, actions_apply hc, List.filterMap_append]
  congr 1
  split <;> rfl

/-- A call of which nothing is logged has dealt in nothing. -/
theorem dealings_eq_nil (h : ∀ a ∈ o.log, a.1 ≠ place) : o.dealings place s = [] :=
  List.filterMap_eq_nil_iff.2 fun a ha => if_neg (h a (List.mem_reverse.1 ha))

end Outbound

/-- What a call did with connections, by the log, is in order: as long as it goes on it has got the
connection that it holds, and no other; when it has ended it has let go of the one it got, in the
way of its end, or it had none. It holds its worker besides a connection. -/
structure Call.Accounted (c : Call) (did : List Dealing) : Prop where
  goes : c.isFinished = false →
    did = if c.holdsConnection then [.get c.terms.server] else []
  ended : ∀ how, c.end? = some how →
    did = [.get c.terms.server, Dealing.release c.terms.server how] ∨
      did = [] ∧ ∀ r, how ≠ .returned (.ok r)
  covered : c.holdsConnection = true → c.holdsWorker = true

/-- A call that has ended with a response got one connection, and gave it back. -/
theorem Call.Accounted.eq_of_succeeded {c : Call} {did : List Dealing} (h : c.Accounted did)
    (hsucceeded : c.Succeeded) : did = [.get c.terms.server, .giveBack c.terms.server] := by
  obtain ⟨r, hend⟩ := hsucceeded
  rcases h.ended _ hend with hdid | ⟨-, hno⟩
  · exact hdid
  · exact absurd rfl (hno r)

/-- A call that holds all that it came by, or has let go of all of it, is accounted for by what it
has done. -/
theorem Conduct.Sound.accounted {k : Conduct} (h : k.Sound) (hsettled : k.held = k.call.held) :
    k.call.Accounted (k.done.filter Dealing.isConnection) := by
  have hcovered (c : Call) (hholds : c.holdsConnection = true) : c.holdsWorker = true :=
    (Call.goes_of_holdsConnection hholds).1
  cases h with
  | @going c goes =>
    refine ⟨fun _ => ?_, fun how hend => ?_, hcovered c⟩
    · rcases c.held_cases with ⟨hholds, hheld⟩ | ⟨hnot, hheld | hheld⟩
      · rw [hholds, hheld]
        rfl
      · rw [hnot, hheld]
        rfl
      · rw [hnot, hheld]
        rfl
    · rw [Call.isFinished, hend] at goes
      cases goes
  | @ended last how gone held response split =>
    obtain rfl : held = [] := hsettled
    have hdone : ((gone ++ []).reverse.map Holding.gain ++ gone.flatMap how.letGo).filter
        Dealing.isConnection =
          (gone.reverse.map Holding.gain).filter Dealing.isConnection ++
            (last.windUp how).filter Dealing.isConnection := by
      rw [List.filter_append, Call.windUp, ← split, List.append_nil]
    refine ⟨(fun goes => by cases goes), fun how' hend => ?_, hcovered _⟩
    obtain rfl := Option.some.inj hend
    rw [hdone, Call.filter_windUp]
    rcases held_splits split with ⟨hholds, hsplit⟩ | ⟨hnot, hsplit⟩
    · refine .inl ?_
      rw [Call.hangUp_of_holdsConnection hholds,
        List.filterMap_cons_some (Dealing.ofAction?_release _ how)]
      rcases hsplit with ⟨-, hheld⟩ | ⟨-, hheld⟩ | ⟨rfl, -⟩
      · cases hheld
      · cases hheld
      · rfl
    · refine .inr ⟨?_, fun r hr => by cases hnot.symm.trans (response r hr)⟩
      rw [Call.hangUp_of_no_connection hnot]
      rcases hsplit with ⟨rfl, -⟩ | ⟨-, hheld⟩ | ⟨rfl, -⟩
      · rfl
      · cases hheld
      · rfl

/-! ## Courses of an executor -/

namespace Workshop

variable {w : Workshop} {o o' : Outbound} {workers place : Nat} {k : Conduct} {stops : Nat → Prop}

/-- A workshop with the calls of a node, each of which has let go of all that it can, and the
dealings that the node has logged. -/
structure Mirrors (w : Workshop) (o : Outbound) : Prop where
  capacity_eq : o.workers.capacity = w.capacity
  calls_eq : o.workers.calls = w.conducts.map (·.call)
  settled : ∀ k ∈ w.conducts, k.held = k.call.held
  places : ∀ a ∈ o.log, a.1 < w.conducts.length
  log : ∀ (place : Nat) (k : Conduct), w.conducts[place]? = some k →
    o.dealings place k.call.terms.server = k.done.filter Dealing.isConnection

/-- As many calls are in flight as have workers. -/
theorem Mirrors.inFlight_eq (h : w.Mirrors o) (hsound : w.Sound workers) :
    o.workers.inFlight = w.inFlight := by
  rw [Workers.inFlight, ← List.countP_eq_length_filter, h.calls_eq, List.countP_map, inFlight]
  refine List.countP_congr fun k hk => ?_
  rw [Function.comp_apply, (hsound.conducts k hk).holdsWorker_eq, h.settled k hk,
    Call.holdsWorker]

/-- The log accounts for every call. -/
theorem Mirrors.accounted (h : w.Mirrors o) (hsound : w.Sound workers) {c : Call}
    (hc : o.workers.calls[place]? = some c) : c.Accounted (o.dealings place c.terms.server) := by
  rw [h.calls_eq, List.getElem?_map, Option.map_eq_some_iff] at hc
  obtain ⟨k, hk, rfl⟩ := hc
  rw [h.log place k hk]
  exact (hsound.conduct hk).accounted (h.settled k (List.mem_of_getElem? hk))

/-- A call that has ended lets go of all that it holds. -/
theorem course_letGo {c : Call} {how : CallEnd} (hend : c.end? = some how) :
    ∀ {held : List Holding} {done : List Dealing} {w : Workshop}, Course workers w →
      w.conducts[place]? = some ⟨c, held, done⟩ →
      Course workers (w.set place ⟨c, [], done ++ held.flatMap how.letGo⟩)
  | [], done, w, h, hk => by
    have hsame : w.set place ⟨c, [], done ++ [].flatMap how.letGo⟩ = w := by
      obtain ⟨hlt, hget⟩ := List.getElem?_eq_some_iff.1 hk
      rw [List.flatMap_nil, List.append_nil, Workshop.set, ← hget, List.set_getElem_self]
    rw [hsame]
    exact h
  | x :: held, done, w, h, hk => by
    have hlt := (List.getElem?_eq_some_iff.1 hk).1
    have hrest := course_letGo hend (h.tail (.letGo hk hend rfl)) (List.getElem?_set_self hlt)
    rw [Workshop.set, Workshop.set, List.set_set, List.append_assoc] at hrest
    exact hrest

/-- A call hears something, and lets go of all that it holds if it ends. -/
theorem course_hear (hcourse : Course workers w) (hk : w.conducts[place]? = some k)
    (hsettled : k.held = k.call.held) (now : Nat) (e : CallEvent)
    (hfree : e = .admitted → w.inFlight < w.capacity) :
    ∃ k', Course workers (w.set place k') ∧ k'.call = (k.call.step now e).1 ∧
      k'.held = k'.call.held ∧ k'.done.filter Dealing.isConnection =
        k.done.filter Dealing.isConnection ++
          (k.call.step now e).2.filterMap (Dealing.ofAction? k.call.terms.server) := by
  have hlt := (List.getElem?_eq_some_iff.1 hk).1
  have hheard := hcourse.tail (.hear now e hk hfree)
  have hproceeds := k.call.proceeds_step now e
  generalize hstep : k.call.step now e = after at hproceeds
  have hcall := congrArg Prod.fst hstep
  cases hproceeds with
  | nothing =>
    rw [Conduct.hear_of_no_gain hcall (Nat.le_refl _)] at hheard
    exact ⟨_, hheard, rfl, hsettled, (List.append_nil _).symm⟩
  | admitted stage =>
    have hheld : ({ k.call with stage := .connecting } : Call).held = .worker :: k.call.held := by
      rw [Call.held_of_queued stage]
      rfl
    rw [Conduct.hear_of_gain hcall hheld] at hheard
    exact ⟨_, hheard, rfl, hsettled ▸ hheld.symm, List.filter_append ..⟩
  | connected stage =>
    have hheld : ({ k.call with stage := .executing now } : Call).held =
        .connection (.acquire k.call.terms.server) :: k.call.held := by
      rw [Call.held_of_connecting stage]
      rfl
    rw [Conduct.hear_of_gain hcall hheld] at hheard
    exact ⟨_, hheard, rfl, hsettled ▸ hheld.symm, List.filter_append ..⟩
  | @comesBack started id holds =>
    have hheld : ({ k.call with stage := .reconnecting started id } : Call).held = k.call.held := by
      rw [Call.held_of_holdsConnection holds]
      rfl
    rw [Conduct.hear_of_no_gain hcall (Nat.le_of_eq (congrArg List.length hheld))] at hheard
    exact ⟨_, hheard, rfl, hsettled.trans hheld.symm, (List.append_nil _).symm⟩
  | @ends how =>
    rw [Conduct.hear_of_no_gain hcall (Nat.zero_le _)] at hheard
    have hend : (k.call.finish how).end? = some how := rfl
    have hlet := course_letGo hend hheard (List.getElem?_set_self hlt)
    rw [Workshop.set, Workshop.set, List.set_set] at hlet
    refine ⟨_, hlet, rfl, rfl, ?_⟩
    rw [List.filter_append, hsettled, ← Call.filter_windUp]
    rfl

/-- One call changes, with what is logged of it. -/
theorem Mirrors.set (h : w.Mirrors o) (hk : w.conducts[place]? = some k) {k' : Conduct}
    (hsettled : k'.held = k'.call.held) (hcapacity : o'.workers.capacity = o.workers.capacity)
    (hcalls : o'.workers.calls = o.workers.calls.set place k'.call)
    (hplaces : ∀ a ∈ o'.log, a ∈ o.log ∨ a.1 = place)
    (hothers : ∀ other s, place ≠ other → o'.dealings other s = o.dealings other s)
    (hlog : o'.dealings place k'.call.terms.server = k'.done.filter Dealing.isConnection) :
    (w.set place k').Mirrors o' := by
  have hlt := (List.getElem?_eq_some_iff.1 hk).1
  refine ⟨hcapacity.trans h.capacity_eq, ?_, fun k'' hk'' => ?_, fun a ha => ?_,
    fun other k'' hk'' => ?_⟩
  · rw [hcalls, h.calls_eq]
    exact List.map_set.symm
  · rcases List.mem_or_eq_of_mem_set hk'' with hk'' | rfl
    · exact h.settled k'' hk''
    · exact hsettled
  · change a.1 < (w.conducts.set place k').length
    rw [List.length_set]
    rcases hplaces a ha with ha | rfl
    · exact h.places a ha
    · exact hlt
  · by_cases hother : place = other
    · subst hother
      obtain rfl := Option.some.inj ((List.getElem?_set_self hlt).symm.trans hk'')
      exact hlog
    · rw [hothers other _ hother]
      exact h.log other k'' ((List.getElem?_set_ne hother).symm.trans hk'')

/-- A call hears something and does all that it then has to do. -/
theorem Mirrors.hear (h : w.Mirrors o) (hcourse : Course workers w) (now place : Nat)
    (e : CallEvent) (hadmitted : e = .admitted → o.workers.next? = some place) :
    ∃ w', Course workers w' ∧ w'.Mirrors (o.apply now place e) := by
  cases hk : w.conducts[place]? with
  | none =>
    -- there is no such call
    refine ⟨w, hcourse, ?_⟩
    have hc : o.workers.calls[place]? = none := by rw [h.calls_eq, List.getElem?_map, hk]; rfl
    rw [Outbound.apply, hc]
    exact h
  | some k =>
    have hlt := (List.getElem?_eq_some_iff.1 hk).1
    have hc : o.workers.calls[place]? = some k.call := by
      rw [h.calls_eq, List.getElem?_map, hk]; rfl
    have hfree : e = .admitted → w.inFlight < w.capacity := by
      intro he
      have hnext := hadmitted he
      rw [Workers.next?] at hnext
      split at hnext
      · rename_i hfree
        rw [← h.inFlight_eq (sound_of_course hcourse), ← h.capacity_eq]
        exact hfree
      · cases hnext
    obtain ⟨k', hheard, hcall, hsettled, hdone⟩ :=
      course_hear hcourse hk (h.settled k (List.mem_of_getElem? hk)) now e hfree
    refine ⟨_, hheard, h.set hk hsettled ?_ ?_ (fun a ha => ?_) (fun other s hother => ?_) ?_⟩
    · rw [Outbound.workers_apply, Workers.step, hc]
    · rw [Outbound.workers_apply, Workers.step, hc, hcall]
    · rw [Outbound.log_apply hc] at ha
      rcases List.mem_append.1 ha with ha | ha
      · obtain ⟨action, -, rfl⟩ := List.mem_map.1 (List.mem_reverse.1 ha)
        exact .inr rfl
      · exact .inl ha
    · rw [Outbound.dealings_apply hc, if_neg hother, List.append_nil]
    · rw [Outbound.dealings_apply hc, if_pos rfl, hcall, (k.call.follows_step now e).terms_eq,
        h.log place k hk, hdone]

/-- Whatever step a node takes, a workshop can follow it. -/
theorem Mirrors.step (h : w.Mirrors o) (hcourse : Course workers w)
    (hstep : Outbound.Step stops o o') : ∃ w', Course workers w' ∧ w'.Mirrors o' := by
  cases hstep with
  | apply now place e admitted => exact h.hear hcourse now place e admitted
  | network => exact ⟨w, hcourse, h.capacity_eq, h.calls_eq, h.settled, h.places, h.log⟩
  | submit terms request =>
    refine ⟨_, hcourse.tail (.submit terms request), h.capacity_eq, ?_, ?_, ?_, ?_⟩
    · change o.workers.calls ++ [_] = _
      rw [h.calls_eq, List.map_append]
      rfl
    · intro k hk
      rcases List.mem_append.1 hk with hk | hk
      · exact h.settled k hk
      · rw [List.mem_singleton.1 hk]
        rfl
    · intro a ha
      rw [List.length_append]
      exact Nat.lt_add_right 1 (h.places a ha)
    · intro place k hk
      rcases Lists.getElem?_concat hk with hk | ⟨rfl, rfl⟩
      · exact h.log place k hk
      · exact Outbound.dealings_eq_nil fun a ha => Nat.ne_of_lt (h.places a ha)
  | @requestStop place told =>
    cases hk : w.conducts[place]? with
    | none =>
      have hlength : o.workers.calls.length ≤ place := by
        rw [h.calls_eq, List.length_map]
        exact List.getElem?_eq_none_iff.1 hk
      have hsame : o.requestStop place = o := by
        rw [Outbound.requestStop, Workers.requestStop, List.modify_eq_self hlength]
      rw [hsame]
      exact ⟨w, hcourse, h⟩
    | some k =>
      have hcalls : o.workers.calls.modify place Call.requestStop =
          o.workers.calls.set place k.call.requestStop := by
        rw [List.modify_eq_set_getElem?, h.calls_eq, List.getElem?_map, hk]
        rfl
      have hterms := k.call.goesOn_requestStop.terms_eq
      have hsettled := (h.settled k (List.mem_of_getElem? hk)).trans k.call.held_requestStop.symm
      refine ⟨_, hcourse.tail (.requestStop hk), h.set hk hsettled rfl hcalls (fun _ ha => .inl ha)
        (fun _ _ _ => rfl) ?_⟩
      rw [hterms]
      exact h.log place k hk

theorem mirrors_new (workers : Nat) (network : Network) :
    (new workers).Mirrors (.new workers network) where
  capacity_eq := rfl
  calls_eq := rfl
  settled := fun _ hk => nomatch hk
  places := fun _ ha => nomatch ha
  log := fun _ _ hk => nomatch hk

/-- Calls that come of some steps are mirrored if those before were. -/
theorem Mirrors.steps (hsteps : Outbound.Steps stops o o')
    (h : ∃ w, Course workers w ∧ w.Mirrors o) : ∃ w', Course workers w' ∧ w'.Mirrors o' :=
  hsteps.keeps (P := fun o => ∃ w, Course workers w ∧ w.Mirrors o)
    (fun _ _ hstep ⟨_, hcourse, hmirrors⟩ => hmirrors.step hcourse hstep) h

end Workshop

namespace Executor

open Workshop (Course)

variable {layout : Layout} {config : ExecutorConfig} {network : Network} {start : Nat}
  {trace : List (Nat × Deed)} {u : Timed Executor}

/-- Whatever is done with an executor, a workshop can follow it. -/
theorem mirrors_perform {workers now : Nat} {x : Executor} (d : Deed)
    (h : ∃ w, Course workers w ∧ w.Mirrors x.outbound) :
    ∃ w, Course workers w ∧ w.Mirrors (d.perform now x).outbound := by
  have hsteps (budget : Option Nat) (kind : CommandKind) (c : Command) :
      Outbound.Steps (fun _ => False) x.outbound (x.startWithin budget kind c).2.outbound :=
    steps_startWithin budget kind c
  cases d with
  | start budget kind c => exact Workshop.Mirrors.steps (hsteps budget kind c) h
  | read kind allOrNothing c value => exact Workshop.Mirrors.steps (hsteps x.budget kind c) h
  | cancel handle =>
    have hstop : Outbound.Step (fun _ => True) x.outbound (x.outbound.requestStop handle.call) :=
      .requestStop trivial
    exact Workshop.Mirrors.steps hstop.steps h
  | assign layout => exact h
  | disturb change =>
    obtain ⟨w, hcourse, hmirrors⟩ := h
    exact ⟨w, hcourse, hmirrors.capacity_eq, hmirrors.calls_eq, hmirrors.settled, hmirrors.places,
      hmirrors.log⟩

/-- A workshop can follow every run. -/
theorem mirrors_of_run (h : Run machine Deed.perform ⟨start, .new layout config network⟩ trace u) :
    ∃ w, Course config.workerCount.toNat w ∧ w.Mirrors u.state.outbound := by
  induction h with
  | start => exact ⟨_, .refl, Workshop.mirrors_new _ network⟩
  | @fire _ u _ _ _ _ ih =>
    have hsteps : Outbound.Steps (fun _ => False) u.state.outbound
        (u.state.fire u.now).outbound := by
      rw [outbound_fire]
      exact Outbound.steps_fire u.now u.state.outbound
    exact Workshop.Mirrors.steps hsteps ih
  | pass _ _ _ ih => exact ih
  | act d _ ih => exact mirrors_perform d ih

/-- Whatever is done with an executor, and whatever its network does, its calls and its log are
those of a course of a workshop. So at every moment no more calls are in flight than there are
workers, and each call is accounted for by the log; and when all calls have ended none is in flight.
In every course, with calls that hear anything in any order and let go of one thing at a time, at
every moment no more calls have workers than there are workers, each call lets go of the connection
it got once and in the right way, and does so while it has its worker; when all calls are over no
connection is out and no worker is taken. -/
theorem leases_conserved (layout : Layout) (config : ExecutorConfig) (network : Network) :
    (∀ start trace u,
      Run machine Deed.perform ⟨start, .new layout config network⟩ trace u →
      (∃ w, Course config.workerCount.toNat w ∧ w.Mirrors u.state.outbound ∧
        u.state.inFlight = w.inFlight) ∧
      u.state.inFlight ≤ max config.workerCount.toNat 1 ∧
      (∀ (place : Nat) (c : Call), u.state.outbound.workers.calls[place]? = some c →
        c.Accounted (u.state.outbound.dealings place c.terms.server)) ∧
      ((∀ c ∈ u.state.outbound.workers.calls, c.isFinished = true) → u.state.inFlight = 0)) ∧
    ∀ w, Course config.workerCount.toNat w →
      w.capacity = max config.workerCount.toNat 1 ∧ w.Conserves := by
  refine ⟨fun start trace u hrun => ?_, fun w hcourse => ?_⟩
  · obtain ⟨w, hcourse, hmirrors⟩ := mirrors_of_run hrun
    have hsound := Workshop.sound_of_course hcourse
    have hinFlight : u.state.inFlight = w.inFlight := hmirrors.inFlight_eq hsound
    refine ⟨⟨w, hcourse, hmirrors, hinFlight⟩, ?_, fun place c hc => hmirrors.accounted hsound hc,
      fun hended => ?_⟩
    · rw [hinFlight, ← hsound.capacity_eq]
      exact hsound.bounded
    · refine List.length_eq_zero_iff.2 (List.filter_eq_nil_iff.2 fun c hc => ?_)
      exact Bool.eq_false_iff.1 (Call.holdsWorker_of_isFinished (hended c hc))
  · have hsound := Workshop.sound_of_course hcourse
    exact ⟨hsound.capacity_eq, hsound.conserves⟩

end Executor

end ScatterSearch
