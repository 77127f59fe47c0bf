import Mathlib.Logic.Relation
import ScatterSearch.Proofs.Call.Locality

/-!
# Calls step by step

All that calls go through is made of few kinds of steps (`Outbound.Step`): something happens to a
call, the network acts, a call is submitted, and a call is told to stop. So whatever each of these
keeps is kept by all that is made of them (`Outbound.Steps.keeps`), and one need not look again at
how it is made.

Kept are

* the calls and the routes (`Steps.goesOn`, `Steps.route_eq`);
* `Outbound.Causes`: if a call returned that its work was called off, then the attempt to connect to
  its server failed with these words, and nothing else has caused it;
* `Outbound.Untold`: calls that nobody told to stop are not aborted.
-/

namespace ScatterSearch

variable {now : Nat}

/-! ## The network -/

/-- The failure of an attempt to connect, whether or not it has been heard of. -/
def Exchange.refusal? : Exchange → Option ClusterError
  | .opening _ (.error e) => some e
  | .opened (.error e) => some e
  | _ => none

namespace Network

variable {n n' n'' : Network} {server : Server} {e : ClusterError}

/-- A server to which there is no connection, and why. -/
def Refuses (n : Network) (server : Server) (e : ClusterError) : Prop :=
  ∃ r, n.route server = .remote r ∧ r.connectError = some e

/-- A network goes on: the routes are the same, and no exchange comes to fail that did not. -/
structure Keeps (n n' : Network) : Prop where
  route_eq : n'.route = n.route
  exchanges : ∀ (t : Nat) (x : Exchange), n.exchanges[t]? = some x →
    ∃ x', n'.exchanges[t]? = some x' ∧ ∀ e, x'.refusal? = some e → x.refusal? = some e

theorem Keeps.refl (n : Network) : n.Keeps n := ⟨rfl, fun _ x hx => ⟨x, hx, fun _ h => h⟩⟩

theorem Keeps.trans (h : n.Keeps n') (h' : n'.Keeps n'') : n.Keeps n'' := by
  refine ⟨h'.route_eq.trans h.route_eq, fun t x hx => ?_⟩
  obtain ⟨x', hx', hrefusal⟩ := h.exchanges t x hx
  obtain ⟨x'', hx'', hrefusal'⟩ := h'.exchanges t x' hx'
  exact ⟨x'', hx'', fun e he => hrefusal e (hrefusal' e he)⟩

/-- The same servers refuse. -/
theorem Keeps.refuses (h : n.Keeps n') : n'.Refuses server e ↔ n.Refuses server e := by
  rw [Refuses, Refuses, h.route_eq]

/-- One exchange goes on. -/
theorem keeps_of_set {t : Nat} {x' : Exchange} (hroute : n'.route = n.route)
    (hset : n'.exchanges = n.exchanges.set t x')
    (hx' : ∀ x, n.exchanges[t]? = some x → ∀ e, x'.refusal? = some e → x.refusal? = some e) :
    n.Keeps n' := by
  refine ⟨hroute, fun t' x hx => ?_⟩
  by_cases ht : t = t'
  · subst ht
    have hlt := (List.getElem?_eq_some_iff.1 hx).1
    exact ⟨x', by rw [hset, List.getElem?_set_self hlt], hx' x hx⟩
  · exact ⟨x, by rw [hset, List.getElem?_set_ne ht, hx], fun _ h => h⟩

/-- To close an exchange keeps the others. -/
theorem keeps_close (t : Nat) : n.Keeps (n.close t) :=
  keeps_of_set rfl rfl fun _ _ _ h => by cases h

/-- To open an exchange keeps the others. -/
theorem Opens.keeps {opened : Nat × Network} (h : n.Opens server opened) : n.Keeps opened.2 := by
  obtain ⟨y, hy⟩ := h.exchanges
  refine ⟨h.route_eq, fun t x hx => ⟨x, ?_, fun _ h => h⟩⟩
  rw [hy]
  exact Lists.getElem?_of_prefix (List.prefix_append _ _) hx

/-- To deliver a request keeps what exchanges say of refusals. -/
theorem keeps_deliver (ticket place : Nat) (request : ExecuteRequest) (id : Option ExecutionId) :
    n.Keeps (n.deliver now ticket place request id) := by
  cases hh : n.hosts[place]? with
  | none =>
    rw [deliver, hh]
    exact keeps_close ticket
  | some h =>
    rw [deliver_eq hh]
    exact keeps_of_set (t := ticket) rfl rfl fun _ _ _ h => by cases h

theorem keeps_fireExchange (ticket : Nat) : n.Keeps (n.fireExchange now ticket) := by
  rw [fireExchange]
  split
  · rename_i due outcome hx
    split
    · refine keeps_of_set (t := ticket) rfl rfl fun x hx' => ?_
      obtain rfl := Option.some.inj (hx.symm.trans hx')
      cases outcome <;> exact fun _ h => h
    · exact .refl n
  · split
    · exact keeps_of_set (t := ticket) rfl rfl fun _ _ _ h => by cases h
    · exact .refl n
  · split
    · exact keeps_deliver _ _ _ _
    · exact .refl n
  · exact .refl n

theorem keeps_hosts (hosts : List Host) : n.Keeps { n with hosts } :=
  ⟨rfl, (Keeps.refl n).exchanges⟩

theorem keeps_fire : n.Keeps (n.fire now) := by
  have hall : ∀ (tickets : List Nat) (n : Network),
      n.Keeps (tickets.foldl (fireExchange now) n) := by
    intro tickets
    induction tickets with
    | nil => exact .refl
    | cons ticket tickets ih => exact fun n => (keeps_fireExchange ticket).trans (ih _)
  exact (hall _ n).trans (keeps_hosts _)

/-- An attempt to connect fails only if the server is one to which there is no connection. -/
theorem refuses_connect :
    ∃ x, (n.connect now server).2.exchanges[(n.connect now server).1]? = some x ∧
      ∀ e, x.refusal? = some e → n.Refuses server e := by
  rw [connect]
  split
  · exact ⟨_, List.getElem?_concat_length, fun _ h => by cases h⟩
  · rename_i r hroute
    refine ⟨_, List.getElem?_concat_length, fun e he => ⟨r, hroute, ?_⟩⟩
    cases herror : r.connectError with
    | none =>
      rw [Remote.connection, herror] at he
      cases he
    | some e' =>
      rw [Remote.connection, herror] at he
      exact he

/-- What is sent is no attempt to connect. -/
theorem refusal?_send (n : Network) (now : Nat) (server : Server) (request : ExecuteRequest)
    (id : Option ExecutionId) :
    ∃ x, (n.send now server request id).2.exchanges[(n.send now server request id).1]? = some x ∧
      x.refusal? = none := by
  rw [send]
  split
  · exact ⟨_, List.getElem?_concat_length, rfl⟩
  · exact ⟨_, List.getElem?_concat_length, rfl⟩

end Network

/-! ## One call -/

namespace Call

variable {c : Call}

/-- How a call can come to its end. -/
def EndsBy (c : Call) (how : CallEnd) : CallEvent → Prop
  | .admitted => False
  | .connected outcome => ∃ e, outcome = .error e ∧ how = .returned (.error e)
  | .brokeDown message => how = .panicked message
  | .replied _ => (∃ message, how = .panicked message) ∨
      ∃ elapsed answer result,
        c.terms.judge elapsed answer = .settled result ∧ how = .returned result
  | .outOfTime => ∃ b id, how = .returned (.error (c.terms.gaveUp b id))
  | .stopped => how = .aborted

/-- A call that ends on a reply ends by that reply. -/
theorem endsBy_hear {started : Nat} {reply : Reply} {how : CallEnd}
    (h : (c.hear now started reply).1.end? = some how) : c.EndsBy how (.replied reply) := by
  cases reply with
  | panics message => exact .inl ⟨message, (Option.some.inj h).symm⟩
  | answers answer =>
    rw [hear] at h
    cases hjudge : c.terms.judge (now - started) answer with
    | settled result =>
      simp only [hjudge] at h
      exact .inr ⟨_, answer, result, hjudge, (Option.some.inj h).symm⟩
    | comeBack id =>
      simp only [hjudge] at h
      cases h

/-- A call that has ended after something happened to it had ended before, or ends by it. -/
theorem end?_step {e : CallEvent} {how : CallEnd} (h : (c.step now e).1.end? = some how) :
    c.end? = some how ∨ c.EndsBy how e := by
  rcases c with ⟨terms, request, stage, stopping⟩
  cases stage with
  | ended how' =>
    rw [step_of_ended rfl] at h
    exact .inl h
  | queued =>
    cases e with
    | stopped => exact .inr (Option.some.inj h).symm
    | _ => cases h
  | connecting =>
    cases e with
    | connected outcome =>
      cases outcome with
      | error e => exact .inr ⟨e, rfl, (Option.some.inj h).symm⟩
      | ok _ => cases h
    | brokeDown message => exact .inr (Option.some.inj h).symm
    | stopped => exact .inr (Option.some.inj h).symm
    | _ => cases h
  | executing started =>
    cases e with
    | replied reply => exact .inr (endsBy_hear h)
    | stopped => exact .inr (Option.some.inj h).symm
    | _ => cases h
  | reconnecting started id =>
    cases e with
    | replied reply => exact .inr (endsBy_hear h)
    | outOfTime =>
      simp only [step] at h
      split at h
      · rename_i hstage _
        exact .inr ⟨_, _, (Option.some.inj h).symm⟩
      · cases h
    | stopped => exact .inr (Option.some.inj h).symm
    | _ => cases h

/-- No answer of a server means that the work was called off. -/
theorem judge_ne_cancelled {t : CallTerms} {elapsed : Nat} {answer : Except CallError Response}
    {reason : CancelReason} : t.judge elapsed answer ≠ .settled (.error (.cancelled reason)) := by
  intro h
  rcases answer with (id | message) | response
  · rw [CallTerms.judge] at h
    split at h
    · cases h
    · split at h <;> cases h
  · cases h
  · cases h

/-- Whether a call was told to stop is not changed by what happens to it. -/
theorem stopping_step (e : CallEvent) : (c.step now e).1.stopping = c.stopping := by
  have hhear : ∀ started reply, (c.hear now started reply).1.stopping = c.stopping := by
    intro started reply
    cases reply with
    | panics message => rfl
    | answers answer =>
      rw [hear]
      cases c.terms.judge (now - started) answer <;> rfl
  cases e with
  | replied reply =>
    simp only [step]
    split
    · exact hhear _ _
    · exact hhear _ _
    · rfl
  | _ =>
    simp only [step]
    split <;> rfl

/-- Only an attempt to connect tells a call that its work was called off. -/
theorem cancelled_step {e : CallEvent} {reason : CancelReason}
    (h : (c.step now e).1.end? = some (.returned (.error (.cancelled reason)))) :
    c.end? = some (.returned (.error (.cancelled reason))) ∨
      e = .connected (.error (.cancelled reason)) := by
  rcases end?_step h with h | h
  · exact .inl h
  · refine .inr ?_
    cases e with
    | admitted => exact h.elim
    | connected outcome =>
      obtain ⟨e, rfl, he⟩ := h
      rw [← Except.error.inj (CallEnd.returned.inj he)]
    | brokeDown message => cases h
    | replied reply =>
      rcases h with ⟨message, h⟩ | ⟨elapsed, answer, result, hjudge, h⟩
      · cases h
      · rw [← CallEnd.returned.inj h] at hjudge
        exact absurd hjudge judge_ne_cancelled
    | outOfTime =>
      obtain ⟨b, id, h⟩ := h
      cases h
    | stopped => cases h

/-- Only a call that stops is aborted. -/
theorem aborted_step {e : CallEvent} (h : (c.step now e).1.end? = some .aborted) :
    c.end? = some .aborted ∨ e = .stopped := by
  rcases end?_step h with h | h
  · exact .inl h
  · refine .inr ?_
    cases e with
    | admitted => exact h.elim
    | connected outcome =>
      obtain ⟨e, -, he⟩ := h
      cases he
    | brokeDown message => cases h
    | replied reply =>
      rcases h with ⟨message, h⟩ | ⟨elapsed, answer, result, -, h⟩ <;> cases h
    | outOfTime =>
      obtain ⟨b, id, h⟩ := h
      cases h
    | stopped => rfl

end Call

/-! ## Steps -/

namespace Outbound

variable {o o' : Outbound} {stops : Nat → Prop} {place : Nat}

/-- What can happen to calls and their network at once; `stops` are the calls that may be told to
stop. -/
inductive Step (stops : Nat → Prop) (o : Outbound) : Outbound → Prop where
  /-- something happens to a call: it is taken up only if it is its turn, what it hears of its
  connection has come for it, and it stops only if it was told to -/
  | apply (now place : Nat) (e : CallEvent)
      (admitted : e = .admitted → o.workers.next? = some place)
      (hears : ∀ outcome, e = .connected outcome → o.arrival? place = some e)
      (stopped : e = .stopped → (o.workers.calls[place]?).any mustStop = true) :
      Step stops o (o.apply now place e)
  | network {network : Network} (keeps : o.network.Keeps network) : Step stops o { o with network }
  | submit (terms : CallTerms) (request : ExecuteRequest) :
      Step stops o (o.submit (.new terms request)).2
  | requestStop {place : Nat} (told : stops place) : Step stops o (o.requestStop place)

/-- Any number of steps. -/
def Steps (stops : Nat → Prop) : Outbound → Outbound → Prop := Relation.ReflTransGen (Step stops)

theorem Steps.refl (o : Outbound) : Steps stops o o := Relation.ReflTransGen.refl

/-- One step is some steps. -/
theorem Step.steps (h : Step stops o o') : Steps stops o o' := Relation.ReflTransGen.single h

theorem Steps.trans {o'' : Outbound} (h : Steps stops o o') (h' : Steps stops o' o'') :
    Steps stops o o'' := Relation.ReflTransGen.trans h h'

/-- More calls may be told to stop. -/
theorem Steps.mono {stops' : Nat → Prop} (hstops : ∀ place, stops place → stops' place)
    (h : Steps stops o o') : Steps stops' o o' := by
  refine Relation.ReflTransGen.mono (fun o o' h => ?_) _ _ h
  cases h with
  | apply now place e admitted hears stopped => exact .apply now place e admitted hears stopped
  | network keeps => exact .network keeps
  | submit terms request => exact .submit terms request
  | requestStop told => exact .requestStop (hstops _ told)

/-- What every step keeps is kept by any number of them. -/
theorem Steps.keeps {P : Outbound → Prop} (step : ∀ o o', Step stops o o' → P o → P o')
    (h : Steps stops o o') (ho : P o) : P o' := by
  induction h with
  | refl => exact ho
  | tail _ hstep ih => exact step _ _ hstep ih

/-! ### What is made of steps -/

/-- At its turn a call stops, or nothing happens. -/
theorem steps_stopTurn (o : Outbound) (place : Nat) : Steps stops o (o.stopTurn now place) :=
  keeps_stopTurn (fun hstop => (Step.apply now place .stopped (fun h => by cases h)
    (fun _ h => by cases h) fun _ => hstop).steps) (.refl o)

/-- A call hears what has come for it, or nothing happens. -/
theorem steps_hearOne (o : Outbound) (place : Nat) : Steps stops o (o.hearOne now place) := by
  refine keeps_hearOne (fun e he => ?hears) ?outOfTime (.refl o)
  case hears =>
    -- neither to be taken up nor to stop is something that comes over the network
    have hnetwork : e ≠ .admitted ∧ e ≠ .stopped := by
      obtain ⟨t, -, he⟩ := Option.bind_eq_some_iff.1 he
      rcases Option.or_eq_some_iff.1 he with he | ⟨-, he⟩ <;>
        obtain ⟨_, -, rfl⟩ := Option.map_eq_some_iff.1 he <;>
        exact ⟨CallEvent.noConfusion, CallEvent.noConfusion⟩
    exact (Step.apply now place e (fun h => absurd h hnetwork.1) (fun _ _ => he)
      fun h => absurd h hnetwork.2).steps
  case outOfTime =>
    exact (Step.apply now place .outOfTime (fun h => by cases h) (fun _ h => by cases h)
      fun h => by cases h).steps

/-- The stops of an instant are steps. -/
theorem steps_stopCalls (now : Nat) (o : Outbound) : Steps stops o (o.stopCalls now) :=
  keeps_stopCalls (fun _ place h => h.trans (steps_stopTurn _ place)) (.refl o)

/-- What follows the stops of an instant is steps too. -/
theorem steps_afterStops (now : Nat) (o : Outbound) : Steps stops o (o.afterStops now) := by
  refine keeps_takeUp (fun o' place hnext h => ?_) _ ?_
  · exact h.trans (Step.apply now place .admitted (fun _ => hnext) (fun _ h => by cases h)
      fun h => by cases h).steps
  · exact keeps_hear (fun _ place h => h.trans (steps_hearOne _ place))
      (Step.network Network.keeps_fire).steps

/-- What calls do at an instant tells none of them to stop. -/
theorem steps_fire (now : Nat) (o : Outbound) : Steps stops o (o.fire now) :=
  (steps_stopCalls now o).trans (steps_afterStops now _)

/-! ### What steps keep -/

/-- At a step every call goes on. -/
theorem Step.goesOn (h : Step stops o o') : o.workers.GoesOn o'.workers := by
  cases h with
  | apply now place e => exact goesOn_apply place e
  | network => exact .refl _
  | submit terms request => exact Workers.goesOn_append _
  | requestStop => exact Workers.goesOn_requestStop _

theorem Steps.goesOn (h : Steps stops o o') : o.workers.GoesOn o'.workers :=
  h.keeps (P := fun o' => o.workers.GoesOn o'.workers) (fun _ _ hstep hon => hon.trans hstep.goesOn)
    (.refl _)

/-- No step changes where servers are. -/
theorem Step.route_eq (h : Step stops o o') : o'.network.route = o.network.route := by
  cases h with
  | apply now place e => exact route_apply place e
  | network keeps => exact keeps.route_eq
  | submit => rfl
  | requestStop => rfl

theorem Steps.route_eq (h : Steps stops o o') : o'.network.route = o.network.route :=
  h.keeps (P := fun o' => o'.network.route = o.network.route)
    (fun _ _ hstep hroute => hstep.route_eq.trans hroute) rfl

/-- Steps change nothing about who refuses. -/
theorem Steps.refuses (h : Steps stops o o') {server : Server} {e : ClusterError} :
    o'.network.Refuses server e ↔ o.network.Refuses server e := by
  rw [Network.Refuses, Network.Refuses, h.route_eq]

/-- Calls that are there are still there. -/
theorem Steps.length_le (h : Steps stops o o') :
    o.workers.calls.length ≤ o'.workers.calls.length := by
  refine Nat.le_of_not_lt fun hlt => ?_
  obtain ⟨c, hc, -⟩ := h.goesOn _ _ (List.getElem?_eq_getElem hlt)
  exact absurd (List.getElem?_eq_some_iff.1 hc).1 (Nat.lt_irrefl _)

/-! ### Why a call returns that its work was called off -/

/-- A call that waits for a connection waits for one to its server, and a call that returned that
its work was called off was told so when it tried to connect. -/
structure Causes (o : Outbound) : Prop where
  waits : ∀ (place t : Nat), o.ticket? place = some t → ∃ c x, o.workers.calls[place]? = some c ∧
    o.network.exchanges[t]? = some x ∧
      ∀ e, x.refusal? = some e → o.network.Refuses c.terms.server e
  ends : ∀ (place : Nat) (c : Call) (reason : CancelReason), o.workers.calls[place]? = some c →
    c.end? = some (.returned (.error (.cancelled reason))) →
      o.network.Refuses c.terms.server (.cancelled reason)

/-- A network that keeps its refusals may take the place of another. -/
theorem Causes.network (h : o.Causes) {network : Network} (hkeeps : o.network.Keeps network) :
    Causes { o with network } := by
  refine ⟨fun place t ht => ?_, fun place c reason hc hend => ?_⟩
  · obtain ⟨c, x, hc, hx, hrefuses⟩ := h.waits place t ht
    obtain ⟨x', hx', hrefusal⟩ := hkeeps.exchanges t x hx
    exact ⟨c, x', hc, hx', fun e he => hkeeps.refuses.2 (hrefuses e (hrefusal e he))⟩
  · exact hkeeps.refuses.2 (h.ends place c reason hc hend)

/-- A call that waits for less has no new causes. -/
theorem Causes.stopWaiting (h : o.Causes) (place : Nat) : (o.stopWaiting place).Causes := by
  rw [Outbound.stopWaiting]
  split
  · rename_i t _
    have hclosed := h.network (Network.keeps_close t)
    refine ⟨fun other t' ht' => ?_, hclosed.ends⟩
    have hget : (o.waits.erase place).get? other = some t' := ht'
    rw [Assoc.get?_erase] at hget
    split at hget
    · cases hget
    · exact hclosed.waits other t' hget
  · exact h

/-- A call that waits for an exchange waits for one to its own server. -/
theorem Causes.waitFor (h : o.Causes) {c : Call} (hc : o.workers.calls[place]? = some c)
    {opened : Nat × Network} (hkeeps : o.network.Keeps opened.2)
    (hx : ∃ x, opened.2.exchanges[opened.1]? = some x ∧
      ∀ e, x.refusal? = some e → o.network.Refuses c.terms.server e) :
    (o.waitFor place opened).Causes := by
  have hopened := h.network hkeeps
  refine ⟨fun other t ht => ?_, hopened.ends⟩
  have hget : (o.waits.put place opened.1).get? other = some t := ht
  rw [Assoc.get?_put] at hget
  split at hget
  · rename_i heq
    obtain ⟨x, hx, hrefuses⟩ := hx
    rw [← heq, ← Option.some.inj hget]
    exact ⟨c, x, hc, hx, fun e he => hkeeps.refuses.2 (hrefuses e he)⟩
  · exact hopened.waits other t hget

/-- What a call does gives no call a refusal without a cause. -/
theorem Causes.perform (h : o.Causes) {c c' : Call} (hc : o.workers.calls[place]? = some c')
    (hterms : c'.terms = c.terms) (action : CallAction) :
    (Outbound.perform now place c o action).Causes := by
  have hlog : ({ o with log := (place, action) :: o.log } : Outbound).Causes := ⟨h.waits, h.ends⟩
  have hsends (id : Option ExecutionId) :
      (({ o with log := (place, action) :: o.log } : Outbound).waitFor place
        (o.network.send now c.terms.server c.request id)).Causes := by
    refine hlog.waitFor hc Network.opens_send.keeps ?_
    obtain ⟨x, hx, hrefusal⟩ := o.network.refusal?_send now c.terms.server c.request id
    exact ⟨x, hx, fun e he => by rw [hrefusal] at he; cases he⟩
  cases action with
  | connect =>
    refine hlog.waitFor hc Network.opens_connect.keeps ?_
    rw [hterms]
    exact Network.refuses_connect
  | execute => exact hsends none
  | reconnect id => exact hsends (some id)
  | giveBack => exact hlog
  | discard => exact hlog

theorem Causes.performAll (h : o.Causes) {c c' : Call} (hc : o.workers.calls[place]? = some c')
    (hterms : c'.terms = c.terms) (actions : List CallAction) :
    (actions.foldl (Outbound.perform now place c) o).Causes := by
  induction actions generalizing o with
  | nil => exact h
  | cons action actions ih =>
    refine ih (h.perform hc hterms action) ?_
    rw [workers_perform]
    exact hc

/-- A call changes without waiting for anything. -/
theorem Causes.setCall (h : o.Causes) {c c' : Call} (hc : o.workers.calls[place]? = some c)
    (hterms : c'.terms = c.terms)
    (hend : ∀ reason, c'.end? = some (.returned (.error (.cancelled reason))) →
      o.network.Refuses c.terms.server (.cancelled reason)) :
    Causes { o with workers := { o.workers with calls := o.workers.calls.set place c' } } := by
  have hlt := (List.getElem?_eq_some_iff.1 hc).1
  refine ⟨fun other t ht => ?_, fun other c'' reason hc'' hcancelled => ?_⟩
  · obtain ⟨c'', x, hc'', hx, hrefuses⟩ := h.waits other t ht
    by_cases hother : place = other
    · subst hother
      obtain rfl := Option.some.inj (hc.symm.trans hc'')
      exact ⟨c', x, List.getElem?_set_self hlt, hx, hterms ▸ hrefuses⟩
    · exact ⟨c'', x, (List.getElem?_set_ne hother).trans hc'', hx, hrefuses⟩
  · by_cases hother : place = other
    · subst hother
      obtain rfl := Option.some.inj ((List.getElem?_set_self hlt).symm.trans hc'')
      rw [hterms]
      exact hend reason hcancelled
    · exact h.ends other c'' reason ((List.getElem?_set_ne hother).symm.trans hc'') hcancelled

/-- Nothing that happens to a call does, if the call hears what came for it. -/
theorem Causes.apply (h : o.Causes) {e : CallEvent}
    (hears : ∀ outcome, e = .connected outcome → o.arrival? place = some e) :
    (o.apply now place e).Causes := by
  cases hc : o.workers.calls[place]? with
  | none =>
    rw [Outbound.apply, hc]
    exact h
  | some c =>
    have hstop := h.stopWaiting place
    have hterms : (c.step now e).1.terms = c.terms := (c.follows_step now e).terms_eq
    have hroute : ∀ {server e}, (o.stopWaiting place).network.Refuses server e ↔
        o.network.Refuses server e := by
      intro server e
      rw [Outbound.stopWaiting]
      split <;> exact Iff.rfl
    have hc' : (o.stopWaiting place).workers.calls[place]? = some c := by
      rw [workers_stopWaiting, hc]
    have hset := hstop.setCall hc' hterms fun reason hcancelled => by
      rw [hroute]
      rcases Call.cancelled_step hcancelled with hbefore | rfl
      · exact h.ends place c reason hc hbefore
      · -- the failure is the one of the attempt that the call waited for
        obtain ⟨t, ht, he⟩ := Option.bind_eq_some_iff.1 (hears _ rfl)
        obtain ⟨c'', x, hc'', hx, hrefuses⟩ := h.waits place t ht
        obtain rfl := Option.some.inj (hc.symm.trans hc'')
        refine hrefuses _ ?_
        rw [Network.connected?, Network.reply?, hx] at he
        cases x with
        | opened outcome =>
          have houtcome : outcome = .error (.cancelled reason) :=
            CallEvent.connected.inj (Option.some.inj he)
          rw [houtcome]
          rfl
        | replied reply => cases he
        | served place ticket =>
          simp only [Option.map_none, Option.none_or, Option.map_map, Option.map_eq_some_iff] at he
          obtain ⟨reply, -, he⟩ := he
          cases he
        | opening due outcome => cases he
        | thinking due server reply => cases he
        | travelling due place request id => cases he
        | closed => cases he
    rw [apply_eq hc]
    rw [workers_stopWaiting] at hset
    exact hset.performAll (List.getElem?_set_self (List.getElem?_eq_some_iff.1 hc).1) hterms _

/-- Calls change one by one, and none of them starts to wait or ends. -/
theorem Causes.setWorkers (h : o.Causes) {workers : Workers} (hon : o.workers.GoesOn workers)
    (hends : ∀ (place : Nat) (c' : Call) (how : CallEnd), workers.calls[place]? = some c' →
      c'.end? = some how → ∃ c, o.workers.calls[place]? = some c ∧ c.end? = some how) :
    Causes { o with workers } := by
  refine ⟨fun place t ht => ?_, fun place c' reason hc' hend => ?_⟩
  · obtain ⟨c, x, hc, hx, hrefuses⟩ := h.waits place t ht
    obtain ⟨c', hc', hgoes⟩ := hon place c hc
    exact ⟨c', x, hc', hx, hgoes.terms_eq ▸ hrefuses⟩
  · obtain ⟨c, hc, hbefore⟩ := hends place c' _ hc' hend
    obtain ⟨c'', hc'', hgoes⟩ := hon place c hc
    obtain rfl := Option.some.inj (hc''.symm.trans hc')
    rw [hgoes.terms_eq]
    exact h.ends place c reason hc hbefore

/-- Every step keeps the causes of refusals. -/
theorem Step.causes (hstep : Step stops o o') (h : o.Causes) : o'.Causes := by
  cases hstep with
  | apply now place e _ hears => exact h.apply hears
  | network keeps => exact h.network keeps
  | submit terms request =>
    refine h.setWorkers (Workers.goesOn_append _) fun place c' how hc' hend => ?_
    rcases Lists.getElem?_concat hc' with hc | ⟨-, rfl⟩
    · exact ⟨c', hc, hend⟩
    · cases hend
  | @requestStop place =>
    refine h.setWorkers (Workers.goesOn_requestStop _) fun other c' how hc' hend => ?_
    have hc'' : (o.workers.calls.modify place Call.requestStop)[other]? = some c' := hc'
    rw [List.getElem?_modify, Option.map_eq_map, Option.map_eq_some_iff] at hc''
    obtain ⟨c, hc, rfl⟩ := hc''
    refine ⟨c, hc, ?_⟩
    split at hend
    · rw [← hend, Call.requestStop]
      split <;> rfl
    · exact hend

theorem Steps.causes (h : Steps stops o o') (ho : o.Causes) : o'.Causes :=
  h.keeps (fun _ _ hstep h => hstep.causes h) ho

/-! ### Calls that nobody told to stop -/

/-- Some calls are there that nobody told to stop, and are not aborted. -/
def Untold (own : List Nat) (o : Outbound) : Prop :=
  ∀ place ∈ own, ∃ c, o.workers.calls[place]? = some c ∧ c.stopping = false ∧
    c.end? ≠ some .aborted

/-- Calls that nobody may stop are not told to at a step. -/
theorem Step.untold {own : List Nat} (hstep : Step stops o o')
    (hown : ∀ place ∈ own, ¬ stops place) (h : o.Untold own) : o'.Untold own := by
  intro place hplace
  obtain ⟨c, hc, hstopping, hend⟩ := h place hplace
  cases hstep with
  | apply now other e _ _ stopped =>
    by_cases hother : other = place
    · subst hother
      refine ⟨(c.step now e).1, ?_, (Call.stopping_step e).trans hstopping, fun haborted => ?_⟩
      · rw [workers_apply, Workers.getElem?_step_self hc]
      · rcases Call.aborted_step haborted with hbefore | rfl
        · exact hend hbefore
        · have hmust := stopped rfl
          rw [hc, Option.any_some, mustStop, hstopping] at hmust
          cases hmust
    · exact ⟨c, (getElem?_apply_ne hother e).trans hc, hstopping, hend⟩
  | network => exact ⟨c, hc, hstopping, hend⟩
  | submit terms request =>
    exact ⟨c, Lists.getElem?_of_prefix (List.prefix_append _ _) hc, hstopping, hend⟩
  | @requestStop other told =>
    have hother : other ≠ place := by
      rintro rfl
      exact hown _ hplace told
    exact ⟨c, (List.getElem?_modify_ne _ _ hother).trans hc, hstopping, hend⟩

theorem Steps.untold {own : List Nat} (h : Steps stops o o') (hown : ∀ place ∈ own, ¬ stops place)
    (ho : o.Untold own) : o'.Untold own :=
  h.keeps (fun _ _ hstep h => hstep.untold hown h) ho

end Outbound

end ScatterSearch
