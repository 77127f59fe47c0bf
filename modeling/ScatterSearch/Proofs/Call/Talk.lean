import ScatterSearch.Proofs.Call.Locality
import ScatterSearch.Proofs.Time.Run

/-!
# Talks with a remote

A call that is alone with its remote has a talk with it, of which one can say beforehand how it
ends: by the replies that the remote has for it, by how long they take, and by the call's own budget
(`Talk.Ends`). Nothing else matters: neither when the call finds a worker, nor what other calls
there are, nor what becomes of those (`Talk.Goes.fire`).

`Talk.Stands` says where the talk stands at an instant, with the exchange that the call waits for.
-/

namespace ScatterSearch

/-- The call that is taken up next is queued. -/
theorem Workers.isQueued_of_next? {w : Workers} {place : Nat} {c : Call}
    (hnext : w.next? = some place) (hc : w.calls[place]? = some c) : c.isQueued = true := by
  rw [Workers.next?] at hnext
  split at hnext
  · obtain ⟨hlt, hfound, -⟩ := List.findIdx?_eq_some_iff_getElem.1 hnext
    rw [List.getElem?_eq_getElem hlt] at hc
    obtain rfl := Option.some.inj hc
    exact (Bool.and_eq_true_iff.1 hfound).1
  · cases hnext

/-- A call, and the remote that it talks to. -/
structure Talk where
  /-- the place of the call -/
  place : Nat
  terms : CallTerms
  request : ExecuteRequest
  remote : Remote
  /-- what the remote was asked before -/
  asked : Contact

namespace Talk

variable (k : Talk)

/-- The replies of the remote, in order: to the request to execute, then to reconnects. -/
def reply : Nat → RemoteReply
  | 0 => k.remote.execute k.asked.executes
  | i + 1 => k.remote.reconnect (k.asked.reconnects + i)

/-- What a reply means that arrives so long after the first request: the end of the talk, or when
the call came back, and with which id. -/
def heard (arrival : Nat) : Reply → Except CallEnd (Nat × Option ExecutionId)
  | .panics message => .error (.panicked message)
  | .answers answer =>
    match k.terms.judge arrival answer with
    | .settled result => .error (.returned result)
    | .comeBack next => .ok (arrival, some next)

/-- What comes of one more reply, for a call whose talk lasted for `elapsed` and which came back
with an id, if at all. A call that came back does not wait for longer than its budget. -/
def hear (reply : RemoteReply) (elapsed : Nat) :
    Option ExecutionId → Except CallEnd (Nat × Option ExecutionId)
  | none => k.heard (elapsed + reply.delay) (reply.reply k.request)
  | some id =>
    match k.terms.budget.filter (· < elapsed + reply.delay) with
    | some b => .error (.returned (.error (k.terms.gaveUp b id)))
    | none => k.heard (elapsed + reply.delay) (reply.reply k.request)

/-- What came of so many replies. -/
def after : Nat → Except CallEnd (Nat × Option ExecutionId)
  | 0 => .ok (0, none)
  | i + 1 =>
    match after i with
    | .error how => .error how
    | .ok (elapsed, id) => k.hear (k.reply i) elapsed id

/-- How the talk ends. -/
inductive Ends : CallEnd → Prop
  /-- there is no connection -/
  | refused {e : ClusterError} : k.remote.connection = .error e → Ends (.returned (.error e))
  | heard {i : Nat} {how : CallEnd} :
    k.remote.connection = .ok () → k.after i = .error how → Ends how

variable {k}

/-- After one reply more the talk stands as that reply leaves it. -/
theorem after_succ {i elapsed : Nat} {id : Option ExecutionId}
    (h : k.after i = .ok (elapsed, id)) : k.after (i + 1) = k.hear (k.reply i) elapsed id := by
  rw [after, h]

/-- A talk that ended stays so. -/
theorem after_of_le {i j : Nat} {how : CallEnd} (h : k.after i = .error how) (hle : i ≤ j) :
    k.after j = .error how := by
  induction hle with
  | refl => exact h
  | step _ ih => rw [after, ih]

/-- A talk ends in one way only. -/
theorem Ends.unique {how how' : CallEnd} (h : k.Ends how) (h' : k.Ends how') : how = how' := by
  cases h with
  | refused hconnection =>
    cases h' with
    | refused hconnection' =>
      rw [hconnection] at hconnection'
      rw [Except.error.inj hconnection']
    | heard hconnection' _ =>
      rw [hconnection] at hconnection'
      cases hconnection'
  | @heard i _ hconnection hafter =>
    cases h' with
    | refused hconnection' =>
      rw [hconnection] at hconnection'
      cases hconnection'
    | @heard j _ _ hafter' =>
      have hboth := (after_of_le hafter (Nat.le_max_left i j)).symm.trans
        (after_of_le hafter' (Nat.le_max_right i j))
      exact Except.error.inj hboth

/-- The reply comes in time. -/
theorem hear_inTime {reply : RemoteReply} {elapsed : Nat} {id : Option ExecutionId}
    (h : ∀ b, id.isSome = true → k.terms.budget = some b → elapsed + reply.delay ≤ b) :
    k.hear reply elapsed id = k.heard (elapsed + reply.delay) (reply.reply k.request) := by
  cases id with
  | none => rfl
  | some id =>
    have hfilter : k.terms.budget.filter (· < elapsed + reply.delay) = none := by
      rw [Option.filter_eq_none_iff]
      intro b hb
      simpa using h b rfl hb
    rw [hear, hfilter]

/-- The reply would come too late. -/
theorem hear_outOfTime {reply : RemoteReply} {elapsed b : Nat} {id : ExecutionId}
    (hb : k.terms.budget = some b) (hlt : b < elapsed + reply.delay) :
    k.hear reply elapsed (some id) = .error (.returned (.error (k.terms.gaveUp b id))) := by
  have hfilter : k.terms.budget.filter (· < elapsed + reply.delay) = some b := by
    rw [hb, Option.filter_some, if_pos (decide_eq_true hlt)]
  rw [hear, hfilter]

/-- A call comes back only within its budget. -/
theorem lt_of_comeBack {elapsed b : Nat} {answer : Except CallError Response} {id : ExecutionId}
    (h : k.terms.judge elapsed answer = .comeBack id) (hb : k.terms.budget = some b) :
    elapsed < b := by
  rcases answer with (next | message) | r
  · rw [CallTerms.judge, hb] at h
    dsimp only at h
    split at h
    · cases h
    · exact Nat.lt_of_not_le ‹_›
  · cases h
  · cases h

/-- What a call does about a reply is what the reply means. -/
theorem hear_cases {c : Call} (hterms : c.terms = k.terms) (now started : Nat) (reply : Reply) :
    (∃ how, k.heard (now - started) reply = .error how ∧
      c.hear now started reply = c.hangUp how) ∨
    ∃ next, k.heard (now - started) reply = .ok (now - started, some next) ∧
      c.hear now started reply =
        ({ c with stage := .reconnecting started next }, [.reconnect next]) ∧
      ∀ b, k.terms.budget = some b → now - started < b := by
  cases reply with
  | panics message => exact .inl ⟨_, rfl, rfl⟩
  | answers answer =>
    rw [heard, Call.hear, hterms]
    cases hverdict : k.terms.judge (now - started) answer with
    | settled result => exact .inl ⟨_, rfl, rfl⟩
    | comeBack next => exact .inr ⟨next, rfl, rfl, fun b => lt_of_comeBack hverdict⟩

/-! ## Where a talk stands -/

variable (k)

/-- The stage of the call, by the id with which it came back, if at all. -/
def stage (started : Nat) : Option ExecutionId → Stage
  | none => .executing started
  | some id => .reconnecting started id

/-- What the remote was asked once it was asked for so many replies more than the first. -/
def contact (i : Nat) : Contact := ⟨k.asked.executes + 1, k.asked.reconnects + i, k.request⟩

/-- Where a talk stands. `Waits due reply x` is said of the exchange `x` in which a reply is due. -/
inductive Stands (Waits : Nat → RemoteReply → Exchange → Prop) (now : Nat) (o : Outbound) : Prop
  | queued (call : o.workers.calls[k.place]? = some ⟨k.terms, k.request, .queued, false⟩)
    (ticket : o.ticket? k.place = none) (contact : o.network.contact k.terms.server = k.asked)
  | connecting {t : Nat} {x : Exchange}
    (call : o.workers.calls[k.place]? = some ⟨k.terms, k.request, .connecting, false⟩)
    (ticket : o.ticket? k.place = some t) (exchange : o.network.exchanges[t]? = some x)
    (opens : x = .opened k.remote.connection ∨ ∃ due, x = .opening due k.remote.connection)
    (contact : o.network.contact k.terms.server = k.asked)
  | talking {started i elapsed t : Nat} {id : Option ExecutionId} {x : Exchange}
    (connection : k.remote.connection = .ok ()) (after : k.after i = .ok (elapsed, id))
    (call : o.workers.calls[k.place]? = some ⟨k.terms, k.request, stage started id, false⟩)
    (ticket : o.ticket? k.place = some t) (exchange : o.network.exchanges[t]? = some x)
    (waits : Waits (started + (elapsed + (k.reply i).delay)) (k.reply i) x)
    (contact : o.network.contact k.terms.server = k.contact i)
    (inTime : ∀ b, id.isSome = true → k.terms.budget = some b → now ≤ started + b)
  | ended {how : CallEnd}
    (call : o.workers.calls[k.place]? = some ⟨k.terms, k.request, .ended how, false⟩)
    (ticket : o.ticket? k.place = none) (ends : k.Ends how)

/-- The remote thinks about its reply, which is not overdue. -/
def Thinks (now : Nat) (due : Nat) (reply : RemoteReply) (x : Exchange) : Prop :=
  now ≤ due ∧ x = .thinking due k.terms.server reply.reply

/-- The remote has just replied, or will do so later. -/
def Replies (now : Nat) (due : Nat) (reply : RemoteReply) (x : Exchange) : Prop :=
  (now = due ∧ x = .replied (reply.reply k.request)) ∨
    (now < due ∧ x = .thinking due k.terms.server reply.reply)

variable {k} {o o' : Outbound} {now : Nat} {Waits : Nat → RemoteReply → Exchange → Prop}

/-- A talk does not notice what spares its call. -/
theorem Stands.spares (h : k.Stands Waits now o)
    (hspares : Outbound.Spares k.place k.terms.server o o') : k.Stands Waits now o' := by
  obtain ⟨hcall, hticket, hexchange, hcontact, -⟩ := hspares
  cases h with
  | queued call ticket contact =>
    exact .queued (hcall.trans call) (hticket.trans ticket) (hcontact.trans contact)
  | connecting call ticket exchange opens contact =>
    exact .connecting (hcall.trans call) (hticket.trans ticket)
      ((hexchange _ ticket).trans exchange) opens (hcontact.trans contact)
  | talking connection after call ticket exchange waits contact inTime =>
    exact .talking connection after (hcall.trans call) (hticket.trans ticket)
      ((hexchange _ ticket).trans exchange) waits (hcontact.trans contact) inTime
  | ended call ticket ends => exact .ended (hcall.trans call) (hticket.trans ticket) ends

/-- The network acts: a reply that is due is there. -/
theorem Stands.fire_network (h : k.Stands (k.Thinks now) now o) :
    k.Stands (k.Replies now) now { o with network := o.network.fire now } := by
  have hcontact : (o.network.fire now).contact = o.network.contact :=
    Network.contact_fire now o.network
  cases h with
  | queued call ticket contact => exact .queued call ticket (hcontact ▸ contact)
  | @connecting t x call ticket exchange opens contact =>
    have hdirect : Network.Direct x := by
      rcases opens with rfl | ⟨due, rfl⟩ <;> trivial
    refine .connecting call ticket (Network.getElem?_fire exchange hdirect now) ?_
      (hcontact ▸ contact)
    rcases opens with rfl | ⟨due, rfl⟩
    · exact .inl rfl
    · rw [Network.fired]
      split
      · exact .inl rfl
      · exact .inr ⟨due, rfl⟩
  | talking connection after call ticket exchange waits contact inTime =>
    obtain ⟨hle, rfl⟩ := waits
    refine .talking connection after call ticket (Network.getElem?_fire exchange trivial now) ?_
      (hcontact ▸ contact) inTime
    rw [Network.fired]
    split
    · -- the remote was last asked by this call
      refine .inl ⟨Nat.le_antisymm hle ‹_›, ?_⟩
      rw [contact]
      rfl
    · exact .inr ⟨Nat.lt_of_not_le ‹_›, rfl⟩
  | ended call ticket ends => exact .ended call ticket ends

/-! ## What the call does -/

variable {c : Call} {e : CallEvent}

/-- To stop waiting asks nobody anything. -/
theorem contact_stopWaiting (place : Nat) :
    (o.stopWaiting place).network.contact = o.network.contact ∧
      (o.stopWaiting place).network.route = o.network.route := by
  rw [Outbound.stopWaiting]
  split <;> exact ⟨rfl, rfl⟩

/-- A call that asks for nothing more waits for nothing. -/
theorem apply_quiet (now : Nat) (e : CallEvent) (hc : o.workers.calls[k.place]? = some c)
    (hquiet : (c.step now e).2 = [] ∨ ∃ how, (c.step now e).2 = [Call.release how]) :
    (o.apply now k.place e).workers.calls[k.place]? = some (c.step now e).1 ∧
      (o.apply now k.place e).ticket? k.place = none := by
  refine ⟨by rw [Outbound.workers_apply, Workers.getElem?_step_self hc], ?_⟩
  have hstop : (o.stopWaiting k.place).ticket? k.place = none := by
    rw [Outbound.ticket?_stopWaiting, if_pos rfl]
  rw [Outbound.apply_eq hc]
  rcases hquiet with hactions | ⟨how, hactions⟩
  · rw [hactions]
    exact hstop
  · rw [hactions, List.foldl_cons, List.foldl_nil]
    cases how with
    | returned result => cases result <;> exact hstop
    | panicked message => exact hstop
    | aborted => exact hstop

/-- A call that asks for a connection waits for it. -/
theorem apply_connect (now : Nat) (e : CallEvent) (hc : o.workers.calls[k.place]? = some c)
    (hroute : o.network.route c.terms.server = .remote k.remote)
    (hactions : (c.step now e).2 = [.connect]) :
    (o.apply now k.place e).workers.calls[k.place]? = some (c.step now e).1 ∧
      ∃ t due, (o.apply now k.place e).ticket? k.place = some t ∧
        (o.apply now k.place e).network.exchanges[t]? =
          some (.opening due k.remote.connection) ∧
        (o.apply now k.place e).network.contact = o.network.contact := by
  refine ⟨by rw [Outbound.workers_apply, Workers.getElem?_step_self hc], ?_⟩
  obtain ⟨hcontact, hroute'⟩ := contact_stopWaiting (o := o) k.place
  have hopen : ((o.stopWaiting k.place).network.connect now c.terms.server) =
      (o.stopWaiting k.place).network.push
        (.opening (now + k.remote.connectDelay) k.remote.connection) := by
    rw [Network.connect, hroute', hroute]
  rw [Outbound.apply_eq hc, hactions, List.foldl_cons, List.foldl_nil]
  refine ⟨(o.stopWaiting k.place).network.exchanges.length, now + k.remote.connectDelay, ?_, ?_, ?_⟩
  · refine Assoc.get?_put_self.trans ?_
    exact congrArg (fun p => some (Prod.fst p)) hopen
  · refine (congrArg (fun p : Nat × Network => p.2.exchanges[_]?) hopen).trans ?_
    exact List.getElem?_concat_length
  · exact (congrArg (fun p : Nat × Network => p.2.contact) hopen).trans hcontact

/-- The action of a call that sends a request. -/
def sends : Option ExecutionId → CallAction
  | none => .execute
  | some id => .reconnect id

/-- A call that sends a request waits for the reply. -/
theorem apply_sends (now : Nat) (e : CallEvent) (id : Option ExecutionId)
    (hc : o.workers.calls[k.place]? = some c)
    (hroute : o.network.route c.terms.server = .remote k.remote)
    (hactions : (c.step now e).2 = [sends id]) :
    (o.apply now k.place e).workers.calls[k.place]? = some (c.step now e).1 ∧
      ∃ t, (o.apply now k.place e).ticket? k.place = some t ∧
        (o.apply now k.place e).network.exchanges[t]? = some (.thinking
          (now + ((o.network.contact c.terms.server).ask k.remote c.request id).1.delay)
          c.terms.server ((o.network.contact c.terms.server).ask k.remote c.request id).1.reply) ∧
        (o.apply now k.place e).network.contact c.terms.server =
          ((o.network.contact c.terms.server).ask k.remote c.request id).2 := by
  refine ⟨by rw [Outbound.workers_apply, Workers.getElem?_step_self hc], ?_⟩
  obtain ⟨hcontact, hroute'⟩ := contact_stopWaiting (o := o) k.place
  have hperform : ∀ o : Outbound, Outbound.perform now k.place c o (sends id) =
      { o with log := (k.place, sends id) :: o.log }.waitFor k.place
        (o.network.send now c.terms.server c.request id) := by
    intro o
    cases id <;> rfl
  have hsend : (o.stopWaiting k.place).network.send now c.terms.server c.request id =
      ({ (o.stopWaiting k.place).network with
          contacts := (o.stopWaiting k.place).network.contacts.put c.terms.server
            ((o.network.contact c.terms.server).ask k.remote c.request id).2 }).push
        (.thinking
          (now + ((o.network.contact c.terms.server).ask k.remote c.request id).1.delay)
          c.terms.server
          ((o.network.contact c.terms.server).ask k.remote c.request id).1.reply) := by
    rw [Network.send, hroute', hroute, hcontact]
  rw [Outbound.apply_eq hc, hactions, List.foldl_cons, List.foldl_nil, hperform]
  refine ⟨(o.stopWaiting k.place).network.exchanges.length, ?_, ?_, ?_⟩
  · refine Assoc.get?_put_self.trans ?_
    exact congrArg (fun p => some (Prod.fst p)) hsend
  · refine (congrArg (fun p : Nat × Network => p.2.exchanges[_]?) hsend).trans ?_
    exact List.getElem?_concat_length
  · refine (congrArg (fun p : Nat × Network => p.2.contact c.terms.server) hsend).trans ?_
    exact congrArg (fun m : Option Contact => m.getD .new) Assoc.get?_put_self

/-! ## What the call hears -/

/-- Nothing has come, and the call does not give up. -/
theorem hearOne_nothing (hc : o.workers.calls[k.place]? = some c)
    (harrival : o.arrival? k.place = none) (hdeadline : ∀ d, c.deadline = some d → now < d) :
    o.hearOne now k.place = o := by
  have hany : (((o.workers.calls[k.place]?).bind (·.deadline)).any (· ≤ now)) = false := by
    rw [hc, Option.bind_some]
    cases hd : c.deadline with
    | none => rfl
    | some d => simpa using hdeadline d hd
  rw [Outbound.hearOne, harrival, hany]
  rfl

/-- The call hears what is there. -/
theorem hearOne_arrival (harrival : o.arrival? k.place = some e) :
    o.hearOne now k.place = o.apply now k.place e := by
  rw [Outbound.hearOne, harrival]

/-- Nothing is there for a call without a ticket. -/
theorem arrival?_none (h : o.ticket? k.place = none) : o.arrival? k.place = none := by
  rw [Outbound.arrival?, h]
  rfl

theorem arrival?_eq {t : Nat} (h : o.ticket? k.place = some t) : o.arrival? k.place =
    ((o.network.connected? t).map CallEvent.connected).or
      ((o.network.reply? t).map .replied) := by
  rw [Outbound.arrival?, h]
  rfl

/-- There is a connection, or there cannot be one. -/
theorem stands_connected (hroute : o.network.route k.terms.server = .remote k.remote)
    (hcall : o.workers.calls[k.place]? = some ⟨k.terms, k.request, .connecting, false⟩)
    (hcontact : o.network.contact k.terms.server = k.asked) :
    k.Stands (k.Thinks now) now (o.apply now k.place (.connected k.remote.connection)) := by
  cases hconnection : k.remote.connection with
  | error e =>
    obtain ⟨hcall', hticket⟩ := apply_quiet now (.connected (.error e)) hcall (.inl rfl)
    exact .ended hcall' hticket (.refused hconnection)
  | ok u =>
    obtain ⟨hcall', t, hticket, hexchange, hcontact'⟩ :=
      apply_sends now (.connected (.ok ())) none hcall hroute rfl
    rw [hcontact] at hexchange hcontact'
    exact .talking (i := 0) hconnection rfl hcall' hticket hexchange
      ⟨by omega, by rw [Nat.zero_add]; rfl⟩ hcontact' fun b hid => by cases hid

/-- Where the talk stands before its next reply. -/
structure Awaits (k : Talk) (o : Outbound) (started i elapsed : Nat) (id : Option ExecutionId) :
    Prop where
  connection : k.remote.connection = .ok ()
  after : k.after i = .ok (elapsed, id)
  call : o.workers.calls[k.place]? = some ⟨k.terms, k.request, stage started id, false⟩
  contact : o.network.contact k.terms.server = k.contact i

variable {started i elapsed : Nat} {id : Option ExecutionId}

/-- The reply is there, and the call ends by it or comes back. -/
theorem Awaits.replied (h : k.Awaits o started i elapsed id)
    (hroute : o.network.route k.terms.server = .remote k.remote)
    (hnow : now = started + (elapsed + (k.reply i).delay))
    (hinTime : ∀ b, id.isSome = true → k.terms.budget = some b → now ≤ started + b) :
    k.Stands (k.Thinks now) now
      (o.apply now k.place (.replied ((k.reply i).reply k.request))) := by
  obtain ⟨hconnection, hafter, hcall, hcontact⟩ := h
  have harrival : now - started = elapsed + (k.reply i).delay := by omega
  have hnext : k.after (i + 1) = k.heard (now - started) ((k.reply i).reply k.request) := by
    rw [after_succ hafter, harrival]
    refine hear_inTime fun b hid hb => ?_
    have := hinTime b hid hb
    omega
  have hstep : (⟨k.terms, k.request, stage started id, false⟩ : Call).step now
      (.replied ((k.reply i).reply k.request)) =
        (⟨k.terms, k.request, stage started id, false⟩ : Call).hear now started
          ((k.reply i).reply k.request) := by
    cases id <;> rfl
  have hcases := hear_cases (k := k) (c := ⟨k.terms, k.request, stage started id, false⟩) rfl now
    started ((k.reply i).reply k.request)
  rcases hcases with ⟨how, hheard, hcalled⟩ | ⟨next, hheard, hcalled, hbudget⟩
  · rw [hcalled] at hstep
    obtain ⟨hcall', hticket⟩ := apply_quiet now _ hcall (by
      rw [hstep]
      exact (Call.hangUp_cases _ how).2.imp_right fun h => ⟨how, h⟩)
    rw [hstep] at hcall'
    exact .ended hcall' hticket (.heard hconnection (hnext.trans hheard))
  · rw [hcalled] at hstep
    obtain ⟨hcall', t, hticket, hexchange, hcontact'⟩ :=
      apply_sends now _ (some next) hcall hroute (congrArg Prod.snd hstep)
    rw [hstep] at hcall'
    rw [hcontact] at hexchange hcontact'
    have hdue : now + (k.reply (i + 1)).delay =
        started + (now - started + (k.reply (i + 1)).delay) := by omega
    refine .talking hconnection (hnext.trans hheard) hcall' hticket hexchange ⟨by omega, ?_⟩
      hcontact' fun b _ hb => ?_
    · rw [← hdue]
      rfl
    · have := hbudget b hb
      omega

/-- The call has waited for the reply as long as its budget allows. -/
theorem Awaits.outOfTime (h : k.Awaits o started i elapsed id)
    (hlate : now < started + (elapsed + (k.reply i).delay))
    (hdeadline : ∃ d, (⟨k.terms, k.request, stage started id, false⟩ : Call).deadline = some d ∧
      d ≤ now) :
    k.Stands (k.Thinks now) now (o.apply now k.place .outOfTime) := by
  obtain ⟨hconnection, hafter, hcall, hcontact⟩ := h
  obtain ⟨d, hd, hle⟩ := hdeadline
  cases id with
  | none => cases hd
  | some id =>
    obtain ⟨b, hb, rfl⟩ := Option.map_eq_some_iff.1 hd
    have hstep : (⟨k.terms, k.request, stage started (some id), false⟩ : Call).step now .outOfTime =
        (⟨k.terms, k.request, stage started (some id), false⟩ : Call).hangUp
          (.returned (.error (k.terms.gaveUp b id))) := by
      simp only [Call.step, stage]
      rw [show k.terms.budget = some b from hb]
    obtain ⟨hcall', hticket⟩ := apply_quiet now _ hcall (by
      rw [hstep]
      exact (Call.hangUp_cases _ _).2.imp_right fun h => ⟨_, h⟩)
    rw [hstep] at hcall'
    refine .ended hcall' hticket (.heard (i := i + 1) hconnection ?_)
    rw [after_succ hafter]
    exact hear_outOfTime hb (by omega)

/-- The call hears what has come for it. -/
theorem Stands.hearOne (h : k.Stands (k.Replies now) now o)
    (hroute : o.network.route k.terms.server = .remote k.remote) :
    k.Stands (k.Thinks now) now (o.hearOne now k.place) := by
  cases h with
  | queued call ticket contact =>
    rw [hearOne_nothing call (arrival?_none ticket) fun d hd => by cases hd]
    exact .queued call ticket contact
  | connecting call ticket exchange opens contact =>
    rcases opens with rfl | ⟨due, rfl⟩
    · have harrival : o.arrival? k.place = some (.connected k.remote.connection) := by
        rw [arrival?_eq ticket, Network.connected?, exchange]
        rfl
      rw [hearOne_arrival harrival]
      exact stands_connected hroute call contact
    · have harrival : o.arrival? k.place = none := by
        rw [arrival?_eq ticket, Network.connected?, Network.reply?, exchange]
        rfl
      rw [hearOne_nothing call harrival fun d hd => by cases hd]
      exact .connecting call ticket exchange (.inr ⟨due, rfl⟩) contact
  | @talking started i elapsed t id x connection after call ticket exchange waits contact inTime =>
    have hawaits : k.Awaits o started i elapsed id := ⟨connection, after, call, contact⟩
    rcases waits with ⟨hnow, rfl⟩ | ⟨hlt, rfl⟩
    · have harrival : o.arrival? k.place =
          some (.replied ((k.reply i).reply k.request)) := by
        rw [arrival?_eq ticket, Network.connected?, Network.reply?, exchange]
        rfl
      rw [hearOne_arrival harrival]
      exact hawaits.replied hroute hnow inTime
    · have harrival : o.arrival? k.place = none := by
        rw [arrival?_eq ticket, Network.connected?, Network.reply?, exchange]
        rfl
      by_cases hdeadline : ∃ d, (⟨k.terms, k.request, stage started id, false⟩ : Call).deadline =
          some d ∧ d ≤ now
      · obtain ⟨d, hd, hle⟩ := hdeadline
        have hany : (((o.workers.calls[k.place]?).bind (·.deadline)).any (· ≤ now)) = true := by
          rw [call, Option.bind_some, hd]
          simpa using hle
        rw [Outbound.hearOne, harrival]
        dsimp only
        rw [if_pos hany]
        exact hawaits.outOfTime hlt ⟨d, hd, hle⟩
      · rw [hearOne_nothing call harrival fun d hd =>
          Nat.lt_of_not_le fun hle => hdeadline ⟨d, hd, hle⟩]
        exact .talking connection after call ticket exchange ⟨Nat.le_of_lt hlt, rfl⟩ contact inTime
  | ended call ticket ends =>
    rw [hearOne_nothing call (arrival?_none ticket) fun d hd => by cases hd]
    exact .ended call ticket ends

/-! ## A turn -/

/-- The call is the only one that talks to its remote, and each call waits for its own exchange. -/
structure Secluded (k : Talk) (o : Outbound) : Prop where
  tidy : o.Tidy
  alone : Outbound.Alone k.place k.terms.server o
  route : o.network.route k.terms.server = .remote k.remote

/-- What happens to calls leaves a talk secluded. -/
theorem Secluded.apply (h : k.Secluded o) (now place : Nat) (e : CallEvent) :
    k.Secluded (o.apply now place e) where
  tidy := h.tidy.apply place e
  alone := h.alone.of_goesOn (Outbound.goesOn_apply place e) (Outbound.length_apply place e)
  route := (congrFun (Outbound.route_apply place e) _).trans h.route

theorem Secluded.fire_network (h : k.Secluded o) (now : Nat) :
    k.Secluded { o with network := o.network.fire now } where
  tidy := ⟨fun place t ht =>
    (Network.length_fire now o.network).symm ▸ h.tidy.fresh place t ht, h.tidy.apart⟩
  alone := h.alone
  route := (congrFun (Network.route_fire now o.network) _).trans h.route

/-- What holds of the talk while others have their turns. -/
def Goes (k : Talk) (Waits : Nat → RemoteReply → Exchange → Prop) (now : Nat) (o : Outbound) :
    Prop := k.Stands Waits now o ∧ k.Secluded o

/-- What happens to others leaves the talk as it is. -/
theorem Goes.apply_ne (h : k.Goes Waits now o) {other : Nat} (hother : other ≠ k.place)
    (e : CallEvent) : k.Goes Waits now (o.apply now other e) :=
  ⟨h.1.spares (h.2.tidy.spares_apply h.2.alone hother e), h.2.apply now other e⟩

/-- The call is there, and was not told to stop. -/
theorem Stands.exists_call (h : k.Stands Waits now o) :
    ∃ c, o.workers.calls[k.place]? = some c ∧ c.stopping = false := by
  cases h with
  | queued call => exact ⟨_, call, rfl⟩
  | connecting call => exact ⟨_, call, rfl⟩
  | talking _ _ call => exact ⟨_, call, rfl⟩
  | ended call => exact ⟨_, call, rfl⟩

/-- Nobody told its call to stop. -/
theorem Goes.stopTurn (h : k.Goes Waits now o) (place : Nat) :
    k.Goes Waits now (o.stopTurn now place) := by
  refine Outbound.keeps_stopTurn (fun hmust => h.apply_ne ?_ _) h
  rintro rfl
  obtain ⟨c, hc, hstopping⟩ := h.1.exists_call
  rw [hc, Option.any_some, Outbound.mustStop, hstopping] at hmust
  cases hmust

/-- The stops of an instant leave the talk as it is. -/
theorem Goes.stopCalls (h : k.Goes Waits now o) : k.Goes Waits now (o.stopCalls now) :=
  Outbound.keeps_stopCalls (fun _ place h => h.stopTurn place) h

/-- What others hear leaves the talk as it is. -/
theorem Goes.hearOne_ne (h : k.Goes Waits now o) {other : Nat} (hother : other ≠ k.place) :
    k.Goes Waits now (o.hearOne now other) :=
  Outbound.keeps_hearOne (fun e _ => h.apply_ne hother e) (h.apply_ne hother _) h

/-- What a call hears leaves a talk secluded. -/
theorem Secluded.hearOne (h : k.Secluded o) (now place : Nat) :
    k.Secluded (o.hearOne now place) :=
  Outbound.keeps_hearOne (fun e _ => h.apply now place e) (h.apply now place _) h

/-- All calls hear what has come for them, each once. -/
theorem Goes.hear (h : k.Goes (k.Replies now) now o) : k.Goes (k.Thinks now) now (o.hear now) := by
  obtain ⟨c, hc, -⟩ := h.1.exists_call
  refine Lists.foldl_range_around (P := k.Goes (k.Replies now) now)
    (List.getElem?_eq_some_iff.1 hc).1 (fun _ _ hother h => h.hearOne_ne hother) (fun o h => ?_)
    (fun _ _ hother h => h.hearOne_ne hother) h
  exact ⟨h.1.hearOne h.2.route, h.2.hearOne now k.place⟩

/-- A worker takes up the call. -/
theorem Stands.admitted (h : k.Stands Waits now o) (hs : k.Secluded o)
    (hnext : o.workers.next? = some k.place) :
    k.Stands Waits now (o.apply now k.place .admitted) := by
  have hqueued : ∀ c, o.workers.calls[k.place]? = some c → c.isQueued = true :=
    fun _ hc => Workers.isQueued_of_next? hnext hc
  cases h with
  | queued call ticket contact =>
    obtain ⟨call', t, due, ticket', exchange, hcontact⟩ :=
      apply_connect now .admitted call hs.route rfl
    exact .connecting call' ticket' exchange (.inr ⟨due, rfl⟩) (hcontact ▸ contact)
  | connecting call => cases hqueued _ call
  | @talking _ _ _ _ id _ _ _ call =>
    cases id <;> cases hqueued _ call
  | ended call => cases hqueued _ call

/-- Calls that are taken up leave the talk as it is, or begin it. -/
theorem Goes.takeUp (h : k.Goes Waits now o) (fuel : Nat) :
    k.Goes Waits now (Outbound.takeUp now fuel o) := by
  refine Outbound.keeps_takeUp (fun o place hnext h => ?_) fuel h
  by_cases hplace : place = k.place
  · subst hplace
    exact ⟨h.1.admitted h.2 hnext, h.2.apply now k.place _⟩
  · exact h.apply_ne hplace _

/-- At every instant a talk goes on as it has to. -/
theorem Goes.fire (h : k.Goes (k.Thinks now) now o) : k.Goes (k.Thinks now) now (o.fire now) := by
  have hstop := h.stopCalls
  have hnetwork : k.Goes (k.Replies now) now
      { o.stopCalls now with network := (o.stopCalls now).network.fire now } :=
    ⟨hstop.1.fire_network, hstop.2.fire_network now⟩
  exact hnetwork.hear.takeUp _

/-! ## Time -/

/-- Time passes no further than to what a talk waits for. -/
theorem Stands.pass (h : k.Stands (k.Thinks now) now o) {later : Nat}
    (hdue : ∀ due, o.due = some due → later ≤ due) : k.Stands (k.Thinks later) later o := by
  have hle : ∀ d, d ∈ o.workers.calls.filterMap (·.deadline) ++ o.network.due.toList →
      later ≤ d := by
    intro d hd
    by_cases hready : o.isReady = true
    · have hzero := hdue 0 (by rw [Outbound.due, if_pos hready])
      omega
    · obtain ⟨m, hm, hle⟩ := Lists.exists_min?_le hd
      exact Nat.le_trans (hdue m (by rw [Outbound.due, if_neg hready, hm])) hle
  cases h with
  | queued call ticket contact => exact .queued call ticket contact
  | connecting call ticket exchange opens contact =>
    exact .connecting call ticket exchange opens contact
  | @talking started i elapsed t id x connection after call ticket exchange waits contact inTime =>
    obtain ⟨-, rfl⟩ := waits
    refine .talking connection after call ticket exchange ⟨?_, rfl⟩ contact fun b hid hb => ?_
    · have hmem : started + (elapsed + (k.reply i).delay) ∈
          o.network.exchanges.filterMap (·.due?) ++ o.network.hosts.filterMap (·.due) :=
        List.mem_append_left _ (List.mem_filterMap.2 ⟨_, List.mem_of_getElem? exchange, rfl⟩)
      obtain ⟨m, hm, hmle⟩ := Lists.exists_min?_le hmem
      refine Nat.le_trans (hle m (List.mem_append_right _ ?_)) hmle
      rw [show o.network.due = some m from hm]
      exact List.mem_singleton_self m
    · refine hle _ (List.mem_append_left _ (List.mem_filterMap.2
        ⟨_, List.mem_of_getElem? call, ?_⟩))
      cases id with
      | none => cases hid
      | some id =>
        change k.terms.budget.map (started + ·) = _
        rw [hb]
        rfl
  | ended call ticket ends => exact .ended call ticket ends

/-- A call that has ended, ended as its talk does. -/
theorem Stands.ends (h : k.Stands Waits now o) {c : Call} {how : CallEnd}
    (hc : o.workers.calls[k.place]? = some c) (hend : c.end? = some how) : k.Ends how := by
  have hstage := Call.stage_of_end? hend
  cases h with
  | queued call =>
    obtain rfl := Option.some.inj (call.symm.trans hc)
    cases hstage
  | connecting call =>
    obtain rfl := Option.some.inj (call.symm.trans hc)
    cases hstage
  | @talking _ _ _ _ id _ _ _ call =>
    obtain rfl := Option.some.inj (call.symm.trans hc)
    cases id <;> cases hstage
  | ended call _ ends =>
    obtain rfl := Option.some.inj (call.symm.trans hc)
    obtain rfl := Stage.ended.inj hstage
    exact ends

end Talk

end ScatterSearch
