import ScatterSearch.Proofs.Call.Progress

/-!
# What a call leaves to others

Each call waits for an exchange of its own (`Outbound.Tidy`). So what one call does leaves to
another one the exchange that it waits for, and, unless both go to the same server, what that server
was asked (`Outbound.Spares`, `Outbound.Tidy.spares_apply`).

When the network acts, an exchange with a remote goes on by itself (`Network.getElem?_fire`).
-/

namespace ScatterSearch

variable {now : Nat}

namespace Network

variable {n : Network} {server : Server} {ticket : Nat}

/-- What it is to open an exchange with a server: it comes last, and others keep theirs. -/
structure Opens (n : Network) (server : Server) (opened : Nat × Network) : Prop where
  ticket_eq : opened.1 = n.exchanges.length
  exchanges : ∃ x, opened.2.exchanges = n.exchanges ++ [x]
  route_eq : opened.2.route = n.route
  contact : ∀ other, other ≠ server → opened.2.contact other = n.contact other

/-- To connect opens an exchange with the server. -/
theorem opens_connect : n.Opens server (n.connect now server) := by
  rw [connect]
  split <;> exact ⟨rfl, ⟨_, rfl⟩, rfl, fun _ _ => rfl⟩

theorem opens_send {request : ExecuteRequest} {id : Option ExecutionId} :
    n.Opens server (n.send now server request id) := by
  rw [send]
  split
  · exact ⟨rfl, ⟨_, rfl⟩, rfl, fun _ _ => rfl⟩
  · refine ⟨rfl, ⟨_, rfl⟩, rfl, fun other hother => ?_⟩
    change ((n.contacts.put server _).get? other).getD .new = n.contact other
    rw [Assoc.get?_put, if_neg (Ne.symm hother)]
    rfl

/-! ## The network acts -/

/-- An exchange after the network acted, if nothing is on its way to a host. -/
def fired (now : Nat) (n : Network) : Exchange → Exchange
  | .opening due outcome => if due ≤ now then .opened outcome else .opening due outcome
  | .thinking due server reply =>
    if due ≤ now then .replied (reply (n.contact server).last) else .thinking due server reply
  | x => x

/-- The exchange is with a remote, or is over. -/
def Direct : Exchange → Prop
  | .travelling _ _ _ _ => False
  | _ => True

/-- A second turn at the same instant does nothing more. -/
theorem fired_fired (x : Exchange) : n.fired now (n.fired now x) = n.fired now x := by
  cases x with
  | opening due outcome =>
    by_cases h : due ≤ now <;> simp [fired, h]
  | thinking due server reply =>
    by_cases h : due ≤ now <;> simp [fired, h]
  | _ => rfl

/-- An exchange with a peer stays one. -/
theorem direct_fired {x : Exchange} (h : Direct x) : Direct (n.fired now x) := by
  cases x with
  | opening due outcome => rw [fired]; split <;> trivial
  | thinking due server reply => rw [fired]; split <;> trivial
  | _ => exact h

/-- To deliver a request changes one exchange, and no contact. -/
theorem exchanges_deliver (now other place : Nat) (request : ExecuteRequest)
    (id : Option ExecutionId) : ∃ x, (n.deliver now other place request id).exchanges =
      n.exchanges.set other x ∧ (n.deliver now other place request id).contacts = n.contacts ∧
      (n.deliver now other place request id).route = n.route := by
  rw [deliver]
  split
  · split
    exact ⟨_, rfl, rfl, rfl⟩
  · exact ⟨_, rfl, rfl, rfl⟩

/-- The network acts on one exchange. -/
theorem exchanges_fireExchange (now : Nat) (n : Network) (other : Nat) :
    ∃ x, (n.fireExchange now other).exchanges = n.exchanges.set other x ∧
      (n.fireExchange now other).contacts = n.contacts ∧
      (n.fireExchange now other).route = n.route := by
  have hsame : ∃ x, n.exchanges = n.exchanges.set other x := by
    by_cases h : other < n.exchanges.length
    · exact ⟨n.exchanges[other], (List.set_getElem_self h).symm⟩
    · exact ⟨.closed, (List.set_eq_of_length_le (Nat.le_of_not_lt h)).symm⟩
  obtain ⟨same, hsame⟩ := hsame
  rw [fireExchange]
  split
  · split
    · exact ⟨_, rfl, rfl, rfl⟩
    · exact ⟨same, hsame, rfl, rfl⟩
  · split
    · exact ⟨_, rfl, rfl, rfl⟩
    · exact ⟨same, hsame, rfl, rfl⟩
  · split
    · exact exchanges_deliver now other _ _ _
    · exact ⟨same, hsame, rfl, rfl⟩
  · exact ⟨same, hsame, rfl, rfl⟩

/-- The turn of an exchange asks no peer anything. -/
theorem contact_fireExchange (now : Nat) (n : Network) (other : Nat) :
    (n.fireExchange now other).contact = n.contact := by
  obtain ⟨_, -, hcontacts, -⟩ := exchanges_fireExchange now n other
  funext server
  rw [contact, contact, hcontacts]

/-- Of an exchange with a peer only its own turn is a turn. -/
theorem getElem?_fireExchange {x : Exchange} (hx : n.exchanges[ticket]? = some x)
    (hdirect : Direct x) (now other : Nat) : (n.fireExchange now other).exchanges[ticket]? =
      some (if other = ticket then n.fired now x else x) := by
  by_cases hother : other = ticket
  · subst hother
    have hlt := (List.getElem?_eq_some_iff.1 hx).1
    rw [if_pos rfl, fireExchange, hx]
    cases x with
    | opening due outcome =>
      simp only [fired]
      split
      · exact List.getElem?_set_self hlt
      · exact hx
    | thinking due server reply =>
      simp only [fired]
      split
      · exact List.getElem?_set_self hlt
      · exact hx
    | travelling due place request id => cases hdirect
    | _ => exact hx
  · obtain ⟨y, hy, -⟩ := exchanges_fireExchange now n other
    rw [if_neg hother, hy, List.getElem?_set_ne hother, hx]

/-- The turns of some exchanges ask no peer anything, and open nothing. -/
theorem foldl_fireExchange (now : Nat) (n : Network) (tickets : List Nat) :
    (tickets.foldl (fireExchange now) n).contact = n.contact ∧
      (tickets.foldl (fireExchange now) n).route = n.route ∧
      (tickets.foldl (fireExchange now) n).exchanges.length = n.exchanges.length := by
  induction tickets generalizing n with
  | nil => exact ⟨rfl, rfl, rfl⟩
  | cons other tickets ih =>
    obtain ⟨hcontact, hroute, hlength⟩ := ih (n.fireExchange now other)
    obtain ⟨y, hy, -, hroute'⟩ := exchanges_fireExchange now n other
    exact ⟨hcontact.trans (contact_fireExchange now n other), hroute.trans hroute',
      hlength.trans (by rw [hy, List.length_set])⟩

/-- An exchange with a peer has its turn if it is among those that have. -/
theorem getElem?_foldl_fireExchange {x : Exchange} (hx : n.exchanges[ticket]? = some x)
    (hdirect : Direct x) (now : Nat) (tickets : List Nat) :
    (tickets.foldl (fireExchange now) n).exchanges[ticket]? =
      some (if ticket ∈ tickets then n.fired now x else x) := by
  induction tickets generalizing n x with
  | nil => simpa using hx
  | cons other tickets ih =>
    have hone := getElem?_fireExchange hx hdirect now other
    have hfired : (n.fireExchange now other).fired now = n.fired now := by
      funext x
      cases x <;> simp only [fired, contact_fireExchange]
    rw [List.foldl_cons]
    by_cases hother : other = ticket
    · subst hother
      rw [if_pos rfl] at hone
      rw [ih hone (direct_fired hdirect), hfired, fired_fired, if_pos List.mem_cons_self]
      split <;> rfl
    · rw [if_neg hother] at hone
      rw [ih hone hdirect, hfired]
      simp only [List.mem_cons, Ne.symm hother, false_or]

/-- The turn of the network asks no peer anything. -/
theorem contact_fire (now : Nat) (n : Network) : (n.fire now).contact = n.contact :=
  (foldl_fireExchange now n _).1

theorem route_fire (now : Nat) (n : Network) : (n.fire now).route = n.route :=
  (foldl_fireExchange now n _).2.1

/-- The turn of the network opens no exchange. -/
theorem length_fire (now : Nat) (n : Network) :
    (n.fire now).exchanges.length = n.exchanges.length := (foldl_fireExchange now n _).2.2

/-- An exchange with a remote goes on when it is due. -/
theorem getElem?_fire {x : Exchange} (hx : n.exchanges[ticket]? = some x) (hdirect : Direct x)
    (now : Nat) : (n.fire now).exchanges[ticket]? = some (n.fired now x) := by
  have hlt := (List.getElem?_eq_some_iff.1 hx).1
  have hget := getElem?_foldl_fireExchange hx hdirect now (List.range n.exchanges.length)
  rw [if_pos (List.mem_range.2 hlt)] at hget
  exact hget

end Network

namespace Outbound

variable {o o' o'' : Outbound} {place other : Nat} {server : Server}

/-- Each call waits for an exchange of its own, if it waits at all. -/
structure Tidy (o : Outbound) : Prop where
  fresh : ∀ place t, o.ticket? place = some t → t < o.network.exchanges.length
  apart : ∀ place other t, o.ticket? place = some t → o.ticket? other = some t → place = other

/-- Whether tickets are in order is no matter of the calls. -/
theorem Tidy.setWorkers (h : o.Tidy) (workers : Workers) : { o with workers }.Tidy :=
  ⟨h.fresh, h.apart⟩

/-- Something leaves a call, what it waits for, and what was asked of a server as they were. -/
structure Spares (place : Nat) (server : Server) (o o' : Outbound) : Prop where
  call : o'.workers.calls[place]? = o.workers.calls[place]?
  ticket : o'.ticket? place = o.ticket? place
  exchange : ∀ t, o.ticket? place = some t →
    o'.network.exchanges[t]? = o.network.exchanges[t]?
  contact : o'.network.contact server = o.network.contact server
  route : o'.network.route = o.network.route

theorem Spares.refl (place : Nat) (server : Server) (o : Outbound) : Spares place server o o :=
  ⟨rfl, rfl, fun _ _ => rfl, rfl, rfl⟩

theorem Spares.trans (h : Spares place server o o') (h' : Spares place server o' o'') :
    Spares place server o o'' where
  call := h'.call.trans h.call
  ticket := h'.ticket.trans h.ticket
  exchange := fun t ht => (h'.exchange t (h.ticket.trans ht)).trans (h.exchange t ht)
  contact := h'.contact.trans h.contact
  route := h'.route.trans h.route

/-! ## To stop waiting -/

/-- A call that stops waiting has no ticket; the others keep theirs. -/
theorem ticket?_stopWaiting (place other : Nat) : (o.stopWaiting other).ticket? place =
    if other = place then none else o.ticket? place := by
  rw [stopWaiting]
  split
  · exact Assoc.get?_erase
  · rename_i hnone
    split
    · rename_i heq
      rw [← heq, hnone]
    · rfl

/-- The exchange that it waited for is closed. -/
theorem exchanges_stopWaiting : (o.stopWaiting other).network.exchanges =
    match o.ticket? other with
    | some t => o.network.exchanges.set t .closed
    | none => o.network.exchanges := by
  rw [stopWaiting]
  cases o.ticket? other <;> rfl

/-- Tickets stay in order if a call stops waiting. -/
theorem Tidy.stopWaiting (h : o.Tidy) (other : Nat) : (o.stopWaiting other).Tidy := by
  have hlength : (o.stopWaiting other).network.exchanges.length = o.network.exchanges.length := by
    rw [exchanges_stopWaiting]
    split
    · exact List.length_set
    · rfl
  constructor
  · intro place t ht
    rw [ticket?_stopWaiting] at ht
    rw [hlength]
    split at ht
    · cases ht
    · exact h.fresh place t ht
  · intro place place' t ht ht'
    rw [ticket?_stopWaiting] at ht ht'
    split at ht
    · cases ht
    · split at ht'
      · cases ht'
      · exact h.apart place place' t ht ht'

/-- The others do not notice. -/
theorem Tidy.spares_stopWaiting (h : o.Tidy) (hother : other ≠ place) :
    Spares place server o (o.stopWaiting other) where
  call := by rw [workers_stopWaiting]
  ticket := by rw [ticket?_stopWaiting, if_neg hother]
  exchange := by
    intro t ht
    rw [exchanges_stopWaiting]
    split
    · rename_i t' ht'
      refine List.getElem?_set_ne ?_
      rintro rfl
      exact hother (h.apart _ _ _ ht' ht)
    · rfl
  contact := by
    rw [Outbound.stopWaiting]
    split <;> rfl
  route := by
    rw [Outbound.stopWaiting]
    split <;> rfl

/-! ## To wait for something else -/

/-- Tickets stay in order if a call waits for a new exchange. -/
theorem Tidy.waitFor (h : o.Tidy) {opened : Nat × Network} (hopens : o.network.Opens server opened)
    (other : Nat) : (o.waitFor other opened).Tidy := by
  obtain ⟨hticket, ⟨x, hexchanges⟩, -, -⟩ := hopens
  have hget : ∀ place, (o.waitFor other opened).ticket? place =
      if other = place then some o.network.exchanges.length else o.ticket? place := by
    intro place
    rw [← hticket]
    exact Assoc.get?_put
  constructor
  · intro place t ht
    rw [hget] at ht
    change t < opened.2.exchanges.length
    rw [hexchanges, List.length_append]
    split at ht
    · obtain rfl := Option.some.inj ht
      exact Nat.lt_succ_self _
    · exact Nat.lt_of_lt_of_le (h.fresh place t ht) (Nat.le_add_right ..)
  · intro place place' t ht ht'
    rw [hget] at ht ht'
    -- a new exchange is nobody else's
    split at ht <;> split at ht'
    · rename_i heq heq'
      exact heq.symm.trans heq'
    · obtain rfl := Option.some.inj ht
      exact absurd (h.fresh _ _ ht') (Nat.lt_irrefl _)
    · obtain rfl := Option.some.inj ht'
      exact absurd (h.fresh _ _ ht) (Nat.lt_irrefl _)
    · exact h.apart place place' t ht ht'

/-- The calls of other servers do not notice. -/
theorem Tidy.spares_waitFor (h : o.Tidy) {opened : Nat × Network} {target : Server}
    (hopens : o.network.Opens target opened) (hother : other ≠ place) (htarget : target ≠ server) :
    Spares place server o (o.waitFor other opened) := by
  obtain ⟨-, ⟨x, hexchanges⟩, hroute, hcontact⟩ := hopens
  refine ⟨rfl, ?_, fun t ht => ?_, hcontact server (Ne.symm htarget), hroute⟩
  · exact Assoc.get?_put.trans (if_neg hother)
  · change opened.2.exchanges[t]? = _
    rw [hexchanges, List.getElem?_append_left (h.fresh place t ht)]

/-! ## To act -/

/-- Whatever a call does, tickets stay in order. -/
theorem Tidy.perform (h : o.Tidy) (c : Call) (action : CallAction) :
    (perform now other c o action).Tidy := by
  have hlog : ({ o with log := (other, action) :: o.log } : Outbound).Tidy := ⟨h.fresh, h.apart⟩
  cases action with
  | connect => exact hlog.waitFor Network.opens_connect other
  | execute => exact hlog.waitFor Network.opens_send other
  | reconnect id => exact hlog.waitFor Network.opens_send other
  | giveBack => exact hlog
  | discard => exact hlog

/-- Whatever it does, the calls of other servers do not notice. -/
theorem Tidy.spares_perform (h : o.Tidy) {c : Call} (hother : other ≠ place)
    (hserver : c.terms.server ≠ server) (action : CallAction) :
    Spares place server o (Outbound.perform now other c o action) := by
  have hlog : Spares place server o { o with log := (other, action) :: o.log } :=
    ⟨rfl, rfl, fun _ _ => rfl, rfl, rfl⟩
  have htidy : ({ o with log := (other, action) :: o.log } : Outbound).Tidy := ⟨h.fresh, h.apart⟩
  cases action with
  | connect => exact hlog.trans (htidy.spares_waitFor Network.opens_connect hother hserver)
  | execute => exact hlog.trans (htidy.spares_waitFor Network.opens_send hother hserver)
  | reconnect id => exact hlog.trans (htidy.spares_waitFor Network.opens_send hother hserver)
  | giveBack => exact hlog
  | discard => exact hlog

theorem Tidy.performAll (h : o.Tidy) (c : Call) (actions : List CallAction) :
    (actions.foldl (Outbound.perform now other c) o).Tidy := by
  induction actions generalizing o with
  | nil => exact h
  | cons action actions ih => exact ih (h.perform c action)

theorem Tidy.spares_performAll (h : o.Tidy) {c : Call} (hother : other ≠ place)
    (hserver : c.terms.server ≠ server) (actions : List CallAction) :
    Spares place server o (actions.foldl (Outbound.perform now other c) o) := by
  induction actions generalizing o with
  | nil => exact .refl place server o
  | cons action actions ih =>
    exact (h.spares_perform hother hserver action).trans (ih (h.perform c action))

/-- What happens to a call makes it step, and then do what it does. -/
theorem apply_eq {c : Call} (hc : o.workers.calls[other]? = some c) (e : CallEvent) :
    o.apply now other e = (c.step now e).2.foldl (Outbound.perform now other c)
      { o.stopWaiting other with
        workers := { o.workers with calls := o.workers.calls.set other (c.step now e).1 } } := by
  rw [apply, hc, Workers.step, hc]

/-- Whatever happens to a call, tickets stay in order. -/
theorem Tidy.apply (h : o.Tidy) (other : Nat) (e : CallEvent) : (o.apply now other e).Tidy := by
  cases hc : o.workers.calls[other]? with
  | none =>
    rw [Outbound.apply, hc]
    exact h
  | some c =>
    have hstop := h.stopWaiting other
    rw [apply_eq hc]
    exact (hstop.setWorkers _).performAll c _

/-- Whatever happens to a call, servers stay where they are. -/
theorem route_apply (other : Nat) (e : CallEvent) :
    (o.apply now other e).network.route = o.network.route := by
  have hstop : ∀ o : Outbound, (o.stopWaiting other).network.route = o.network.route := by
    intro o
    rw [stopWaiting]
    split <;> rfl
  have hperform : ∀ (c : Call) (actions : List CallAction) (o : Outbound),
      (actions.foldl (perform now other c) o).network.route = o.network.route := by
    intro c actions
    induction actions with
    | nil => exact fun _ => rfl
    | cons action actions ih =>
      intro o
      refine (ih _).trans ?_
      cases action with
      | connect => exact Network.opens_connect.route_eq
      | execute => exact Network.opens_send.route_eq
      | reconnect id => exact Network.opens_send.route_eq
      | giveBack => rfl
      | discard => rfl
  cases hc : o.workers.calls[other]? with
  | none => rw [apply, hc]
  | some c =>
    rw [apply_eq hc, hperform]
    exact hstop o

/-- Whatever happens to a call, there are as many calls. -/
theorem length_apply (other : Nat) (e : CallEvent) :
    (o.apply now other e).workers.calls.length = o.workers.calls.length := by
  rw [workers_apply, Workers.step]
  split
  · exact List.length_set
  · rfl

/-- The other calls to a server have ended. -/
def Alone (place : Nat) (server : Server) (o : Outbound) : Prop :=
  ∀ (other : Nat) (c : Call), other ≠ place → o.workers.calls[other]? = some c →
    c.terms.server = server → c.isFinished = true

/-- A call that is alone at its server stays so while calls only go on. -/
theorem Alone.of_goesOn (h : Alone place server o) (hon : o.workers.GoesOn o'.workers)
    (hlength : o'.workers.calls.length = o.workers.calls.length) : Alone place server o' := by
  intro other c' hother hc' hserver
  have hlt : other < o.workers.calls.length :=
    hlength ▸ (List.getElem?_eq_some_iff.1 hc').1
  obtain ⟨c'', hc'', hgoes⟩ := hon other _ (List.getElem?_eq_getElem hlt)
  obtain rfl := Option.some.inj (hc''.symm.trans hc')
  obtain ⟨how, hend⟩ := Call.isFinished_iff.1 (h other _ hother (List.getElem?_eq_getElem hlt)
    (hgoes.terms_eq ▸ hserver))
  exact Call.isFinished_iff.2 ⟨how, hgoes.ended how hend⟩

/-- What happens to another call spares a call that is alone with its server. -/
theorem Tidy.spares_apply (h : o.Tidy) (halone : Alone place server o) (hother : other ≠ place)
    (e : CallEvent) : Spares place server o (o.apply now other e) := by
  cases hc : o.workers.calls[other]? with
  | none =>
    rw [Outbound.apply, hc]
    exact .refl place server o
  | some c =>
    have hstop := h.stopWaiting other
    have hset : Spares place server o { o.stopWaiting other with
        workers := { o.workers with calls := o.workers.calls.set other (c.step now e).1 } } :=
      { h.spares_stopWaiting hother with call := List.getElem?_set_ne hother }
    rw [apply_eq hc]
    refine hset.trans ?_
    by_cases hserver : c.terms.server = server
    · -- a call to the same server has ended, and does nothing
      obtain ⟨how, hend⟩ := Call.isFinished_iff.1 (halone other c hother hc hserver)
      rw [Call.step_of_ended (Call.stage_of_end? hend)]
      exact .refl place server _
    · exact (hstop.setWorkers _).spares_performAll hother hserver _

end Outbound

end ScatterSearch
