import ScatterSearch.Proofs.Call.Steps
import ScatterSearch.Proofs.Call.Talk
import ScatterSearch.Proofs.Time.Flow

/-!
# Lines

What a call that is alone with its remote goes through is settled by three things: the call, the
exchange that it waits for, and what the remote was asked. A `Line` is these three, and a machine of
its own (`Line.machine`).

When calls and network act, they do to a line what it would do by itself, or leave it alone
(`Line.On.fire`). They leave it alone if it has nothing to do (`Line.fire_of_idle`), and never let
time pass what it waits for (`Line.On.due_le`). So whatever becomes of other calls, a line goes
through its own flow, of which there is only one.
-/

namespace ScatterSearch

/-- A call, the exchange that it waits for, and what its remote was asked. -/
structure Line where
  call : Call
  exchange : Option Exchange
  contact : Contact

namespace Line

/-! ## What a line does by itself -/

/-- The call sends a request: to execute, or with an id to come back. -/
def send (r : Remote) (now : Nat) (c : Call) (l : Line) (id : Option ExecutionId) : Line :=
  { l with
    exchange := some (.thinking (now + (l.contact.ask r c.request id).1.delay) c.terms.server
      (l.contact.ask r c.request id).1.reply)
    contact := (l.contact.ask r c.request id).2 }

/-- Does what the call wants done. -/
def perform (r : Remote) (now : Nat) (c : Call) (l : Line) : CallAction → Line
  | .connect => { l with exchange := some (.opening (now + r.connectDelay) r.connection) }
  | .execute => l.send r now c none
  | .reconnect id => l.send r now c (some id)
  | .giveBack | .discard => l

/-- Lets something happen to the call. -/
def apply (r : Remote) (now : Nat) (e : CallEvent) (l : Line) : Line :=
  (l.call.step now e).2.foldl (perform r now l.call)
    { l with call := (l.call.step now e).1, exchange := none }

/-- What has come for the call. -/
def arrival? (l : Line) : Option CallEvent :=
  match l.exchange with
  | some (.opened outcome) => some (.connected outcome)
  | some (.replied reply) => some (.replied reply)
  | _ => none

/-- Whether the call gives up. -/
def isLate (now : Nat) (l : Line) : Bool := l.call.deadline.any (· ≤ now)

/-- What is due happens to the exchange. -/
def fireExchange (now : Nat) (l : Line) : Line :=
  { l with exchange := l.exchange.map fun
      | .opening due outcome => if due ≤ now then .opened outcome else .opening due outcome
      | .thinking due server reply =>
        if due ≤ now then .replied (reply l.contact.last) else .thinking due server reply
      | x => x }

/-- The call hears what has come for it, or gives up. -/
def hear (r : Remote) (now : Nat) (l : Line) : Line :=
  match l.arrival? with
  | some e => l.apply r now e
  | none => if l.isLate now then l.apply r now .outOfTime else l

/-- A worker takes up the call. -/
def takeUp (r : Remote) (now : Nat) (l : Line) : Line :=
  if l.call.isQueued then l.apply r now .admitted else l

/-- Acts at an instant. -/
def fire (r : Remote) (now : Nat) (l : Line) : Line :=
  ((l.fireExchange now).hear r now).takeUp r now

/-- Whether something can happen right now. -/
def isReady (l : Line) : Bool := l.call.isQueued || l.arrival?.isSome

/-- The next instant at which something happens. -/
def due (l : Line) : Option Nat :=
  if l.isReady then some 0
  else (l.call.deadline.toList ++ (l.exchange.bind Exchange.due?).toList).min?

/-- The line with a remote as a machine. -/
def machine (r : Remote) : Machine Line := ⟨due, fire r⟩

variable {k : Talk} {l : Line} {r : Remote} {o : Outbound} {now : Nat} {e : CallEvent}

/-- What is due by itself is not before the line is due. -/
theorem due_le (hready : l.isReady = false) {d : Nat}
    (hd : l.call.deadline = some d ∨ l.exchange.bind Exchange.due? = some d) :
    ∃ m, l.due = some m ∧ m ≤ d := by
  rw [due, hready, if_neg Bool.false_ne_true]
  refine Lists.exists_min?_le ?_
  rcases hd with hd | hd
  · rw [hd]
    exact List.mem_append_left _ (List.mem_singleton_self d)
  · rw [hd]
    exact List.mem_append_right _ (List.mem_singleton_self d)

/-- A line that has nothing to do does nothing. -/
theorem fire_of_idle (h : ∀ d, l.due = some d → now < d) : l.fire r now = l := by
  have hready : l.isReady = false := by
    cases hready : l.isReady with
    | false => rfl
    | true => exact absurd (h 0 (by rw [due, if_pos hready])) (Nat.not_lt_zero now)
  have hlater : ∀ d, l.call.deadline = some d ∨ l.exchange.bind Exchange.due? = some d →
      now < d := by
    intro d hd
    obtain ⟨m, hm, hle⟩ := due_le hready hd
    exact Nat.lt_of_lt_of_le (h m hm) hle
  obtain ⟨hqueued, harrival⟩ := Bool.or_eq_false_iff.1 hready
  rw [Option.isSome_eq_false_iff, Option.isNone_iff_eq_none] at harrival
  have hexchange : l.fireExchange now = l := by
    obtain ⟨call, exchange, contact⟩ := l
    cases exchange with
    | none => rfl
    | some x =>
      cases x with
      | opening due outcome =>
        have hlt : now < due := hlater due (.inr rfl)
        simp [fireExchange, Nat.not_le_of_lt hlt]
      | thinking due server reply =>
        have hlt : now < due := hlater due (.inr rfl)
        simp [fireExchange, Nat.not_le_of_lt hlt]
      | _ => rfl
  have hlate : l.isLate now = false := by
    rw [isLate]
    cases hd : l.call.deadline with
    | none => rfl
    | some d => simpa using hlater d (.inl hd)
  rw [fire, hexchange, hear, harrival]
  simp [hlate, takeUp, hqueued]

/-! ## Which lines there are -/

/-- An exchange with a remote. -/
def Own (server : Server) : Exchange → Prop
  | .travelling _ _ _ _ | .served _ _ => False
  | .thinking _ s _ => s = server
  | _ => True

/-- A line whose call was not told to stop, and which waits for its remote, if at all. -/
structure Sound (l : Line) : Prop where
  going : l.call.stopping = false
  queued : l.call.isQueued = true → l.exchange = none
  own : ∀ x, l.exchange = some x → Own l.call.terms.server x

end Line

/-- What is queued after something happened was queued before and has done nothing. -/
theorem Call.step_eq_of_queued {c : Call} {now : Nat} {e : CallEvent}
    (h : (c.step now e).1.isQueued = true) : c.step now e = (c, []) := by
  have hhear : ∀ started reply, (c.hear now started reply).1.isQueued = false := by
    intro started reply
    cases reply with
    | panics message => rfl
    | answers answer =>
      rw [Call.hear]
      split <;> rfl
  cases e with
  | replied reply =>
    simp only [Call.step] at h ⊢
    split at h
    · cases (hhear _ _).symm.trans h
    · cases (hhear _ _).symm.trans h
    · rfl
  | admitted | connected | brokeDown | outOfTime | stopped =>
    simp only [Call.step] at h ⊢
    split at h <;> first | cases h | rfl

/-- A call that is taken up is not queued any more. -/
theorem Call.isQueued_admitted {c : Call} {now : Nat} (h : c.isQueued = true) :
    (c.step now .admitted).1.isQueued = false := by
  obtain ⟨terms, request, stage, stopping⟩ := c
  cases stage with
  | queued => rfl
  | connecting | executing | reconnecting | ended => cases h

/-- What a call does leaves the routes as they are. -/
theorem Outbound.route_perform {o : Outbound} {now place : Nat} {c : Call} (action : CallAction) :
    (Outbound.perform now place c o action).network.route = o.network.route := by
  cases action with
  | connect => exact Network.opens_connect.route_eq
  | execute | reconnect => exact Network.opens_send.route_eq
  | giveBack | discard => rfl

namespace Line

variable {k : Talk} {l : Line} {r : Remote} {o : Outbound} {now : Nat} {e : CallEvent} {c : Call}

/-- What a call does is not done to it. -/
theorem perform_call (action : CallAction) : (l.perform r now c action).call = l.call := by
  cases action <;> rfl

/-- Whatever a call does, its exchange is with its own server. -/
theorem own_perform (hserver : c.terms.server = l.call.terms.server)
    (hown : ∀ x, l.exchange = some x → Own l.call.terms.server x) (action : CallAction) :
    ∀ x, (l.perform r now c action).exchange = some x → Own l.call.terms.server x := by
  cases action with
  | connect =>
    rintro x hx
    obtain rfl := Option.some.inj hx
    trivial
  | execute | reconnect =>
    rintro x hx
    obtain rfl := Option.some.inj hx
    exact hserver
  | giveBack | discard => exact hown

theorem call_performAll (actions : List CallAction) :
    (actions.foldl (perform r now c) l).call = l.call := by
  induction actions generalizing l with
  | nil => rfl
  | cons action actions ih => exact ih.trans (perform_call action)

theorem own_performAll (hserver : c.terms.server = l.call.terms.server)
    (hown : ∀ x, l.exchange = some x → Own l.call.terms.server x) (actions : List CallAction) :
    ∀ x, (actions.foldl (perform r now c) l).exchange = some x → Own l.call.terms.server x := by
  induction actions generalizing l with
  | nil => exact hown
  | cons action actions ih =>
    have hcall : (l.perform r now c action).call = l.call := perform_call action
    rw [← hcall]
    refine ih (hcall ▸ hserver) ?_
    rw [hcall]
    exact own_perform hserver hown action

/-- What happens to the call makes it step. -/
theorem call_apply : (l.apply r now e).call = (l.call.step now e).1 := call_performAll _

theorem terms_apply : (l.apply r now e).call.terms = l.call.terms := by
  rw [call_apply]
  exact (l.call.follows_step now e).terms_eq

/-- A line stays sound, whatever happens to its call. -/
theorem Sound.apply (h : l.Sound) : (l.apply r now e).Sound where
  going := by
    rw [call_apply, Call.stopping_step]
    exact h.going
  queued hqueued := by
    rw [call_apply] at hqueued
    rw [Line.apply, Call.step_eq_of_queued hqueued]
    rfl
  own x hx := by
    rw [terms_apply]
    have hterms := (l.call.follows_step now e).terms_eq
    rw [← hterms]
    exact own_performAll (l := ⟨(l.call.step now e).1, none, l.contact⟩) (by rw [hterms])
      (fun _ h => nomatch h) _ x hx

theorem Sound.fireExchange (h : l.Sound) : (l.fireExchange now).Sound where
  going := h.going
  queued hqueued := by rw [Line.fireExchange, h.queued hqueued]; rfl
  own x hx := by
    obtain ⟨y, hy, rfl⟩ := Option.map_eq_some_iff.1 hx
    have hown := h.own y hy
    cases y with
    | opening due outcome =>
      dsimp only
      split <;> trivial
    | thinking due server reply =>
      dsimp only
      split
      · trivial
      · exact hown
    | opened | replied | closed => trivial
    | travelling | served => exact hown

theorem Sound.hear (h : l.Sound) : (l.hear r now).Sound := by
  rw [Line.hear]
  split
  · exact h.apply
  · split
    · exact h.apply
    · exact h

theorem Sound.takeUp (h : l.Sound) : (l.takeUp r now).Sound := by
  rw [Line.takeUp]
  split
  · exact h.apply
  · exact h

/-- A queued call waits for a worker only. -/
theorem Sound.hear_of_queued (h : l.Sound) (hqueued : l.call.isQueued = true) :
    (l.fireExchange now).hear r now = l := by
  obtain ⟨⟨terms, request, stage, stopping⟩, exchange, contact⟩ := l
  obtain rfl : exchange = none := h.queued hqueued
  cases stage with
  | queued => rfl
  | connecting | executing | reconnecting | ended => cases hqueued

/-- Nothing that a call hears puts it into the queue. -/
theorem isQueued_of_hear (h : (l.hear r now).call.isQueued = true) : l.call.isQueued = true := by
  have happly : ∀ e, (l.apply r now e).call.isQueued = true → l.call.isQueued = true := by
    intro e he
    rw [call_apply] at he
    rwa [Call.step_eq_of_queued he] at he
  rw [hear] at h
  split at h
  · exact happly _ h
  · split at h
    · exact happly _ h
    · exact h

theorem Sound.fire (h : l.Sound) : (l.fire r now).Sound := h.fireExchange.hear.takeUp

/-- A call that has ended stays as it ended. -/
theorem call_fire_of_ended {how : CallEnd} (h : l.call.end? = some how) :
    (l.fire r now).call = l.call := by
  have happly : ∀ (l' : Line) (e : CallEvent), l'.call = l.call →
      (l'.apply r now e).call = l.call := by
    intro l' e hl'
    rw [call_apply, hl', Call.step_of_ended (Call.stage_of_end? h)]
  have hhear : ((l.fireExchange now).hear r now).call = l.call := by
    rw [Line.hear]
    split
    · exact happly _ _ rfl
    · split
      · exact happly _ _ rfl
      · rfl
  rw [Line.fire, Line.takeUp]
  split
  · exact happly _ _ hhear
  · exact hhear

/-! ## A line among others -/

/-- Calls and network show a line. -/
structure At (k : Talk) (l : Line) (o : Outbound) : Prop where
  call : o.workers.calls[k.place]? = some l.call
  exchange : (o.ticket? k.place).bind (o.network.exchanges[·]?) = l.exchange
  contact : o.network.contact k.terms.server = l.contact

/-- The line is that of a call that is alone with its remote. -/
structure On (k : Talk) (l : Line) (o : Outbound) : Prop extends l.At k o where
  terms : l.call.terms = k.terms
  secluded : k.Secluded o

/-- The call begins to wait for another exchange. -/
theorem At.waitFor (h : l.At k o) {opened : Nat × Network} {x : Exchange}
    (hticket : opened.1 = o.network.exchanges.length)
    (hexchanges : opened.2.exchanges = o.network.exchanges ++ [x]) :
    (⟨l.call, some x, opened.2.contact k.terms.server⟩ : Line).At k (o.waitFor k.place opened) := by
  refine ⟨h.call, ?_, rfl⟩
  have hget : (o.waitFor k.place opened).ticket? k.place = some o.network.exchanges.length := by
    rw [← hticket]
    exact Assoc.get?_put_self
  rw [hget, Option.bind_some]
  change opened.2.exchanges[o.network.exchanges.length]? = some x
  rw [hexchanges]
  exact List.getElem?_concat_length

/-- A request on the line is one among all calls. -/
theorem At.send (h : l.At k o) (hc : c.terms = k.terms)
    (hroute : o.network.route k.terms.server = .remote k.remote) (id : Option ExecutionId) :
    (l.send k.remote now c id).At k
      (o.waitFor k.place (o.network.send now c.terms.server c.request id)) := by
  have hsend : o.network.send now c.terms.server c.request id =
      ({ o.network with
          contacts := o.network.contacts.put c.terms.server
            ((o.network.contact c.terms.server).ask k.remote c.request id).2 } : Network).push
        (.thinking (now + ((o.network.contact c.terms.server).ask k.remote c.request id).1.delay)
          c.terms.server
          ((o.network.contact c.terms.server).ask k.remote c.request id).1.reply) := by
    rw [Network.send, hc, hroute]
  have hcontact : (o.network.send now c.terms.server c.request id).2.contact k.terms.server =
      ((o.network.contact c.terms.server).ask k.remote c.request id).2 := by
    rw [hsend, ← hc]
    exact congrArg (fun m : Option Contact => m.getD .new) Assoc.get?_put_self
  have hwait := h.waitFor (congrArg Prod.fst hsend)
    (congrArg (fun p : Nat × Network => p.2.exchanges) hsend)
  rw [hcontact, hc, h.contact] at hwait
  rw [Line.send, hc]
  exact hwait

/-- What the call does on the line it does among all calls. -/
theorem At.perform (h : l.At k o) (hc : c.terms = k.terms)
    (hroute : o.network.route k.terms.server = .remote k.remote) (action : CallAction) :
    (l.perform k.remote now c action).At k (Outbound.perform now k.place c o action) := by
  have hlog : l.At k { o with log := (k.place, action) :: o.log } := ⟨h.call, h.exchange, h.contact⟩
  cases action with
  | connect =>
    have hconnect : o.network.connect now c.terms.server =
        o.network.push (.opening (now + k.remote.connectDelay) k.remote.connection) := by
      rw [Network.connect, hc, hroute]
    have hwait := hlog.waitFor (congrArg Prod.fst hconnect)
      (congrArg (fun p : Nat × Network => p.2.exchanges) hconnect)
    have hcontact :
        (o.network.connect now c.terms.server).2.contact k.terms.server = l.contact := by
      rw [hconnect]
      exact h.contact
    rw [hcontact] at hwait
    exact hwait
  | execute => exact hlog.send hc hroute none
  | reconnect id => exact hlog.send hc hroute (some id)
  | giveBack => exact hlog
  | discard => exact hlog

theorem At.performAll (h : l.At k o) (hc : c.terms = k.terms)
    (hroute : o.network.route k.terms.server = .remote k.remote) (actions : List CallAction) :
    (actions.foldl (Line.perform k.remote now c) l).At k
      (actions.foldl (Outbound.perform now k.place c) o) := by
  induction actions generalizing l o with
  | nil => exact h
  | cons action actions ih =>
    refine ih (h.perform hc hroute action) ?_
    rw [Outbound.route_perform]
    exact hroute

/-- Something happens to the call of the line. -/
theorem On.apply_self (h : l.On k o) (now : Nat) (e : CallEvent) :
    (l.apply k.remote now e).On k (o.apply now k.place e) := by
  refine ⟨?_, terms_apply.trans h.terms, h.secluded.apply now k.place e⟩
  obtain ⟨hcontact, hroute⟩ := Talk.contact_stopWaiting (o := o) k.place
  have hticket : (o.stopWaiting k.place).ticket? k.place = none := by
    rw [Outbound.ticket?_stopWaiting, if_pos rfl]
  rw [Outbound.apply_eq h.call, Line.apply]
  refine At.performAll ⟨?_, ?_, ?_⟩ h.terms ?_ _
  · exact List.getElem?_set_self (List.getElem?_eq_some_iff.1 h.call).1
  · exact congrArg (Option.bind · _) hticket
  · exact (congrFun hcontact _).trans h.contact
  · exact (congrFun hroute _).trans h.secluded.route

/-- Something happens to another call. -/
theorem On.apply_other (h : l.On k o) {other : Nat} (hother : other ≠ k.place) (now : Nat)
    (e : CallEvent) : l.On k (o.apply now other e) := by
  have hspares : Outbound.Spares k.place _ o (o.apply now other e) :=
    h.secluded.tidy.spares_apply h.secluded.alone hother e
  obtain ⟨hcall, hticket, hexchange, hcontact, -⟩ := hspares
  refine ⟨⟨hcall.trans h.call, ?_, hcontact.trans h.contact⟩, h.terms,
    h.secluded.apply now other e⟩
  rw [← h.exchange, hticket]
  cases ht : o.ticket? k.place with
  | none => rfl
  | some t => exact hexchange t ht

/-! ### At an instant -/

/-- Other calls stop, this one was not told to. -/
theorem On.stopTurn (h : l.On k o) (hgoing : l.call.stopping = false) (now place : Nat) :
    l.On k (o.stopTurn now place) := by
  refine Outbound.keeps_stopTurn (fun hmust => h.apply_other ?_ now _) h
  rintro rfl
  rw [h.call, Option.any_some, Outbound.mustStop, hgoing] at hmust
  cases hmust

/-- The stops of an instant leave the line as it is. -/
theorem On.stopCalls (h : l.On k o) (hgoing : l.call.stopping = false) (now : Nat) :
    l.On k (o.stopCalls now) :=
  Outbound.keeps_stopCalls (fun _ place h => h.stopTurn hgoing now place) h

/-- The network acts. -/
theorem On.fire_network (h : l.On k o) (hs : l.Sound) (now : Nat) :
    (l.fireExchange now).On k { o with network := o.network.fire now } := by
  refine ⟨⟨h.call, ?_, ?_⟩, h.terms, h.secluded.fire_network now⟩
  · have hexchange := h.exchange
    change (o.ticket? k.place).bind ((o.network.fire now).exchanges[·]?) = l.exchange.map _
    cases ht : o.ticket? k.place with
    | none =>
      rw [ht] at hexchange
      rw [← hexchange]
      rfl
    | some t =>
      rw [ht, Option.bind_some] at hexchange
      rw [Option.bind_some]
      cases hx : o.network.exchanges[t]? with
      | none =>
        rw [← hexchange, hx, List.getElem?_eq_none, Option.map_none]
        rw [Network.length_fire]
        exact List.getElem?_eq_none_iff.1 hx
      | some x =>
        rw [hx] at hexchange
        have hown := hs.own x hexchange.symm
        rw [← hexchange, Option.map_some]
        cases x with
        | travelling | served => exact hown.elim
        | opening due outcome => exact Network.getElem?_fire hx trivial now
        | thinking due server reply =>
          -- the remote was last asked by this call
          obtain rfl : server = l.call.terms.server := hown
          rw [Network.getElem?_fire hx trivial now, Network.fired, h.terms, h.contact]
        | opened | replied | closed => exact Network.getElem?_fire hx trivial now
  · exact (congrFun (Network.contact_fire now o.network) _).trans h.contact

/-- What has come for the call. -/
theorem On.arrival?_eq (h : l.On k o) (hs : l.Sound) : o.arrival? k.place = l.arrival? := by
  have hexchange := h.exchange
  rw [arrival?]
  cases ht : o.ticket? k.place with
  | none =>
    rw [ht] at hexchange
    rw [Talk.arrival?_none ht, ← hexchange]
    rfl
  | some t =>
    rw [ht, Option.bind_some] at hexchange
    rw [Talk.arrival?_eq ht, Network.connected?, Network.reply?, hexchange]
    cases hx : l.exchange with
    | none => rfl
    | some x =>
      have hown := hs.own x hx
      cases x with
      | travelling | served => exact hown.elim
      | opening | opened | thinking | replied | closed => rfl

/-- The call hears on the line what it hears among all calls. -/
theorem On.hearOne_self (h : l.On k o) (hs : l.Sound) (now : Nat) :
    (l.hear k.remote now).On k (o.hearOne now k.place) := by
  rw [Outbound.hearOne, Line.hear, h.arrival?_eq hs]
  cases l.arrival? with
  | some e => exact h.apply_self now e
  | none =>
    have hlate :
        (((o.workers.calls[k.place]?).bind (·.deadline)).any (· ≤ now)) = l.isLate now := by
      rw [h.call, Option.bind_some, isLate]
    dsimp only
    rw [hlate]
    split
    · exact h.apply_self now _
    · exact h

/-- What others hear leaves the line as it is. -/
theorem On.hearOne_other (h : l.On k o) {other : Nat} (hother : other ≠ k.place) (now : Nat) :
    l.On k (o.hearOne now other) :=
  Outbound.keeps_hearOne (fun e _ => h.apply_other hother now e) (h.apply_other hother now _) h

/-- All calls hear what has come for them, each once. -/
theorem On.hear (h : l.On k o) (hs : l.Sound) (now : Nat) :
    (l.hear k.remote now).On k (o.hear now) :=
  Lists.foldl_range_around (P := l.On k) (List.getElem?_eq_some_iff.1 h.call).1
    (fun _ _ hother h => h.hearOne_other hother now) (fun _ h => h.hearOne_self hs now)
    (fun _ _ hother h => h.hearOne_other hother now) h

/-- Workers take up the call, or have not come to it. -/
theorem On.takeUp (h : l.On k o) (now fuel : Nat) :
    (l.takeUp k.remote now).On k (Outbound.takeUp now fuel o) ∨
      (l.call.isQueued = true ∧ l.On k (Outbound.takeUp now fuel o)) := by
  -- a call that is not queued stays as it is
  have hrest : ∀ (fuel : Nat) {l : Line} {o : Outbound}, l.On k o → l.call.isQueued = false →
      l.On k (Outbound.takeUp now fuel o) := by
    intro fuel l o h hqueued
    refine Outbound.keeps_takeUp (fun o place hnext h => h.apply_other ?_ now _) fuel h
    rintro rfl
    rw [Workers.isQueued_of_next? hnext h.call] at hqueued
    cases hqueued
  cases hqueued : l.call.isQueued with
  | false =>
    rw [Line.takeUp, hqueued, if_neg Bool.false_ne_true]
    exact .inl (hrest fuel h hqueued)
  | true =>
    rw [Line.takeUp, hqueued, if_pos rfl]
    induction fuel generalizing o with
    | zero => exact .inr ⟨rfl, h⟩
    | succ fuel ih =>
      rw [Outbound.takeUp]
      split
      · rename_i place hnext
        by_cases hplace : place = k.place
        · subst hplace
          refine .inl (hrest fuel (h.apply_self now _) ?_)
          rw [call_apply]
          exact Call.isQueued_admitted hqueued
        · exact ih (h.apply_other hplace now _)
      · exact .inr ⟨rfl, h⟩

/-- When calls and network act, the line does what it would do by itself, or stays as it is. -/
theorem On.fire (h : l.On k o) (hs : l.Sound) (now : Nat) :
    (l.fire k.remote now).On k (o.fire now) ∨ l.On k (o.fire now) := by
  have hnetwork := (h.stopCalls hs.going now).fire_network hs now
  have hhear := hnetwork.hear hs.fireExchange now
  rcases hhear.takeUp now _ with hfire | ⟨hqueued, hsame⟩
  · exact .inl hfire
  · have hwas : l.call.isQueued = true := isQueued_of_hear (l := l.fireExchange now) hqueued
    rw [hs.hear_of_queued hwas] at hsame
    exact .inr hsame

/-! ### In time -/

/-- If the line is ready, all calls are. -/
theorem On.isReady (h : l.On k o) (hs : l.Sound)
    (hfree : l.call.isQueued = true → o.workers.inFlight < o.workers.capacity)
    (hready : l.isReady = true) : o.isReady = true := by
  rw [Outbound.isReady, Bool.or_eq_true, Bool.or_eq_true]
  rcases Bool.or_eq_true_iff.1 hready with hqueued | harrival
  · refine .inl (.inl ?_)
    rw [Workers.next?, if_pos (hfree hqueued), List.findIdx?_isSome]
    refine List.any_eq_true.2 ⟨_, List.mem_of_getElem? h.call, ?_⟩
    rw [hqueued, hs.going]
    rfl
  · refine .inr (List.any_eq_true.2 ⟨k.place, ?_, ?_⟩)
    · exact List.mem_range.2 (List.getElem?_eq_some_iff.1 h.call).1
    · rw [h.arrival?_eq hs]
      exact harrival

/-- Something is due no later than the line is, if there is a worker for it. -/
theorem On.due_le (h : l.On k o) (hs : l.Sound)
    (hfree : l.call.isQueued = true → o.workers.inFlight < o.workers.capacity) {d : Nat}
    (hd : l.due = some d) : ∃ d', o.due = some d' ∧ d' ≤ d := by
  by_cases hready : o.isReady = true
  · exact ⟨0, by rw [Outbound.due, if_pos hready], Nat.zero_le d⟩
  · have hidle : l.isReady = false := by
      rw [← Bool.not_eq_true]
      exact mt (h.isReady hs hfree) hready
    rw [Outbound.due, if_neg hready]
    rw [due, hidle, if_neg Bool.false_ne_true] at hd
    rcases List.mem_append.1 (List.min?_eq_some_iff.1 hd).1 with hmem | hmem
    · refine Lists.exists_min?_le (List.mem_append_left _ ?_)
      exact List.mem_filterMap.2 ⟨_, List.mem_of_getElem? h.call, Option.mem_toList.1 hmem⟩
    · obtain ⟨x, hx, hdue⟩ := Option.bind_eq_some_iff.1 (Option.mem_toList.1 hmem)
      obtain ⟨t, -, ht⟩ := Option.bind_eq_some_iff.1 (h.exchange.trans hx)
      have hmem' : d ∈ o.network.exchanges.filterMap (·.due?) ++
          o.network.hosts.filterMap (·.due) :=
        List.mem_append_left _ (List.mem_filterMap.2 ⟨x, List.mem_of_getElem? ht, hdue⟩)
      obtain ⟨m, hm, hle⟩ := Lists.exists_min?_le hmem'
      have hnetwork : m ∈ o.workers.calls.filterMap (·.deadline) ++ o.network.due.toList := by
        refine List.mem_append_right _ (Option.mem_toList.2 ?_)
        exact hm
      obtain ⟨d', hd', hle'⟩ := Lists.exists_min?_le hnetwork
      exact ⟨d', hd', Nat.le_trans hle' hle⟩

end Line

end ScatterSearch
