import ScatterSearch.Call.Outbound
import ScatterSearch.Proofs.Assoc
import ScatterSearch.Proofs.Call.Exchanges
import ScatterSearch.Proofs.Call.Holdings
import ScatterSearch.Proofs.Call.Turns

/-!
# What calls return

What holds of the outcomes of the nodes' handlers holds of whatever the calls to them return
(`Outbound.Faithful.returns`). A call waits for an exchange about its own request; what it hears is
therefore about that request, and so is the id with which it comes back.

* `Call.follows_step` says what a call may do when something happens to it;
* `Outbound.Faithful` is the invariant of calls and network, `Outbound.Later` its steps.
-/

namespace ScatterSearch

variable {S : Nat → Standard} {first now : Nat}

/-- If a server is a node of the network, a response is an outcome of that node. -/
def Network.Returns (S : Nat → Standard) (n : Network) (server : Server) (request : ExecuteRequest)
    (r : Response) : Prop :=
  ∀ place latency, n.route server = .host place latency → (S place).Holds request (.answers r)

/-! ## Calls -/

namespace Call

/-- What a call hears is about its request. -/
def Hears (S : Nat → Standard) (n : Network) (c : Call) : CallEvent → Prop
  | .replied (.answers (.ok r)) => n.Returns S c.terms.server c.request r
  | .replied (.answers (.error (.stillRunning id))) =>
    ∀ place latency, n.route c.terms.server = .host place latency → n.Names S place id c.request
  | _ => True

/-- The response with which a call ended. -/
def response? (c : Call) : Option Response :=
  match c.stage with
  | .ended (.returned (.ok r)) => some r
  | _ => none

variable {c : Call}

/-- What becomes of a call, and what it does, when something happens to it: its terms and its
request stay, it has a response only if it had it or hears it, and it comes back only with an id
that it hears. -/
structure Follows (c : Call) (e : CallEvent) (after : Call × List CallAction) : Prop where
  terms_eq : after.1.terms = c.terms
  request_eq : after.1.request = c.request
  response : ∀ r, after.1.response? = some r →
    c.response? = some r ∨ e = .replied (.answers (.ok r))
  comesBack : ∀ id, .reconnect id ∈ after.2 → e = .replied (.answers (.error (.stillRunning id)))

variable {e : CallEvent}

theorem follows_nothing : Follows c e (c, []) :=
  ⟨rfl, rfl, fun _ h => .inl h, fun _ h => by cases h⟩

/-- A call that goes on, or ends without a response. -/
theorem follows_stage {stage : Stage} {actions : List CallAction}
    (hresponse : ∀ r, stage ≠ .ended (.returned (.ok r)))
    (hback : ∀ id, CallAction.reconnect id ∉ actions) :
    Follows c e ({ c with stage }, actions) where
  terms_eq := rfl
  request_eq := rfl
  response := by
    intro r hr
    rw [response?] at hr
    split at hr
    · rename_i r' hstage
      exact absurd hstage (hresponse r')
    · cases hr
  comesBack := fun id hid => absurd hid (hback id)

theorem reconnect_notMem_hangUp (how : CallEnd) (id : ExecutionId) :
    CallAction.reconnect id ∉ (c.hangUp how).2 := by
  intro hid
  rcases (c.hangUp_cases how).2 with hnone | hone
  · rw [hnone] at hid
    cases hid
  · rw [hone, List.mem_singleton] at hid
    rcases how with (error | r) | message | _ <;> cases hid

/-- A call that hangs up without a response has none, and does not come back. -/
theorem follows_hangUp {how : CallEnd} (h : ∀ r, how ≠ .returned (.ok r)) :
    Follows c e (c.hangUp how) :=
  follows_stage (fun r hstage => h r (Stage.ended.inj hstage)) (reconnect_notMem_hangUp how)

/-- A call that returns the response that it hears. -/
theorem follows_return (r : Response) :
    Follows c (.replied (.answers (.ok r))) (c.hangUp (.returned (.ok r))) where
  terms_eq := rfl
  request_eq := rfl
  response := by
    intro r' hr
    obtain rfl := Option.some.inj hr
    exact .inr rfl
  comesBack := fun id hid => absurd hid (reconnect_notMem_hangUp _ id)

/-- What a call makes of a reply is what the reply says. -/
theorem follows_hear (started : Nat) (reply : Reply) :
    Follows c (.replied reply) (c.hear now started reply) := by
  rcases reply with ((id | message) | response) | message
  · -- the work goes on: the call comes back, or its time is over
    have hjudge : c.terms.judge (now - started) (.error (.stillRunning id)) = .comeBack id ∨
        ∃ error, c.terms.judge (now - started) (.error (.stillRunning id)) =
          .settled (.error error) := by
      rw [CallTerms.judge]
      split
      · exact .inl rfl
      · split
        · exact .inr ⟨_, rfl⟩
        · exact .inl rfl
    rw [hear]
    rcases hjudge with hjudge | ⟨error, hjudge⟩
    · simp only [hjudge]
      refine ⟨rfl, rfl, (fun _ h => nomatch h), fun id' h => ?_⟩
      rw [CallAction.reconnect.inj (List.mem_singleton.1 h)]
    · simp only [hjudge]
      exact follows_hangUp fun _ h => nomatch h
  · exact follows_hangUp fun _ h => nomatch h
  · exact follows_return response
  · exact follows_hangUp fun _ h => nomatch h

/-- A call has the response that it heard, and none else, whatever happens. -/
theorem follows_step (c : Call) (now : Nat) (e : CallEvent) : Follows c e (c.step now e) := by
  cases e with
  | admitted =>
    simp only [step]
    split
    · exact follows_stage (fun _ h => nomatch h) (by simp)
    · exact follows_nothing
  | connected outcome =>
    simp only [step]
    split
    · exact follows_stage (fun _ h => nomatch h) (by simp)
    · exact follows_hangUp fun _ h => nomatch h
    · exact follows_nothing
  | brokeDown message =>
    simp only [step]
    split
    · exact follows_hangUp fun _ h => nomatch h
    · exact follows_nothing
  | replied reply =>
    -- a reply counts while the call executes or comes back
    simp only [step]
    split
    · exact follows_hear _ _
    · exact follows_hear _ _
    · exact follows_nothing
  | outOfTime =>
    simp only [step]
    split
    · exact follows_hangUp fun _ h => nomatch h
    · exact follows_nothing
  | stopped =>
    simp only [step]
    split
    · exact follows_nothing
    · exact follows_hangUp fun _ h => nomatch h

end Call

/-! ## Calls over a network -/

namespace Outbound

/-- What was ordered: the terms and the request of every call. -/
def orders (o : Outbound) : List (CallTerms × ExecuteRequest) :=
  o.workers.calls.map fun c => (c.terms, c.request)

/-- Calls over a network of faithful nodes which, but for the first of them, wait for what is about
their requests, and returned what is true. -/
structure Faithful (S : Nat → Standard) (first : Nat) (o : Outbound) : Prop where
  network : o.network.Faithful S
  first_le : first ≤ o.workers.calls.length
  waits : ∀ place ticket, first ≤ place → o.waits.get? place = some ticket →
    ∃ terms request, o.orders[place]? = some (terms, request) ∧
      o.network.Awaits S ticket terms.server request
  responses : ∀ (place : Nat) (c : Call), first ≤ place → o.workers.calls[place]? = some c →
    ∀ r, c.response? = some r → o.network.Returns S c.terms.server c.request r

/-- Calls come after others: nothing that was ordered is forgotten, and ids keep their meaning. -/
structure Later (S : Nat → Standard) (first : Nat) (o o' : Outbound) : Prop where
  faithful : o'.Faithful S first
  route_eq : o'.network.route = o.network.route
  names : ∀ place id request, o.network.Names S place id request →
    o'.network.Names S place id request
  orders : o.orders <+: o'.orders

variable {o o' o'' : Outbound} {place ticket : Nat}

theorem Later.refl (h : o.Faithful S first) : Later S first o o :=
  ⟨h, rfl, fun _ _ _ h => h, List.prefix_refl _⟩

theorem Later.trans (h : Later S first o o') (h' : Later S first o' o'') : Later S first o o'' :=
  ⟨h'.faithful, h'.route_eq.trans h.route_eq, fun place id request hnames =>
    h'.names place id request (h.names place id request hnames), h.orders.trans h'.orders⟩

/-! ### Steps -/

/-- The network goes on. -/
theorem Faithful.later_of_network (hf : o.Faithful S first) {network : Network}
    (h : Network.Later S o.network network) : Later S first o { o with network } where
  faithful := {
    network := h.faithful
    first_le := hf.first_le
    waits := by
      intro place ticket hplace hget
      obtain ⟨terms, request, horder, hawaits⟩ := hf.waits place ticket hplace hget
      exact ⟨terms, request, horder, h.awaits _ _ _ hawaits⟩
    responses := by
      intro place c hplace hc r hr place' latency hroute
      rw [h.route_eq] at hroute
      exact hf.responses place c hplace hc r hr place' latency hroute }
  route_eq := h.route_eq
  names := fun _ _ _ => h.names
  orders := List.prefix_refl _

/-- A call waits for something else that is about its request. -/
theorem Faithful.waitFor (hf : o.Faithful S first) {exchange : Nat × Network} {terms : CallTerms}
    {request : ExecuteRequest} (horder : o.orders[place]? = some (terms, request))
    (h : Network.Later S o.network exchange.2)
    (hawaits : first ≤ place → exchange.2.Awaits S exchange.1 terms.server request) :
    Later S first o (o.waitFor place exchange) := by
  have hnetwork := hf.later_of_network h
  refine ⟨{ hnetwork.faithful with waits := fun place' ticket hplace hget => ?_ },
    hnetwork.route_eq, hnetwork.names, hnetwork.orders⟩
  rw [Outbound.waitFor, Assoc.get?_put] at hget
  split at hget
  · rename_i heq
    subst heq
    obtain rfl := Option.some.inj hget
    exact ⟨terms, request, horder, hawaits hplace⟩
  · exact hnetwork.faithful.waits place' ticket hplace hget

theorem Faithful.stopWaiting (hf : o.Faithful S first) (place : Nat) :
    Later S first o (o.stopWaiting place) := by
  rw [Outbound.stopWaiting]
  split
  · rename_i t _
    have hnetwork := hf.later_of_network (hf.network.close t)
    refine ⟨{ hnetwork.faithful with waits := fun place' ticket hplace hget => ?_ },
      hnetwork.route_eq, hnetwork.names, hnetwork.orders⟩
    rw [Assoc.get?_erase] at hget
    split at hget
    · cases hget
    · exact hnetwork.faithful.waits place' ticket hplace hget
  · exact .refl hf

/-- A call changes. What it returns has to be true. -/
theorem Faithful.setCall (hf : o.Faithful S first) {c c' : Call}
    (hc : o.workers.calls[place]? = some c)
    (hterms : c'.terms = c.terms) (hrequest : c'.request = c.request)
    (hresponse : first ≤ place → ∀ r, c'.response? = some r →
      o.network.Returns S c.terms.server c.request r) :
    Later S first o
      { o with workers := { o.workers with calls := o.workers.calls.set place c' } } := by
  have horders : ({ o with workers := { o.workers with calls := o.workers.calls.set place c' } } :
      Outbound).orders = o.orders := Lists.map_set_eq hc (by rw [hterms, hrequest])
  refine ⟨⟨hf.network, ?_, fun place' ticket hplace hget => ?_,
    fun place' c'' hplace hc'' r hr => ?_⟩, rfl, fun _ _ _ h => h, ?_⟩
  · rw [List.length_set]
    exact hf.first_le
  · rw [horders]
    exact hf.waits place' ticket hplace hget
  · rw [List.getElem?_set] at hc''
    split at hc''
    · rename_i heq
      subst heq
      split at hc''
      · obtain rfl := Option.some.inj hc''
        rw [hterms, hrequest]
        exact hresponse hplace r hr
      · cases hc''
    · exact hf.responses place' c'' hplace hc'' r hr
  · exact horders.symm ▸ List.prefix_refl _

/-- What a call does, it does about its request. -/
theorem Faithful.perform (hf : o.Faithful S first) {c : Call} {action : CallAction}
    (horder : o.orders[place]? = some (c.terms, c.request))
    (hback : first ≤ place → ∀ id, action = .reconnect id → ∀ at' latency,
      o.network.route c.terms.server = .host at' latency → o.network.Names S at' id c.request) :
    Later S first o (Outbound.perform now place c o action) := by
  have hlog : Later S first o { o with log := (place, action) :: o.log } := by
    exact ⟨{ hf with }, rfl, fun _ _ _ h => h, List.prefix_refl _⟩
  cases action with
  | connect =>
    obtain ⟨hlater, hawaits⟩ := hf.network.connect c.terms.server c.request
    exact hlog.trans (hlog.faithful.waitFor horder hlater fun _ => hawaits)
  | execute =>
    obtain ⟨hlater, hawaits⟩ := hf.network.send c.terms.server c.request none
    exact hlog.trans (hlog.faithful.waitFor horder hlater fun _ =>
      hawaits fun _ _ _ _ hid => nomatch hid)
  | reconnect id =>
    obtain ⟨hlater, hawaits⟩ := hf.network.send c.terms.server c.request (some id)
    exact hlog.trans (hlog.faithful.waitFor horder hlater fun hplace => hawaits
      fun at' latency i hroute hi => Option.some.inj hi ▸ hback hplace id rfl at' latency hroute)
  | giveBack => exact hlog
  | discard => exact hlog

theorem Faithful.performAll (hf : o.Faithful S first) {c : Call} {actions : List CallAction}
    (horder : o.orders[place]? = some (c.terms, c.request))
    (hback : first ≤ place → ∀ id, .reconnect id ∈ actions → ∀ at' latency,
      o.network.route c.terms.server = .host at' latency → o.network.Names S at' id c.request) :
    Later S first o (actions.foldl (Outbound.perform now place c) o) := by
  induction actions generalizing o with
  | nil => exact .refl hf
  | cons action actions ih =>
    have hone : Later S first o (Outbound.perform now place c o action) := by
      refine hf.perform horder ?_
      rintro hplace id rfl at' latency hroute
      exact hback hplace id List.mem_cons_self at' latency hroute
    refine hone.trans (ih hone.faithful (Lists.getElem?_of_prefix hone.orders horder) ?_)
    intro hplace id hid at' latency hroute
    rw [hone.route_eq] at hroute
    exact hone.names _ _ _ (hback hplace id (List.mem_cons_of_mem _ hid) at' latency hroute)

/-- What a call hears has to be about its request; then what it does about it is, too. -/
theorem Faithful.apply (hf : o.Faithful S first) {e : CallEvent}
    (hears : first ≤ place → ∀ c, o.workers.calls[place]? = some c → c.Hears S o.network e) :
    Later S first o (o.apply now place e) := by
  rw [Outbound.apply]
  split
  · rename_i c hc
    have hfollows := c.follows_step now e
    have hheard := fun hplace => hears hplace c hc
    have hstop := hf.stopWaiting place
    have hworkers : (o.stopWaiting place).workers = o.workers := by
      rw [Outbound.stopWaiting]
      split <;> rfl
    -- the call stops to wait and changes, and then it acts
    have hset : Later S first o { o.stopWaiting place with
        workers := { o.workers with calls := o.workers.calls.set place (c.step now e).1 } } := by
      rw [← hworkers] at hc ⊢
      refine hstop.trans (hstop.faithful.setCall hc hfollows.terms_eq hfollows.request_eq ?_)
      intro hplace r hr at' latency hroute
      rcases hfollows.response r hr with hr | rfl
      · exact hstop.faithful.responses place c hplace hc r hr at' latency hroute
      · rw [hstop.route_eq] at hroute
        exact hheard hplace at' latency hroute
    have horder : o.orders[place]? = some (c.terms, c.request) := by
      rw [orders, List.getElem?_map, hc]
      rfl
    have hstep : o.workers.step now place e =
        ({ o.workers with calls := o.workers.calls.set place (c.step now e).1 },
          (c.step now e).2) := by
      rw [Workers.step, hc]
    rw [hstep]
    refine hset.trans (hset.faithful.performAll (Lists.getElem?_of_prefix hset.orders horder) ?_)
    intro hplace id hid at' latency hroute
    -- an id with which the call comes back is the one that it has heard
    obtain rfl := hfollows.comesBack id hid
    rw [hset.route_eq] at hroute
    exact hset.names _ _ _ (hheard hplace at' latency hroute)
  · exact .refl hf

/-- What a node replies is about the request that it serves. -/
theorem hears_reply {c : Call} {at' t latency : Nat} {reply : CommandReply}
    (hf : o.network.Faithful S)
    (hroute : o.network.route c.terms.server = .host at' latency)
    (hserves : o.network.Serves S at' t c.request)
    (hreply : (o.network.hosts[at']?).bind (·.manager.reply? t) = some reply) :
    c.Hears S o.network (.replied (.answers reply.toResult)) := by
  obtain ⟨host, hhost, hserves⟩ := hserves
  rw [hhost] at hreply
  obtain ⟨hcomplete, hrunning⟩ := (hf at' host hhost).manager.reply hserves hreply
  cases reply with
  | complete r =>
    intro place latency' hroute'
    obtain ⟨rfl, -⟩ := Route.host.inj (hroute.symm.trans hroute')
    exact hcomplete r rfl
  | running id =>
    intro place latency' hroute'
    obtain ⟨rfl, -⟩ := Route.host.inj (hroute.symm.trans hroute')
    exact ⟨host, hhost, hrunning id rfl⟩
  | failed message => trivial

/-- What has come for a call is about its request. -/
theorem Faithful.hears (hf : o.Faithful S first) (hplace : first ≤ place) {e : CallEvent}
    (he : o.arrival? place = some e) {c : Call} (hc : o.workers.calls[place]? = some c) :
    c.Hears S o.network e := by
  obtain ⟨t, ht, he⟩ := Option.bind_eq_some_iff.1 he
  obtain ⟨terms, request, horder, x, hx, habout⟩ := hf.waits place t hplace ht
  rw [orders, List.getElem?_map, hc, Option.map_some, Option.some.injEq, Prod.mk.injEq] at horder
  obtain ⟨rfl, rfl⟩ := horder
  rw [Network.connected?, Network.reply?, hx] at he
  cases x with
  | opened outcome =>
    obtain rfl := Option.some.inj he
    trivial
  | replied reply =>
    -- a remote may reply whatever it likes
    obtain rfl := Option.some.inj he
    rcases reply with ((id | message) | r) | message
    · exact fun at' latency hroute => absurd hroute (habout at' latency)
    · trivial
    · exact fun at' latency hroute => absurd hroute (habout at' latency)
    · trivial
  | served at' t =>
    obtain ⟨⟨latency, hroute⟩, hserves⟩ := habout
    simp only [Option.map_none, Option.none_or, Option.map_map, Option.map_eq_some_iff] at he
    obtain ⟨reply, hreply, rfl⟩ := he
    exact hears_reply hf.network hroute hserves hreply
  | opening due outcome => cases he
  | thinking due target reply => cases he
  | travelling due at' sent id => cases he
  | closed => cases he

theorem Faithful.hearOne (hf : o.Faithful S first) (place : Nat) :
    Later S first o (o.hearOne now place) :=
  keeps_hearOne (fun _ he => hf.apply fun hplace _ hc => hf.hears hplace he hc)
    (hf.apply fun _ _ _ => trivial) (.refl hf)

/-- A turn of all calls forgets nothing that was ordered. -/
theorem Faithful.fire (hf : o.Faithful S first) : Later S first o (o.fire now) := by
  have hstop : Later S first o (o.stopCalls now) :=
    keeps_stopCalls (fun _ _ h => h.trans (keeps_stopTurn
      (fun _ => h.faithful.apply fun _ _ _ => trivial) (.refl h.faithful))) (.refl hf)
  have hnetwork : Later S first o
      { o.stopCalls now with network := (o.stopCalls now).network.fire now } :=
    hstop.trans (hstop.faithful.later_of_network hstop.faithful.network.fire)
  have hhear : Later S first o
      (hear now { o.stopCalls now with network := (o.stopCalls now).network.fire now }) :=
    keeps_hear (fun _ place h => h.trans (h.faithful.hearOne place)) hnetwork
  exact keeps_takeUp (fun _ _ _ h => h.trans (h.faithful.apply fun _ _ _ => trivial)) _ hhear

theorem Faithful.submit (hf : o.Faithful S first) (terms : CallTerms) (request : ExecuteRequest) :
    Later S first o (o.submit (.new terms request)).2 ∧
      (o.submit (.new terms request)).2.orders[(o.submit (.new terms request)).1]? =
        some (terms, request) := by
  have horders : (o.submit (.new terms request)).2.orders = o.orders ++ [(terms, request)] := by
    rw [orders, Outbound.submit, Workers.submit, List.map_append]
    rfl
  refine ⟨⟨⟨hf.network, ?_, fun place ticket hplace hget => ?_,
    fun place c hplace hc r hr => ?_⟩, rfl, fun _ _ _ h => h, ?_⟩, ?_⟩
  · have hsubmit : o.workers.calls.length ≤
        (o.submit (.new terms request)).2.workers.calls.length := by
      simp [Outbound.submit, Workers.submit]
    exact Nat.le_trans hf.first_le hsubmit
  · obtain ⟨terms', request', horder, hawaits⟩ := hf.waits place ticket hplace hget
    refine ⟨terms', request', ?_, hawaits⟩
    rw [horders]
    exact Lists.getElem?_of_prefix (List.prefix_append _ _) horder
  · rcases Lists.getElem?_concat hc with hc | ⟨-, rfl⟩
    · exact hf.responses place c hplace hc r hr
    · cases hr
  · rw [horders]
    exact List.prefix_append _ _
  · rw [horders, Outbound.submit, ← List.length_map (f := fun c : Call => (c.terms, c.request))]
    exact List.getElem?_concat_length

/-- A stop forgets nothing that was ordered. -/
theorem Faithful.requestStop (hf : o.Faithful S first) (place : Nat) :
    Later S first o (o.requestStop place) := by
  cases hc : o.workers.calls[place]? with
  | none =>
    -- there is no such call
    have hsame : o.requestStop place = o := by
      rw [Outbound.requestStop, Workers.requestStop, List.modify_eq_self]
      exact List.getElem?_eq_none_iff.1 hc
    rw [hsame]
    exact .refl hf
  | some c =>
    have hset : o.requestStop place = { o with workers :=
        { o.workers with calls := o.workers.calls.set place c.requestStop } } := by
      rw [Outbound.requestStop, Workers.requestStop, List.modify_eq_set_getElem?, hc]
      rfl
    have hstop : c.requestStop.terms = c.terms ∧ c.requestStop.request = c.request ∧
        c.requestStop.response? = c.response? := by
      rw [Call.requestStop]
      split <;> exact ⟨rfl, rfl, rfl⟩
    obtain ⟨hterms, hrequest, hresponse⟩ := hstop
    rw [hset]
    refine hf.setCall hc hterms hrequest fun hplace r hr => ?_
    rw [hresponse] at hr
    exact hf.responses place c hplace hc r hr

/-- A response that a call to a node returned is an outcome of that node for what was ordered. -/
theorem Faithful.returns (hf : o.Faithful S first) (hplace : first ≤ place) {r : Response}
    (hresult : o.workers.result? place = some (.ok r)) {terms : CallTerms}
    {request : ExecuteRequest} (horder : o.orders[place]? = some (terms, request)) :
    o.network.Returns S terms.server request r := by
  obtain ⟨c, hc, hresult⟩ := Option.bind_eq_some_iff.1 hresult
  obtain ⟨how, hhow, hresult⟩ := Option.bind_eq_some_iff.1 hresult
  rw [orders, List.getElem?_map, hc, Option.map_some, Option.some.injEq, Prod.mk.injEq] at horder
  obtain ⟨rfl, rfl⟩ := horder
  refine hf.responses place c hplace hc r ?_
  rw [Call.end?] at hhow
  split at hhow
  · rename_i how' hstage
    obtain rfl : how' = how := Option.some.inj hhow
    have hr := Option.some.inj hresult
    cases how' with
    | returned result =>
      obtain rfl : result = .ok r := hr
      rw [Call.response?, hstage]
    | panicked message => cases hr
    | aborted => cases hr
  · cases hhow

end Outbound

end ScatterSearch
