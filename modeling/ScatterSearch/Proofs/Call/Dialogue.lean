import ScatterSearch.Proofs.Call.Lone
import ScatterSearch.Proofs.Execution.Errand

/-!
# One call and one node

A call, the node it talks to, and the network between them, over which messages take no time. All
exchanges but the last are closed. So a state is given by the stage of the call, the last exchange,
and the state of the node:

* `Visit.line` is the state while the call waits for the last exchange;
* `Visit.apart` is the state while it waits for none: before a worker took it up and after its end.

For each kind of the last exchange there is an equation that says what happens at an instant, here
(`fire_queued`, `fire_connecting`, `fire_apart`) or where the calls are followed to their ends.
-/

namespace ScatterSearch

/-- An errand, and the call that somebody else runs it by. -/
structure Visit extends Errand where
  /-- how long the call keeps coming back; `none` is for ever -/
  budget : Option Nat
  /-- how many calls may run at once -/
  workers : Nat
  /-- how servers without a route behave -/
  elsewhere : Server → Remote

namespace Visit

variable (v : Visit)

/-- Whom the call talks to, and for how long. -/
def terms : CallTerms := ⟨v.server, v.budget⟩

/-- The call at a stage. -/
def call (stage : Stage) : Call := ⟨v.terms, v.request, stage, false⟩

/-- The network with the node in a state. -/
def net (exchanges : List Exchange) (m : ExecutionManager) : Network :=
  ⟨[⟨m, v.layout, v.index⟩], [(v.server, .host 0 0)], v.elsewhere, [], exchanges⟩

/-- Exchanges that nobody waits for any more. -/
def closed (n : Nat) : List Exchange := List.replicate n .closed

/-- The call waits for an exchange, before which there were `n` others. -/
def line (stage : Stage) (n : Nat) (exchange : Exchange) (m : ExecutionManager)
    (log : List (Nat × CallAction)) : Outbound :=
  ⟨⟨max v.workers 1, [v.call stage]⟩, v.net (closed n ++ [exchange]) m, [(0, n)], log⟩

/-- The call waits for no exchange. -/
def apart (stage : Stage) (n : Nat) (m : ExecutionManager) (log : List (Nat × CallAction)) :
    Outbound :=
  ⟨⟨max v.workers 1, [v.call stage]⟩, v.net (closed n) m, [], log⟩

/-- The call was submitted. -/
def submitted : Outbound :=
  ((Outbound.new v.workers
      (.new [⟨v.idle, v.layout, v.index⟩] [(v.server, .host 0 0)] v.elsewhere)).submit
    (Call.new v.terms v.request)).2

variable {v} {stage : Stage} {n now : Nat} {exchange : Exchange} {m : ExecutionManager}
  {log : List (Nat × CallAction)}

/-- At first the call is queued, and nothing has been asked. -/
theorem submitted_eq : v.submitted = v.apart .queued 0 v.idle [] := rfl

/-! ## The network -/

/-- What lies behind the last exchange is closed. -/
theorem getElem?_closed {i : Nat} : (closed n)[i]? = if i < n then some .closed else none :=
  List.getElem?_replicate

theorem length_closed : (closed n).length = n := List.length_replicate

/-- Nothing is due of what is closed. -/
theorem due?_closed : (closed n).filterMap Exchange.due? = [] :=
  List.filterMap_eq_nil_iff.2 fun x hx => by
    rw [(List.mem_replicate.1 hx).2]
    rfl

theorem getElem?_last : (closed n ++ [exchange])[n]? = some exchange := by
  rw [List.getElem?_append_right (Nat.le_of_eq length_closed), length_closed, Nat.sub_self]
  rfl

theorem set_last {other : Exchange} :
    (closed n ++ [exchange]).set n other = closed n ++ [other] := by
  rw [List.set_append_right _ _ (Nat.le_of_eq length_closed), length_closed, Nat.sub_self]
  rfl

/-- To close the last exchange leaves closed ones. -/
theorem close_last : (closed n ++ [exchange]).set n .closed = closed (n + 1) := by
  rw [set_last, closed, closed, List.replicate_succ']

/-- A closed exchange has no turn. -/
theorem fireExchange_closed {net : Network} {i : Nat} (h : net.exchanges[i]? = some .closed) :
    net.fireExchange now i = net := by
  rw [Network.fireExchange, h]

theorem foldl_fireExchange_closed {net : Network} (k : Nat)
    (h : ∀ i, i < k → net.exchanges[i]? = some .closed) :
    (List.range k).foldl (Network.fireExchange now) net = net := by
  induction k with
  | zero => rfl
  | succ k ih =>
    rw [List.range_succ, List.foldl_append, ih fun i hi => h i (Nat.lt_succ_of_lt hi)]
    exact fireExchange_closed (h k (Nat.lt_succ_self k))

theorem fire_net_closed (hserver : m.server = v.server) :
    (v.net (closed n) m).fire now = v.net (closed n) (m.fire (v.view now) now) := by
  have hfold : (List.range (v.net (closed n) m).exchanges.length).foldl (Network.fireExchange now)
      (v.net (closed n) m) = v.net (closed n) m := by
    refine foldl_fireExchange_closed _ fun i hi => ?_
    rw [show (v.net (closed n) m).exchanges = closed n from rfl, length_closed] at hi
    exact getElem?_closed.trans (if_pos hi)
  rw [Network.fire, hfold]
  simp only [net, List.map_cons, List.map_nil, Host.fire, Host.view, Host.server, hserver]
  rfl

/-- Only the last exchange can act. -/
theorem fire_net_last :
    (v.net (closed n ++ [exchange]) m).fire now =
      { (v.net (closed n ++ [exchange]) m).fireExchange now n with
        hosts := ((v.net (closed n ++ [exchange]) m).fireExchange now n).hosts.map
          (Host.fire now) } := by
  have hlen : (v.net (closed n ++ [exchange]) m).exchanges.length = n + 1 := by
    simp [net, length_closed]
  rw [Network.fire, hlen, List.range_succ, List.foldl_append, foldl_fireExchange_closed]
  · rfl
  · intro i hi
    rw [show (v.net (closed n ++ [exchange]) m).exchanges = closed n ++ [exchange] from rfl,
      List.getElem?_append_left (by rw [length_closed]; exact hi), getElem?_closed, if_pos hi]

/-! ## Hearing -/

/-- Nobody told the call to stop. -/
theorem stopCalls_apart : (v.apart stage n m log).stopCalls now = v.apart stage n m log := rfl

/-- There is nothing for workers to take up. -/
theorem takeUp_line (h : (v.call stage).isQueued = false) (fuel : Nat) :
    (v.line stage n exchange m log).takeUp now fuel = v.line stage n exchange m log :=
  Outbound.takeUp_lone h fuel

/-- A call that is not queued is not taken up. -/
theorem takeUp_apart (h : (v.call stage).isQueued = false) (fuel : Nat) :
    (v.apart stage n m log).takeUp now fuel = v.apart stage n m log :=
  Outbound.takeUp_lone h fuel

/-- The state after a call did one thing and waits for the next exchange. -/
theorem apply_line {e : CallEvent} {stage' : Stage} {actions : List CallAction}
    (h : (v.call stage).step now e = (v.call stage', actions)) :
    (v.line stage n exchange m log).apply now 0 e =
      actions.foldl (Outbound.perform now 0 (v.call stage)) (v.apart stage' (n + 1) m log) := by
  have hclose : (v.net (closed n ++ [exchange]) m).close n = v.net (closed (n + 1)) m :=
    congrArg (v.net · m) close_last
  refine (Outbound.apply_lone h).trans ?_
  rw [hclose]
  rfl

/-! ## What a call does -/

/-- The server is the only host of the network. -/
theorem route_net (exchanges : List Exchange) : (v.net exchanges m).route v.server = .host 0 0 := by
  simp [Network.route, net, Assoc.get?]

/-- To connect opens an exchange that is due at once. -/
theorem perform_connect {stage' : Stage} :
    (v.apart stage n m log).perform now 0 (v.call stage') .connect =
      v.line stage n (.opening now (.ok ())) m ((0, .connect) :: log) := by
  have hconnect : (v.net (closed n) m).connect now v.server =
      (n, v.net (closed n ++ [Exchange.opening now (.ok ())]) m) := by
    rw [Network.connect, route_net]
    exact congrArg (·, _) length_closed
  change Outbound.waitFor _ 0 ((v.net (closed n) m).connect now v.server) = _
  rw [hconnect]
  rfl

/-- A request travels from now on. -/
theorem send_net (id : Option ExecutionId) :
    (v.net (closed n) m).send now v.server v.request id =
      (n, v.net (closed n ++ [Exchange.travelling now 0 v.request id]) m) := by
  rw [Network.send, route_net]
  exact congrArg (·, _) length_closed

/-- The first request travels without an id. -/
theorem perform_execute {stage' : Stage} :
    (v.apart stage n m log).perform now 0 (v.call stage') .execute =
      v.line stage n (.travelling now 0 v.request none) m ((0, .execute) :: log) := by
  change Outbound.waitFor _ 0 ((v.net (closed n) m).send now v.server v.request none) = _
  rw [send_net]
  rfl

/-- A later one travels with the id. -/
theorem perform_reconnect {stage' : Stage} {id : ExecutionId} :
    (v.apart stage n m log).perform now 0 (v.call stage') (.reconnect id) =
      v.line stage n (.travelling now 0 v.request (some id)) m ((0, .reconnect id) :: log) := by
  change Outbound.waitFor _ 0 ((v.net (closed n) m).send now v.server v.request (some id)) = _
  rw [send_net]
  rfl

/-- To let go of the connection asks nothing of the network. -/
theorem perform_release {stage' : Stage} (how : CallEnd) :
    (v.apart stage n m log).perform now 0 (v.call stage') (Call.release how) =
      v.apart stage n m ((0, Call.release how) :: log) := by
  rcases how with (_ | _) | _ | _ <;> rfl

/-- The stages at which the call is in conversation with the node since an instant. -/
inductive Converses (since : Nat) : Stage → Prop
  | executing : Converses since (.executing since)
  | reconnecting (id : ExecutionId) : Converses since (.reconnecting since id)

/-- A call in conversation is not queued. -/
theorem Converses.isQueued {since : Nat} (h : Converses since stage) :
    (v.call stage).isQueued = false := by
  cases h <;> rfl

theorem Converses.holdsConnection {since : Nat} (h : Converses since stage) :
    (v.call stage).holdsConnection = true := by
  cases h <;> rfl

/-- What the call does about an answer. -/
theorem apply_answer {since : Nat} (h : Converses since stage)
    (answer : Except CallError Response) :
    (v.line stage n exchange m log).apply now 0 (.replied (.answers answer)) =
      match v.terms.judge (now - since) answer with
      | .settled result => v.apart (.ended (.returned result)) (n + 1) m
          ((0, Call.release (.returned result)) :: log)
      | .comeBack id => v.line (.reconnecting since id) (n + 1)
          (.travelling now 0 v.request (some id)) m ((0, .reconnect id) :: log) := by
  have hstep : (v.call stage).step now (.replied (.answers answer)) =
      (v.call stage).hear now since (.answers answer) := by
    cases h <;> rfl
  rw [Call.hear] at hstep
  cases hjudge : v.terms.judge (now - since) answer with
  | settled result =>
    rw [show (v.call stage).terms = v.terms from rfl, hjudge] at hstep
    rw [apply_line (hstep.trans (Call.hangUp_of_holdsConnection h.holdsConnection _))]
    exact perform_release _
  | comeBack id =>
    rw [show (v.call stage).terms = v.terms from rfl, hjudge] at hstep
    rw [apply_line hstep]
    exact perform_reconnect

/-! ## What the call hears -/

/-- What happens at an instant: the network acts, and the call hears what has come. -/
theorem fire_line {exchange' : Exchange} {m' : ExecutionManager} {o : Outbound}
    (hnet : (v.net (closed n ++ [exchange]) m).fire now = v.net (closed n ++ [exchange']) m')
    (hhear : (v.line stage n exchange' m' log).hearOne now 0 = o)
    (hidle : ∀ fuel, o.takeUp now fuel = o) : (v.line stage n exchange m log).fire now = o := by
  refine (Outbound.fire_lone rfl).trans ?_
  rw [hnet, show (Outbound.lone v.workers (v.call stage) (v.net (closed n ++ [exchange']) m')
    [(0, n)] log).hearOne now 0 = o from hhear, hidle]

/-- A connection that was opened is there. -/
theorem arrival?_opened {outcome : Except ClusterError Unit} :
    (v.line stage n (.opened outcome) m log).arrival? 0 = some (.connected outcome) := by
  have hconnected :
      (v.net (closed n ++ [Exchange.opened outcome]) m).connected? n = some outcome := by
    rw [Network.connected?,
      show (v.net (closed n ++ [Exchange.opened outcome]) m).exchanges[n]? = _ from
      getElem?_last]
  change Option.or
    (Option.map _ ((v.net (closed n ++ [Exchange.opened outcome]) m).connected? n)) _ = _
  rw [hconnected]
  rfl

/-- A request that the host has taken in is answered when the host has a reply. -/
theorem arrival?_served {k : Nat} :
    (v.line stage n (.served 0 k) m log).arrival? 0 =
      (m.reply? k).map fun r => .replied (.answers r.toResult) := by
  have hlast : (v.net (closed n ++ [Exchange.served 0 k]) m).exchanges[n]? = some (.served 0 k) :=
    getElem?_last
  have hconnected : (v.net (closed n ++ [Exchange.served 0 k]) m).connected? n = none := by
    rw [Network.connected?, hlast]
  have hreply : (v.net (closed n ++ [Exchange.served 0 k]) m).reply? n =
      (m.reply? k).map fun r => .answers r.toResult := by
    rw [Network.reply?, hlast]
    rfl
  change Option.or (Option.map _ ((v.net (closed n ++ [Exchange.served 0 k]) m).connected? n))
    (Option.map _ ((v.net (closed n ++ [Exchange.served 0 k]) m).reply? n)) = _
  rw [hconnected, hreply]
  cases m.reply? k <;> rfl

/-- The request that came last has the reply that it was given. -/
theorem reply?_busy {e : Execution} {requests : List Pending} {deadline : Nat}
    {reply : Option CommandReply} :
    (v.busy e (requests ++ [⟨some 0, deadline, reply⟩])).reply? requests.length = reply := by
  rw [ExecutionManager.reply?]
  simp [Errand.busy]

/-- Nothing has come, and it is not time to give up. -/
theorem hearOne_nothing (harrival : (v.line stage n exchange m log).arrival? 0 = none)
    (hdeadline : ∀ d, (v.call stage).deadline = some d → now < d) :
    (v.line stage n exchange m log).hearOne now 0 = v.line stage n exchange m log :=
  Outbound.hearOne_nothing harrival hdeadline

/-- Nothing has come, and it is time to give up. -/
theorem hearOne_outOfTime {since b : Nat} {id : ExecutionId}
    (harrival : (v.line (.reconnecting since id) n exchange m log).arrival? 0 = none)
    (hbudget : v.budget = some b) (htime : since + b ≤ now) :
    (v.line (.reconnecting since id) n exchange m log).hearOne now 0 =
      v.apart (.ended (.returned (.error (v.terms.gaveUp b id)))) (n + 1) m
        ((0, .discard) :: log) := by
  have hdeadline : (v.call (.reconnecting since id)).deadline = some (since + b) := by
    change Option.map _ v.budget = _
    rw [hbudget]
    rfl
  have hstep : (v.call (.reconnecting since id)).step now .outOfTime =
      (v.call (.ended (.returned (.error (v.terms.gaveUp b id)))), [.discard]) := by
    have hterms : (v.call (.reconnecting since id)).terms.budget = some b := hbudget
    rw [Call.step, hterms]
    rfl
  exact (Outbound.hearOne_outOfTime harrival hdeadline htime).trans (apply_line hstep)

/-- The call hears what is there. -/
theorem hearOne_some {e : CallEvent}
    (harrival : (v.line stage n exchange m log).arrival? 0 = some e) :
    (v.line stage n exchange m log).hearOne now 0 =
      (v.line stage n exchange m log).apply now 0 e := Outbound.hearOne_some harrival

/-! ## Acting -/

/-- There is a free worker. -/
theorem next?_queued : (v.apart .queued n m log).workers.next? = some 0 :=
  Outbound.next?_queued rfl rfl

/-- At its first turn the call is taken up, and connects. -/
theorem fire_queued :
    (v.apart .queued 0 v.idle []).fire now =
      v.line .connecting 0 (.opening now (.ok ())) v.idle [(0, .connect)] := by
  have hfire : (v.apart .queued 0 v.idle []).network.fire now = v.net (closed 0) v.idle :=
    fire_net_closed rfl
  rw [Outbound.fire, stopCalls_apart]
  simp only [hfire]
  change (v.apart .queued 0 v.idle []).takeUp now 1 = _
  rw [Outbound.takeUp, next?_queued]
  change (v.apart .connecting 0 v.idle []).perform now 0 (v.call .queued) .connect = _
  exact perform_connect

/-- When the connection is there, the first request travels. -/
theorem fire_connecting {due : Nat} (hdue : due ≤ now) :
    (v.line .connecting n (.opening due (.ok ())) v.idle log).fire now =
      v.line (.executing now) (n + 1) (.travelling now 0 v.request none) v.idle
        ((0, .execute) :: log) := by
  have hopened : (v.net (closed n ++ [Exchange.opening due (.ok ())]) v.idle).fire now =
      v.net (closed n ++ [Exchange.opened (.ok ())]) v.idle := by
    rw [fire_net_last, Network.fireExchange,
      show (v.net (closed n ++ [Exchange.opening due (.ok ())]) v.idle).exchanges[n]? = _ from
        getElem?_last]
    simp only [if_pos hdue, net, set_last]
    rfl
  refine fire_line hopened ?_ (takeUp_line rfl)
  rw [hearOne_some arrival?_opened, apply_line rfl]
  exact perform_execute

/-- What one plain call of the command would return. -/
def outcome (v : Visit) : Except ClusterError Response :=
  match v.result with
  | .ok response => .ok response
  | .error message => .error (.remoteCall v.server.name message)

/-- The result of the execution settles the call. -/
theorem judge_ofResult (elapsed : Nat) :
    v.terms.judge elapsed (CommandReply.ofResult v.result).toResult = .settled v.outcome := by
  rw [outcome]
  cases v.result <;> rfl

/-- The call is told the result, and that is its end. -/
theorem hear_result {since k : Nat} (h : Converses since stage)
    (hreply : m.reply? k = some (.ofResult v.result)) :
    (v.line stage n (.served 0 k) m log).hearOne now 0 =
      v.apart (.ended (.returned v.outcome)) (n + 1) m
        ((0, Call.release (.returned v.outcome)) :: log) := by
  have harrival : (v.line stage n (.served 0 k) m log).arrival? 0 =
      some (.replied (.answers (CommandReply.ofResult v.result).toResult)) := by
    rw [arrival?_served, hreply]
    rfl
  rw [hearOne_some harrival, apply_answer h, judge_ofResult]

/-- The host says that it is not done, by the id. -/
theorem arrival?_running {k : Nat} (hreply : m.reply? k = some (.running v.id)) :
    (v.line stage n (.served 0 k) m log).arrival? 0 =
      some (.replied (.answers (.error (.stillRunning v.id)))) := by
  rw [arrival?_served, hreply]
  rfl

/-- The call is told that the work goes on, and its time is up. -/
theorem hear_running_late {since k b : Nat} (h : Converses since stage)
    (hreply : m.reply? k = some (.running v.id)) (hbudget : v.budget = some b)
    (hb : b ≤ now - since) :
    (v.line stage n (.served 0 k) m log).hearOne now 0 =
      v.apart (.ended (.returned (.error (v.terms.gaveUp b v.id)))) (n + 1) m
        ((0, .discard) :: log) := by
  have hjudge : v.terms.judge (now - since) (.error (.stillRunning v.id)) =
      .settled (.error (v.terms.gaveUp b v.id)) := by
    rw [CallTerms.judge, show v.terms.budget = some b from hbudget]
    exact if_pos hb
  rw [hearOne_some (arrival?_running hreply), apply_answer h, hjudge]
  rfl

/-- The call is told that the work goes on, and comes back. -/
theorem hear_running {since k : Nat} (h : Converses since stage)
    (hreply : m.reply? k = some (.running v.id)) (hbudget : ∀ b ∈ v.budget, now - since < b) :
    (v.line stage n (.served 0 k) m log).hearOne now 0 =
      v.line (.reconnecting since v.id) (n + 1) (.travelling now 0 v.request (some v.id)) m
        ((0, .reconnect v.id) :: log) := by
  have hjudge : v.terms.judge (now - since) (.error (.stillRunning v.id)) = .comeBack v.id := by
    rw [CallTerms.judge]
    cases hb : v.terms.budget with
    | none => rfl
    | some b => exact if_neg (Nat.not_le_of_lt (hbudget b hb))
  rw [hearOne_some (arrival?_running hreply), apply_answer h, hjudge]

/-- The call hears nothing. -/
theorem hear_nothing {since k : Nat} (h : Converses since stage) (hreply : m.reply? k = none)
    (hbudget : stage = .executing since ∨ ∀ b ∈ v.budget, now < since + b) :
    (v.line stage n (.served 0 k) m log).hearOne now 0 =
      v.line stage n (.served 0 k) m log := by
  refine hearOne_nothing (by rw [arrival?_served, hreply]; rfl) fun d hd => ?_
  rcases h with _ | id
  · cases hd
  · obtain ⟨b, hb, rfl⟩ := Option.map_eq_some_iff.1 hd
    rcases hbudget with hstage | hbudget
    · cases hstage
    · exact hbudget b hb

/-! ## The node acts and the call hears of it -/

/-- While a request waits at the host, the turn of the network is that of its host. -/
theorem fire_net_served {k : Nat} {m' : ExecutionManager} (hserver : m.server = v.server)
    (hm : m.fire (v.view now) now = m') :
    (v.net (closed n ++ [Exchange.served 0 k]) m).fire now =
      v.net (closed n ++ [Exchange.served 0 k]) m' := by
  rw [← hm, fire_net_last, Network.fireExchange,
    show (v.net (closed n ++ [Exchange.served 0 k]) m).exchanges[n]? = _ from getElem?_last]
  simp only [net, List.map_cons, List.map_nil, Host.fire, Host.view, Host.server, hserver]
  rfl

/-- A request arrives at the node at once, and the node acts. -/
theorem fire_net_travelling (id : Option ExecutionId) {due k : Nat} {m' m'' : ExecutionManager}
    (hdue : due ≤ now)
    (hm : (match id with
      | none => m.execute now v.request
      | some id => m.reconnect now id) = (k, m')) (hserver : m'.server = v.server)
    (hm' : m'.fire (v.view now) now = m'') :
    (v.net (closed n ++ [Exchange.travelling due 0 v.request id]) m).fire now =
      v.net (closed n ++ [Exchange.served 0 k]) m'' := by
  have hdeliver :
      (v.net (closed n ++ [Exchange.travelling due 0 v.request id]) m).fireExchange now n =
        v.net (closed n ++ [Exchange.served 0 k]) m' := by
    rw [Network.fireExchange,
      show (v.net (closed n ++ [Exchange.travelling due 0 v.request id]) m).exchanges[n]? = _ from
        getElem?_last]
    cases id <;>
      simp only [if_pos hdue, Network.deliver, net, List.getElem?_cons_zero, hm, set_last,
        List.set_cons_zero]
  rw [← hm', fire_net_last, hdeliver]
  simp only [net, List.map_cons, List.map_nil, Host.fire, Host.view, Host.server, hserver]
  rfl

/-- After the end of the call only the node acts. -/
theorem fire_apart {how : CallEnd} (hserver : m.server = v.server) :
    (v.apart (.ended how) n m log).fire now =
      v.apart (.ended how) n (m.fire (v.view now) now) log := by
  have hfire : (v.apart (.ended how) n m log).network.fire now =
      v.net (closed n) (m.fire (v.view now) now) := fire_net_closed hserver
  rw [Outbound.fire, stopCalls_apart]
  simp only [hfire]
  change (v.apart (.ended how) n (m.fire (v.view now) now) log).takeUp now 1 = _
  exact takeUp_apart rfl 1

end Visit

end ScatterSearch
