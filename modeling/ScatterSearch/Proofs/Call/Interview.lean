import ScatterSearch.Proofs.Call.Retrieval
import ScatterSearch.Proofs.Call.Lone
import ScatterSearch.Proofs.Call.WaitLoop

/-!
# Coming back to a remote

A call and a remote that gives the answers of a `Retrieval`: the call has a connection opened, asks
the remote to execute, and comes back for as long as it has to. Whatever happens in a run, the call
and the remote are in one of few states (`Stands`), and the run leads from one to the next until the
talk ends as `Retrieval.Ends` says (`Stands.returnsAt`).

`reconnect_loop` says what a call asks its remote for, what it returns, and when.
-/

namespace ScatterSearch

/-- Whether something is asked of the remote. -/
def CallAction.isRequest : CallAction → Bool
  | .execute => true
  | .reconnect _ => true
  | _ => false

/-- What the only call asked its remote for, in order. -/
def Outbound.asked (o : Outbound) : List CallAction :=
  (o.log.reverse.map (·.2)).filter (·.isRequest)

/-- A call on its way to a remote that gives some answers. -/
structure Interview extends Retrieval where
  request : ExecuteRequest
  /-- how long it takes to connect to the remote -/
  connectDelay : Nat
  /-- when the call is submitted -/
  start : Nat
  /-- how many calls may run at once -/
  workers : Nat
  /-- how servers without a route behave -/
  elsewhere : Server → Remote

namespace Interview

open Visit (closed length_closed due?_closed getElem?_closed getElem?_last set_last close_last
  foldl_fireExchange_closed Runs ReturnsAt)

/-- An answer, whatever was asked. -/
def replyOf (a : Answer) : RemoteReply := ⟨a.delay, fun _ => .answers a.answer⟩

variable (v : Interview)

/-- The remote. -/
def remote : Remote where
  connectDelay := v.connectDelay
  connectError := none
  execute _ := replyOf (v.answers 0)
  reconnect k := replyOf (v.answers (k + 1))

/-- When the call asks the remote to execute. -/
def began : Nat := v.start + v.connectDelay

/-- The call at a stage. -/
def call (stage : Stage) : Call := ⟨v.terms, v.request, stage, false⟩

/-- The network, by what the remote was asked. -/
def net (contacts : Assoc Server Contact) (exchanges : List Exchange) : Network :=
  ⟨[], [(v.terms.server, .remote v.remote)], v.elsewhere, contacts, exchanges⟩

/-- What the remote was asked when the call came back so many times. -/
def contacts (n : Nat) : Assoc Server Contact := [(v.terms.server, ⟨1, n, v.request⟩)]

/-- The call waits for an exchange, before which there were `n` others. -/
def line (stage : Stage) (contacts : Assoc Server Contact) (n : Nat) (exchange : Exchange)
    (log : List (Nat × CallAction)) : Outbound :=
  .lone v.workers (v.call stage) (v.net contacts (closed n ++ [exchange])) [(0, n)] log

/-- The call waits for no exchange. -/
def apart (stage : Stage) (contacts : Assoc Server Contact) (n : Nat)
    (log : List (Nat × CallAction)) : Outbound :=
  .lone v.workers (v.call stage) (v.net contacts (closed n)) [] log

/-- The call was submitted. -/
def submitted : Outbound :=
  ((Outbound.new v.workers (.new [] [(v.terms.server, .remote v.remote)] v.elsewhere)).submit
    (Call.new v.terms v.request)).2

/-- The call waits for its connection. -/
def connecting : Outbound :=
  v.line .connecting [] 0 (.opening v.began (.ok ())) [(0, .connect)]

/-- The stage of the call that came back so many times. -/
def stage : Nat → Stage
  | 0 => .executing v.began
  | n + 1 => .reconnecting v.began (v.id n)

/-- What the call did until it came back so many times. -/
def log : Nat → List (Nat × CallAction)
  | 0 => [(0, .execute), (0, .connect)]
  | n + 1 => (0, .reconnect (v.id n)) :: log n

/-- The exchange in which an answer is due. -/
def awaited (n : Nat) : Exchange :=
  .thinking (v.began + v.arrival n) v.terms.server (replyOf (v.answers n)).reply

/-- The call came back so many times, and waits for the next answer. -/
def asking (n : Nat) : Outbound :=
  v.line (v.stage n) (v.contacts n) (n + 1) (v.awaited n) (v.log n)

/-- The call came back so many times, and has returned. -/
def returned (n : Nat) (result : Except ClusterError Response) : Outbound :=
  v.apart (.ended (.returned result)) (v.contacts n) (n + 2)
    ((0, Call.release (.returned result)) :: v.log n)

variable {v} {stage stage' : Stage} {contacts : Assoc Server Contact} {n now : Nat}
  {exchange exchange' : Exchange} {log : List (Nat × CallAction)}
  {result : Except ClusterError Response}

/-- At first the call is queued, and nothing has been asked. -/
theorem submitted_eq : v.submitted = v.apart .queued [] 0 [] := rfl

/-! ## The network -/

theorem route_net (exchanges : List Exchange) :
    (v.net contacts exchanges).route v.terms.server = .remote v.remote := by
  simp [Network.route, net, Assoc.get?]

/-- The peer was asked once to execute, and so often to go on. -/
theorem contact_net (exchanges : List Exchange) :
    (v.net (v.contacts n) exchanges).contact v.terms.server = ⟨1, n, v.request⟩ := by
  simp [Network.contact, net, Interview.contacts, Assoc.get?]

theorem getElem?_net :
    (v.net contacts (closed n ++ [exchange])).exchanges[n]? = some exchange := by
  change (closed n ++ [exchange])[n]? = some exchange
  exact getElem?_last

/-- Only the last exchange can act. -/
theorem fire_net
    (h : (v.net contacts (closed n ++ [exchange])).fireExchange now n =
      v.net contacts (closed n ++ [exchange'])) :
    (v.net contacts (closed n ++ [exchange])).fire now =
      v.net contacts (closed n ++ [exchange']) := by
  have hlength : (v.net contacts (closed n ++ [exchange])).exchanges.length = n + 1 := by
    simp [net, length_closed]
  rw [Network.fire, hlength, List.range_succ, List.foldl_append, foldl_fireExchange_closed]
  · rw [List.foldl_cons, List.foldl_nil, h]
    rfl
  · intro i hi
    rw [show (v.net contacts (closed n ++ [exchange])).exchanges = closed n ++ [exchange] from rfl,
      List.getElem?_append_left (by rw [length_closed]; exact hi), getElem?_closed, if_pos hi]

theorem fire_net_closed :
    (v.net contacts (closed n)).fire now = v.net contacts (closed n) := by
  rw [Network.fire, foldl_fireExchange_closed]
  · rfl
  · intro i hi
    rw [show (v.net contacts (closed n)).exchanges = closed n from rfl, length_closed] at hi
    exact getElem?_closed.trans (if_pos hi)

/-- A connection is there when it is due. -/
theorem fireExchange_opening {due : Nat} {outcome : Except ClusterError Unit} :
    (v.net contacts (closed n ++ [Exchange.opening due outcome])).fireExchange now n =
      v.net contacts
        (closed n ++ [if due ≤ now then .opened outcome else .opening due outcome]) := by
  rw [Network.fireExchange, getElem?_net]
  by_cases h : due ≤ now
  · simp only [if_pos h, net, set_last]
  · simp only [if_neg h]

/-- A reply is there when it is due. -/
theorem fireExchange_thinking {due : Nat} {server : Server} {reply : ExecuteRequest → Reply} :
    (v.net contacts (closed n ++ [Exchange.thinking due server reply])).fireExchange now n =
      v.net contacts (closed n ++ [if due ≤ now then
          .replied (reply ((v.net contacts []).contact server).last)
        else .thinking due server reply]) := by
  rw [Network.fireExchange, getElem?_net]
  by_cases h : due ≤ now
  · simp only [if_pos h, net, set_last]
    rfl
  · simp only [if_neg h]

/-- The remote still thinks about its answer. -/
theorem fireExchange_awaited_early (h : now < v.began + v.arrival n) :
    (v.net (v.contacts n) (closed (n + 1) ++ [v.awaited n])).fireExchange now (n + 1) =
      v.net (v.contacts n) (closed (n + 1) ++ [v.awaited n]) := by
  rw [awaited, fireExchange_thinking, if_neg (Nat.not_le_of_lt h)]

/-- The remote answers. -/
theorem fireExchange_awaited :
    (v.net (v.contacts n) (closed (n + 1) ++ [v.awaited n])).fireExchange
        (v.began + v.arrival n) (n + 1) =
      v.net (v.contacts n)
        (closed (n + 1) ++ [Exchange.replied (.answers (v.answers n).answer)]) := by
  rw [awaited, fireExchange_thinking, if_pos (Nat.le_refl _)]
  rfl

/-! ## What the call does -/

/-- The call steps, and does what it does after the exchange was closed. -/
theorem apply_line {e : CallEvent} {actions : List CallAction}
    (h : (v.call stage).step now e = (v.call stage', actions)) :
    (v.line stage contacts n exchange log).apply now 0 e =
      actions.foldl (Outbound.perform now 0 (v.call stage))
        (v.apart stage' contacts (n + 1) log) := by
  have hclose : (v.net contacts (closed n ++ [exchange])).close n =
      v.net contacts (closed (n + 1)) := congrArg (v.net contacts) close_last
  rw [line, Outbound.apply_lone h, hclose]
  rfl

/-- The call asks the remote to execute. -/
theorem perform_execute :
    (v.apart (.executing v.began) [] 1 [(0, .connect)]).perform v.began 0 (v.call stage) .execute =
      v.asking 0 := by
  have hsend : (v.net [] (closed 1)).send v.began v.terms.server v.request none =
      (1, v.net (v.contacts 0) (closed 1 ++
        [Exchange.thinking (v.began + v.arrival 0) v.terms.server
          (replyOf (v.answers 0)).reply])) := by
    rw [Network.send, route_net]
    rfl
  change Outbound.waitFor _ 0
    ((v.net [] (closed 1)).send v.began v.terms.server v.request none) = _
  rw [hsend]
  rfl

/-- The call comes back. -/
theorem perform_reconnect :
    (v.apart (.reconnecting v.began (v.id n)) (v.contacts n) (n + 2) (v.log n)).perform
      (v.began + v.arrival n) 0 (v.call stage) (.reconnect (v.id n)) = v.asking (n + 1) := by
  have hsend : (v.net (v.contacts n) (closed (n + 2))).send (v.began + v.arrival n) v.terms.server
      v.request (some (v.id n)) =
      (n + 2, v.net (v.contacts (n + 1)) (closed (n + 2) ++
        [Exchange.thinking (v.began + v.arrival (n + 1)) v.terms.server
          (replyOf (v.answers (n + 1))).reply])) := by
    rw [Network.send, route_net]
    simp only [contact_net, Contact.ask, Network.push]
    refine Prod.ext length_closed ?_
    simp only [net, Interview.contacts, Assoc.put, if_true, remote, Retrieval.arrival,
      Nat.add_assoc]
    rfl
  change Outbound.waitFor _ 0 ((v.net (v.contacts n) (closed (n + 2))).send (v.began + v.arrival n)
    v.terms.server v.request (some (v.id n))) = _
  rw [hsend]
  rfl

/-- The call returns, and lets go of its connection. -/
theorem perform_release :
    (v.apart (.ended (.returned result)) (v.contacts n) (n + 2) (v.log n)).perform now 0
      (v.call stage) (Call.release (.returned result)) = v.returned n result := by
  cases result <;> rfl

/-- The call has a connection as long as it asks. -/
theorem holdsConnection_stage : (v.call (v.stage n)).holdsConnection = true := by
  cases n <;> rfl

/-- What the call does about the answer that it waits for. -/
theorem apply_answer :
    (v.line (v.stage n) (v.contacts n) (n + 1) exchange (v.log n)).apply (v.began + v.arrival n) 0
        (.replied (.answers (v.answers n).answer)) =
      match v.verdict n with
      | .settled result => v.returned n result
      | .comeBack id =>
        (v.apart (.reconnecting v.began id) (v.contacts n) (n + 2) (v.log n)).perform
          (v.began + v.arrival n) 0 (v.call (v.stage n)) (.reconnect id) := by
  have hstep : (v.call (v.stage n)).step (v.began + v.arrival n)
      (.replied (.answers (v.answers n).answer)) =
        (v.call (v.stage n)).hear (v.began + v.arrival n) v.began
          (.answers (v.answers n).answer) := by
    cases n <;> rfl
  have hjudge : (v.call (v.stage n)).terms.judge (v.began + v.arrival n - v.began)
      (v.answers n).answer = v.verdict n := by
    rw [Nat.add_sub_cancel_left]
    rfl
  rw [Call.hear, hjudge] at hstep
  cases hverdict : v.verdict n with
  | settled result =>
    rw [hverdict] at hstep
    rw [apply_line (hstep.trans (Call.hangUp_of_holdsConnection holdsConnection_stage _))]
    exact perform_release
  | comeBack id =>
    rw [hverdict] at hstep
    rw [apply_line hstep]
    rfl

/-- The call hears what has come. -/
theorem hearOne_line {e : CallEvent}
    (harrival : (v.line stage contacts n exchange log).arrival? 0 = some e) :
    (v.line stage contacts n exchange log).hearOne now 0 =
      (v.line stage contacts n exchange log).apply now 0 e := Outbound.hearOne_some harrival

/-! ## What happens at an instant -/

/-- A turn is one of the exchange, and then what the call does about it. -/
theorem fire_line {o : Outbound}
    (hnet : (v.net contacts (closed n ++ [exchange])).fireExchange now n =
      v.net contacts (closed n ++ [exchange']))
    (hhear : (v.line stage contacts n exchange' log).hearOne now 0 = o)
    (hidle : ∀ fuel, o.takeUp now fuel = o) :
    (v.line stage contacts n exchange log).fire now = o := by
  rw [line] at hhear ⊢
  rw [Outbound.fire_lone rfl, fire_net hnet, hhear, hidle]

/-- A worker takes up the call at once. -/
theorem fire_submitted : v.submitted.fire v.start = v.connecting := by
  have hnothing : (v.apart .queued [] 0 []).hearOne v.start 0 = v.apart .queued [] 0 [] := rfl
  rw [submitted_eq, apart, Outbound.fire_lone rfl, fire_net_closed]
  change ((v.apart .queued [] 0 []).hearOne v.start 0).takeUp v.start 1 = _
  rw [hnothing, apart, Outbound.takeUp, Outbound.next?_queued rfl rfl]
  change (v.apart .connecting [] 0 []).perform v.start 0 (v.call .queued) .connect = _
  have hconnect : (v.net [] (closed 0)).connect v.start v.terms.server =
      (0, v.net [] (closed 0 ++ [Exchange.opening v.began (.ok ())])) := by
    rw [Network.connect, route_net]
    rfl
  change Outbound.waitFor _ 0 ((v.net [] (closed 0)).connect v.start v.terms.server) = _
  rw [hconnect]
  rfl

/-- Before the connection is there the call has nothing to do. -/
theorem fire_connecting_early (h : now < v.began) : v.connecting.fire now = v.connecting := by
  have hnet : (v.net [] (closed 0 ++ [Exchange.opening v.began (.ok ())])).fireExchange now 0 =
      v.net [] (closed 0 ++ [Exchange.opening v.began (.ok ())]) := by
    rw [fireExchange_opening, if_neg (Nat.not_le_of_lt h)]
  exact fire_line hnet (Outbound.hearOne_nothing rfl fun d hd => by cases hd)
    (Outbound.takeUp_lone rfl)

/-- There is a connection, and the call asks the remote to execute. -/
theorem fire_connecting : v.connecting.fire v.began = v.asking 0 := by
  have hnet : (v.net [] (closed 0 ++ [Exchange.opening v.began (.ok ())])).fireExchange v.began 0 =
      v.net [] (closed 0 ++ [Exchange.opened (.ok ())]) := by
    rw [fireExchange_opening, if_pos (Nat.le_refl _)]
  have hstep : (v.call .connecting).step v.began (.connected (.ok ())) =
      (v.call (.executing v.began), [.execute]) := rfl
  refine fire_line hnet ?_ (Outbound.takeUp_lone rfl)
  rw [hearOne_line rfl, apply_line hstep]
  exact perform_execute

theorem isQueued_stage : (v.call (v.stage n)).isQueued = false := by
  cases n <;> rfl

/-- The answer is there. -/
theorem arrival?_replied {reply : Reply} :
    (v.line stage contacts n (.replied reply) log).arrival? 0 = some (.replied reply) := by
  rw [line, Outbound.arrival?_lone, Network.connected?, Network.reply?, getElem?_net]
  rfl

/-- There is no answer yet. -/
theorem arrival?_asking : (v.asking n).arrival? 0 = none := by
  rw [asking, line, Outbound.arrival?_lone, Network.connected?, Network.reply?, getElem?_net]
  rfl

/-- The answer arrives, and the call hears it. -/
theorem fire_asking_answer {o : Outbound}
    (h : (match v.verdict n with
      | .settled result => v.returned n result
      | .comeBack id =>
        (v.apart (.reconnecting v.began id) (v.contacts n) (n + 2) (v.log n)).perform
          (v.began + v.arrival n) 0 (v.call (v.stage n)) (.reconnect id)) = o)
    (hidle : ∀ fuel, o.takeUp (v.began + v.arrival n) fuel = o) :
    (v.asking n).fire (v.began + v.arrival n) = o := by
  refine fire_line fireExchange_awaited ?_ hidle
  rw [hearOne_line arrival?_replied]
  exact apply_answer.trans h

/-- The answer comes that settles the call. -/
theorem fire_asking_settled (h : v.verdict n = .settled result) :
    (v.asking n).fire (v.began + v.arrival n) = v.returned n result :=
  fire_asking_answer (by rw [h]) (Outbound.takeUp_lone rfl)

/-- The answer comes that has the call ask again. -/
theorem fire_asking_comesBack (h : v.ComesBack n) :
    (v.asking n).fire (v.began + v.arrival n) = v.asking (n + 1) :=
  fire_asking_answer (by rw [Retrieval.verdict_of_comesBack h]; exact perform_reconnect)
    (Outbound.takeUp_lone isQueued_stage)

/-- There is no answer yet, and the call goes on to wait. -/
theorem fire_asking_early (h : now < v.began + v.arrival n)
    (hdeadline : ∀ d, (v.call (v.stage n)).deadline = some d → now < d) :
    (v.asking n).fire now = v.asking n := by
  exact fire_line (fireExchange_awaited_early h)
    (Outbound.hearOne_nothing arrival?_asking hdeadline) (Outbound.takeUp_lone isQueued_stage)

/-- There is no answer yet, and the call gives up. -/
theorem fire_asking_late {b : Nat} (h : now < v.began + v.arrival (n + 1))
    (hb : v.terms.budget = some b) (htime : v.began + b ≤ now) :
    (v.asking (n + 1)).fire now = v.returned (n + 1) (.error (v.terms.gaveUp b (v.id n))) := by
  have hdeadline : (v.call (v.stage (n + 1))).deadline = some (v.began + b) := by
    change v.terms.budget.map (v.began + ·) = _
    rw [hb]
    rfl
  have hstep : (v.call (v.stage (n + 1))).step now .outOfTime =
      (v.call (.ended (.returned (.error (v.terms.gaveUp b (v.id n))))), [.discard]) := by
    have hterms : (v.call (v.stage (n + 1))).terms.budget = some b := hb
    rw [Call.step, hterms]
    rfl
  refine fire_line (fireExchange_awaited_early h) ?_ (Outbound.takeUp_lone rfl)
  rw [line, Outbound.hearOne_outOfTime arrival?_asking hdeadline htime]
  exact apply_line hstep

/-- A call that returned does nothing more. -/
theorem fire_returned : (v.returned n result).fire now = v.returned n result := by
  rw [returned, apart, Outbound.fire_lone rfl, fire_net_closed,
    Outbound.hearOne_nothing rfl fun d hd => by cases hd]
  exact Outbound.takeUp_lone rfl _

/-! ## When something happens next -/

theorem due_submitted : v.submitted.due = some 0 := Outbound.due_queued rfl rfl

/-- While the call waits, the next things to happen are that the exchange is due, and that the call
gives up. -/
theorem due_line {due : Nat} (hqueued : (v.call stage).isQueued = false)
    (harrival : (v.line stage contacts n exchange log).arrival? 0 = none)
    (hdue : exchange.due? = some due) :
    (v.line stage contacts n exchange log).due =
      ((v.call stage).deadline.toList ++ [due]).min? := by
  have hnet : (v.net contacts (closed n ++ [exchange])).due = some due := by
    change ((closed n ++ [exchange]).filterMap Exchange.due? ++ []).min? = _
    rw [List.append_nil, List.filterMap_append, due?_closed, List.filterMap_cons_some hdue]
    rfl
  rw [line, Outbound.due_lone hqueued rfl harrival, hnet]
  rfl

/-- The connection is due when the conversation begins. -/
theorem due_connecting : v.connecting.due = some v.began :=
  (due_line rfl rfl rfl).trans rfl

/-- The next answer is due, or the end of the call's time. -/
theorem due_asking : (v.asking n).due =
    ((v.call (v.stage n)).deadline.toList ++ [v.began + v.arrival n]).min? :=
  due_line isQueued_stage arrival?_asking rfl

/-- The answer comes before the call gives up. -/
theorem due_asking_answer
    (h : ∀ d, (v.call (v.stage n)).deadline = some d → v.began + v.arrival n ≤ d) :
    (v.asking n).due = some (v.began + v.arrival n) := by
  rw [due_asking]
  cases hd : (v.call (v.stage n)).deadline with
  | none => rfl
  | some d =>
    have hle := h d hd
    simp [hle]

/-- The call gives up before the answer comes. -/
theorem due_asking_deadline {d : Nat} (hd : (v.call (v.stage n)).deadline = some d)
    (h : d ≤ v.began + v.arrival n) : (v.asking n).due = some d := by
  rw [due_asking, hd]
  simp [h]

/-! ## Where the call stands -/

/-- When the call gives up that came back so many times. -/
theorem deadline_stage {d : Nat} : (v.call (v.stage n)).deadline = some d ↔
    0 < n ∧ ∃ b ∈ v.terms.budget, d = v.began + b := by
  cases n with
  | zero => simp [call, Interview.stage, Call.deadline]
  | succ n =>
    change v.terms.budget.map (v.began + ·) = some d ↔ _
    rw [Option.map_eq_some_iff]
    simp [eq_comm]

/-- A call that came back so many times may still wait for the next answer. -/
structure Waits (v : Interview) (now n : Nat) : Prop where
  before : ∀ i < n, v.ComesBack i
  le_arrival : now ≤ v.began + v.arrival n
  le_budget : 0 < n → ∀ b ∈ v.terms.budget, now ≤ v.began + b

/-- Where the call and the remote stand at an instant. -/
inductive Stands (v : Interview) : Timed Outbound → Prop
  | submitted : Stands v ⟨v.start, v.submitted⟩
  | connecting {now : Nat} : now ≤ v.began → Stands v ⟨now, v.connecting⟩
  | asking {now n : Nat} : Waits v now n → Stands v ⟨now, v.asking n⟩
  | returned {now n time : Nat} {result : Except ClusterError Response} :
      v.Ends n time result → v.began + time ≤ now → Stands v ⟨now, v.returned n result⟩

/-- Until the conversation begins the call waits for the first answer. -/
theorem waits_first (h : now ≤ v.began) : Waits v now 0 :=
  ⟨by simp, Nat.le_add_right_of_le h, fun hn => absurd hn (Nat.lt_irrefl 0)⟩

/-- The call comes back. -/
theorem Waits.next (h : Waits v now n) (hback : v.ComesBack n) :
    Waits v (v.began + v.arrival n) (n + 1) where
  before := by
    intro i hi
    rcases Nat.lt_succ_iff_lt_or_eq.1 hi with hi | rfl
    · exact h.before i hi
    · exact hback
  le_arrival := Nat.add_le_add_left (v.arrival_mono (Nat.le_succ n)) _
  le_budget _ b hb := Nat.add_le_add_left (Nat.le_of_lt (hback.2 b hb)) _

/-- The call is told something that settles what it returns. -/
theorem Waits.settled (h : Waits v (v.began + v.arrival n) n)
    (hverdict : v.verdict n = .settled result) : v.Ends n (v.arrival n) result := by
  refine .settled h.before ?_ hverdict
  rcases Nat.eq_zero_or_pos n with hzero | hpos
  · exact .inl hzero
  · exact .inr fun b hb => Nat.le_of_add_le_add_left (h.le_budget hpos b hb)

/-- What happens at an instant leads from one of the states to another. -/
theorem Stands.fire {u : Timed Outbound} (h : Stands v u) :
    Stands v ⟨u.now, u.state.fire u.now⟩ := by
  cases h with
  | submitted =>
    rw [fire_submitted]
    exact .connecting (Nat.le_add_right _ _)
  | @connecting now hle =>
    rcases Nat.lt_or_eq_of_le hle with hlt | rfl
    · rw [fire_connecting_early hlt]
      exact .connecting hle
    · rw [fire_connecting]
      exact .asking (waits_first (Nat.le_refl _))
  | @asking now n hwaits =>
    rcases Nat.lt_or_eq_of_le hwaits.le_arrival with hlt | rfl
    · by_cases hlate : ∃ d, (v.call (v.stage n)).deadline = some d ∧ d ≤ now
      · obtain ⟨d, hd, hle⟩ := hlate
        obtain ⟨hpos, b, hb, rfl⟩ := deadline_stage.1 hd
        obtain ⟨k, rfl⟩ : ∃ k, n = k + 1 := ⟨n - 1, by omega⟩
        rw [fire_asking_late hlt hb hle]
        exact .returned (.gaveUp hwaits.before hb (by omega)) hle
      · rw [fire_asking_early hlt fun d hd => Nat.lt_of_not_le fun hle => hlate ⟨d, hd, hle⟩]
        exact .asking hwaits
    · rcases v.comesBack_or_settled n with hback | ⟨result, hverdict⟩
      · rw [fire_asking_comesBack hback]
        exact .asking (hwaits.next hback)
      · rw [fire_asking_settled hverdict]
        exact .returned (hwaits.settled hverdict) (Nat.le_refl _)
  | returned hends hle =>
    rw [fire_returned]
    exact .returned hends hle

/-- Time that passes leads from one of the states to another. -/
theorem Stands.pass {u : Timed Outbound} {later : Nat} (h : Stands v u) (hle : u.now ≤ later)
    (hdue : ∀ due, u.state.due = some due → later ≤ due) : Stands v ⟨later, u.state⟩ := by
  cases h with
  | submitted =>
    have hzero : later ≤ 0 := hdue 0 due_submitted
    obtain rfl : v.start = later := by
      dsimp only at hle
      omega
    exact .submitted
  | connecting => exact .connecting (hdue _ due_connecting)
  | @asking now n hwaits =>
    have hnext : ∀ d ∈ (v.call (v.stage n)).deadline.toList ++ [v.began + v.arrival n],
        later ≤ d := by
      intro d hd
      obtain ⟨due, hmin, hle'⟩ := Lists.exists_min?_le hd
      exact Nat.le_trans (hdue due (due_asking.trans hmin)) hle'
    refine .asking ⟨hwaits.before,
      hnext _ (List.mem_append_right _ (List.mem_singleton.2 rfl)), fun hn b hb =>
      hnext _ (List.mem_append_left _ (Option.mem_toList.2 ?_))⟩
    exact deadline_stage.2 ⟨hn, b, hb, rfl⟩
  | returned hends hle' => exact .returned hends (Nat.le_trans hle' hle)

/-- In every run, the call and the remote stand as described. There is no node to sweep. -/
theorem Stands.of_run {sweeps : List (Nat × Unit)} {u : Timed Outbound}
    (hrun : Runs ⟨v.start, v.submitted⟩ sweeps u) : Stands v u := by
  refine hrun.invariant (I := fun _ u => Stands v u) .submitted (fun _ _ _ h _ _ => h.fire)
    (fun _ _ _ h hle hdue => h.pass hle hdue) fun _ u _ h => ?_
  have hsweep : u.state.sweep u.now = u.state := by
    cases h <;> rfl
  rw [hsweep]
  exact h

/-! ## The result of the call -/

variable {time : Nat}

/-- A call that has not returned yet still has time. -/
theorem Waits.le_time (hwaits : Waits v now n) {m : Nat} (h : v.Ends m time result) :
    n ≤ m ∧ now ≤ v.began + time := by
  have hle : n ≤ m := Nat.le_of_not_lt fun hlt => h.not_comesBack (hwaits.before m hlt)
  refine ⟨hle, ?_⟩
  cases h with
  | settled =>
    exact Nat.le_trans hwaits.le_arrival (Nat.add_le_add_left (v.arrival_mono hle) _)
  | @gaveUp k _ before hb =>
    rcases Nat.eq_zero_or_pos n with rfl | hpos
    · have hfirst : v.arrival 0 < time := (before 0 (Nat.succ_pos k)).2 _ hb
      have harrival := hwaits.le_arrival
      omega
    · exact hwaits.le_budget hpos _ hb

/-- What is overdue is done at once. -/
theorem run_overdue {due : Nat} {o o' : Outbound} (hdue : o.due = some due) (hle : due ≤ now)
    (hfire : o.fire now = o') : Runs ⟨now, o⟩ [] ⟨now, o'⟩ := by
  rw [← hfire]
  exact Run.start.fire hdue hle

/-- What is due next is done when it is due. -/
theorem run_due {due : Nat} {o o' : Outbound} (hdue : o.due = some due) (hle : now ≤ due)
    (hfire : o.fire due = o') : Runs ⟨now, o⟩ [] ⟨due, o'⟩ := by
  have hrun : Runs ⟨now, o⟩ [] ⟨max now due, o.fire (max now due)⟩ := Run.start.fireAt hdue
  rw [Nat.max_eq_right hle, hfire] at hrun
  exact hrun

/-- A call that is about to return does so when its time has come. -/
theorem Waits.returns (hwaits : Waits v now n) (h : v.Ends n time result) :
    Runs ⟨now, v.asking n⟩ [] ⟨v.began + time, v.returned n result⟩ := by
  have htime := (hwaits.le_time h).2
  cases h with
  | settled before inTime verdict =>
    refine run_due (due_asking_answer fun d hd => ?_) htime (fire_asking_settled verdict)
    obtain ⟨hpos, b, hb, rfl⟩ := deadline_stage.1 hd
    exact Nat.add_le_add_left ((inTime.resolve_left (Nat.ne_of_gt hpos)) b hb) _
  | @gaveUp k _ before hb late =>
    have hdeadline : (v.call (v.stage (k + 1))).deadline = some (v.began + time) :=
      deadline_stage.2 ⟨Nat.succ_pos k, time, hb, rfl⟩
    have hlt : v.began + time < v.began + v.arrival (k + 1) := Nat.add_lt_add_left late _
    exact run_due (due_asking_deadline hdeadline (Nat.le_of_lt hlt)) htime
      (fire_asking_late hlt hb (Nat.le_refl _))

/-- A run goes on to the end of the talk. -/
theorem Waits.reaches {m : Nat} (h : v.Ends m time result) (rest : Nat) :
    ∀ {n now}, n + rest = m → Waits v now n →
      Runs ⟨now, v.asking n⟩ [] ⟨v.began + time, v.returned m result⟩ := by
  induction rest with
  | zero =>
    rintro n now rfl hwaits
    exact hwaits.returns h
  | succ rest ih =>
    rintro n now hm hwaits
    have hback : v.ComesBack n := h.comesBack (by omega)
    have hdue : (v.asking n).due = some (v.began + v.arrival n) := by
      refine due_asking_answer fun d hd => ?_
      obtain ⟨-, b, hb, rfl⟩ := deadline_stage.1 hd
      exact Nat.add_le_add_left (Nat.le_of_lt (hback.2 b hb)) _
    have hrun := run_due hdue hwaits.le_arrival (fire_asking_comesBack hback)
    exact hrun.trans (ih (by omega) (hwaits.next hback))

/-- Who knows how the talk ends knows when the call returns. -/
theorem Stands.returnsAt {u : Timed Outbound} (hstands : Stands v u) (h : v.Ends n time result) :
    ReturnsAt u (v.began + time) result := by
  have hasking : Runs ⟨v.began, v.asking 0⟩ [] ⟨v.began + time, v.returned n result⟩ :=
    Waits.reaches h n (Nat.zero_add n) (waits_first (Nat.le_refl _))
  have hconnecting : ∀ now, now ≤ v.began →
      Runs ⟨now, v.connecting⟩ [] ⟨v.began + time, v.returned n result⟩ := by
    intro now hle
    exact (run_due due_connecting hle fire_connecting).trans hasking
  -- a call that has not returned has no result and still has time
  have hbefore : ∀ {u : Timed Outbound}, u.state.workers.result? 0 = none → u.now ≤ v.began + time →
      Runs u [] ⟨v.began + time, v.returned n result⟩ → ReturnsAt u (v.began + time) result := by
    intro u hnone hle hrun
    refine ⟨fun r hr => ?_, fun hlt => absurd hlt (Nat.not_lt_of_le hle), fun _ =>
      ⟨_, hrun, rfl, rfl⟩⟩
    rw [hnone] at hr
    cases hr
  cases hstands with
  | submitted =>
    have hrun : Runs ⟨v.start, v.submitted⟩ [] ⟨v.start, v.connecting⟩ :=
      run_overdue due_submitted (Nat.zero_le _) fire_submitted
    have hle : v.start ≤ v.began := Nat.le_add_right _ _
    exact hbefore rfl (Nat.le_add_right_of_le hle) (hrun.trans (hconnecting _ hle))
  | connecting hle => exact hbefore rfl (Nat.le_add_right_of_le hle) (hconnecting _ hle)
  | @asking now m hwaits =>
    obtain ⟨hmn, hle⟩ := hwaits.le_time h
    refine hbefore ?_ hle (Waits.reaches h (n - m) (by omega) hwaits)
    cases m <;> rfl
  | returned hends hle =>
    obtain ⟨rfl, rfl, rfl⟩ := hends.unique h
    refine ⟨fun r hr => ⟨hle, (Option.some.inj hr).symm⟩, fun _ => rfl, fun hnone => ?_⟩
    cases hnone

/-! ## What the remote is asked -/

/-- The log has one first request, and the later ones in order. -/
theorem asked_log (n : Nat) :
    ((v.log n).reverse.map (·.2)).filter (·.isRequest) =
      .execute :: (List.range n).map fun k => .reconnect (v.id k) := by
  induction n with
  | zero => rfl
  | succ n ih =>
    rw [Interview.log, List.reverse_cons, List.map_append, List.filter_append, ih, List.range_succ,
      List.map_append]
    rfl

theorem asked_asking : (v.asking n).asked =
    .execute :: (List.range n).map fun k => .reconnect (v.id k) := asked_log n

/-- A call that returned has asked what it asked before. -/
theorem asked_returned : (v.returned n result).asked =
    .execute :: (List.range n).map fun k => .reconnect (v.id k) := by
  have hrelease : (Call.release (.returned result)).isRequest = false := by
    cases result <;> rfl
  rw [Outbound.asked, ← asked_log n]
  change ((((0, Call.release (.returned result)) :: v.log n).reverse).map (·.2)).filter _ = _
  rw [List.reverse_cons, List.map_append, List.filter_append, List.map_cons, List.map_nil,
    List.filter_cons, hrelease]
  simp

/-- A call asks its remote to execute, and then comes back each time with the id that it was last
told. -/
theorem Stands.asked {u : Timed Outbound} (h : Stands v u) :
    u.state.asked = [] ∧ u.state.workers.result? 0 = none ∨
      ∃ n, u.state.asked = .execute :: (List.range n).map (fun k => .reconnect (v.id k)) ∧
        ∀ k < n, v.ComesBack k := by
  cases h with
  | submitted => exact .inl ⟨rfl, rfl⟩
  | connecting => exact .inl ⟨rfl, rfl⟩
  | asking hwaits => exact .inr ⟨_, asked_asking, hwaits.before⟩
  | returned hends => exact .inr ⟨_, asked_returned, fun k hk => hends.comesBack hk⟩

/-- A call that comes back to a remote, whatever this answers and however long it takes. The call
asks the remote to execute once and first of all, and comes back each time with the id that it was
told last; within a budget it does so no more often than reconnects of the least duration fit into
it. The first answer that does not say that the work goes on is what the call returns when it
arrives, if this answer counts. If none does, the call gives up when its budget is over, but not
before the first answer, and names the last id that it was told. This is also what `converse`
says. -/
theorem reconnect_loop {sweeps : List (Nat × Unit)} {u : Timed Outbound}
    (hrun : Runs ⟨v.start, v.submitted⟩ sweeps u) :
    (u.state.asked = [] ∧ u.state.workers.result? 0 = none ∨
      ∃ n, u.state.asked = .execute :: (List.range n).map (fun k => .reconnect (v.id k)) ∧
        (∀ k < n, v.id? k = some (v.id k)) ∧
        ∀ b ∈ v.terms.budget, ∀ δ, 0 < δ → (∀ k, δ ≤ (v.answers (k + 1)).delay) →
          n ≤ b ⌈/⌉ δ) ∧
    (∀ k result, v.Decisive k result → v.InTime k →
      ReturnsAt u (v.began + v.arrival k) result ∧ v.Takes (v.arrival k) result) ∧
    ∀ b ∈ v.terms.budget, (∀ time, ∃ k, time < v.arrival k) →
      (∀ k result, v.Decisive k result → ¬ v.InTime k) →
      ∃ j id, v.LastReported b j id ∧
        ReturnsAt u (v.began + max b (v.arrival 0))
          (.error (.reconnectTimeout v.terms.server.name id.text b)) ∧
        v.Takes (max b (v.arrival 0))
          (.error (.reconnectTimeout v.terms.server.name id.text b)) := by
  have hstands := Stands.of_run hrun
  refine ⟨?_, fun k result hdecisive hin => ?_, fun b hb hfinite hnone => ?_⟩
  · refine hstands.asked.imp_right ?_
    rintro ⟨n, hasked, hback⟩
    exact ⟨n, hasked, fun k hk => Retrieval.id?_eq (hback k hk).1,
      fun b hb δ hδ hdelay => Retrieval.count_le hb hδ hdelay hback⟩
  · have hends := hdecisive.ends hin
    exact ⟨hstands.returnsAt hends, hends.takes⟩
  · obtain ⟨n, j, id, hlast, hends⟩ := Retrieval.exists_ends_of_budget hb hfinite hnone
    exact ⟨j, id, hlast, hstands.returnsAt hends, hends.takes⟩

/-! ### Answers on the edge -/

/-- A remote that says twice that the work goes on, with another id each time, and then has a value:
10, 20 and 25 ms after the request to execute. -/
def chat (budget : Nat) : Interview where
  terms := ⟨⟨"localhost:1"⟩, some budget⟩
  answers
    | 0 => ⟨10, .error (.stillRunning ⟨"first"⟩)⟩
    | 1 => ⟨10, .error (.stillRunning ⟨"second"⟩)⟩
    | 2 => ⟨5, .ok (.serverValue (.nat 1))⟩
    | _ + 3 => ⟨5, .error (.failed "over")⟩
  request := ⟨"slow", .serverRead, .null, []⟩
  connectDelay := 3
  start := 0
  workers := 1
  elsewhere _ := .unreachable 0 (.internal "no such server")

theorem chat_decisive (budget : Nat) :
    (chat budget).Decisive 2 (.ok (.serverValue (.nat 1))) where
  before := by
    intro i hi
    match i, hi with
    | 0, _ => rfl
    | 1, _ => rfl
  told := rfl

/-- No answer of the chat comes at once. -/
theorem chat_delays (budget : Nat) : ∀ k, 5 ≤ ((chat budget).answers (k + 1)).delay
  | 0 => (by decide : 5 ≤ 10)
  | 1 => Nat.le_refl 5
  | _ + 2 => Nat.le_refl 5

/-- The chat goes on for ever, if it is let. -/
theorem chat_finite (budget time : Nat) : ∃ k, time < (chat budget).arrival k := by
  have harrival := Retrieval.mul_le_arrival (chat_delays budget) (time + 1)
  exact ⟨time + 1, by omega⟩

/-- Only the value is decisive. -/
theorem chat_decisive_eq {budget k : Nat} {result : Except ClusterError Response}
    (h : (chat budget).Decisive k result) : k = 2 := by
  rcases Nat.lt_trichotomy k 2 with hlt | rfl | hgt
  · have htold := h.told
    rw [(chat_decisive budget).before k hlt] at htold
    cases htold
  · rfl
  · have htold := h.before 2 hgt
    rw [(chat_decisive budget).told] at htold
    cases htold

/-- A value that comes when the budget is just over counts. A call that is told at that instant that
the work goes on gives up, with the id that it was told then. -/
theorem chat_on_the_edge :
    (∃ w, Runs ⟨0, (chat 25).submitted⟩ [] w ∧ w.now = 28 ∧
      w.state.workers.result? 0 = some (.ok (.serverValue (.nat 1)))) ∧
    ∃ w, Runs ⟨0, (chat 20).submitted⟩ [] w ∧ w.now = 23 ∧
      w.state.workers.result? 0 =
        some (.error (.reconnectTimeout "localhost:1" "second" 20)) := by
  refine ⟨((reconnect_loop (v := chat 25) Run.start).2.1 2 _ (chat_decisive 25) (.inr ?_)).1.reached
    rfl, ?_⟩
  · rintro b ⟨⟩
    exact ⟨by decide, by decide⟩
  · obtain ⟨j, id, hlast, hreturns, -⟩ := (reconnect_loop (v := chat 20) Run.start).2.2 20 rfl
      (chat_finite 20) fun k result hdecisive hin => by
        obtain rfl := chat_decisive_eq hdecisive
        exact absurd ((hin.resolve_left (by decide)) 20 rfl).1 (by decide)
    -- the second answer is the last one that the call is told
    have hj : j = 1 := by
      have hafter : ¬ 1 < j := fun hlt => absurd (hlast.before 1 hlt).2 (by decide)
      have hnot : j ≠ 0 := by
        rintro rfl
        exact absurd hlast.last (by decide)
      omega
    subst hj
    obtain rfl : (⟨"second"⟩ : ExecutionId) = id := Option.some.inj hlast.reported
    exact hreturns.reached rfl

end Interview

end ScatterSearch
