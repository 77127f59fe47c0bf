import Mathlib.Logic.Relation
import ScatterSearch.Proofs.Call.Progress

/-!
# Workers and connections are given back

A call takes a worker, gets a connection, lets go of it, and leaves the worker. Here these are
separate dealings, and the dealings of different calls mix in every order. So there are moments at
which a call has ended and still has its connection, or has given it back and still has its worker.

* A `Conduct` is a call with what it holds and with the dealings that it has done. What it comes by
  lies on top of what it holds already. Once it has ended it lets go of what lies on top, one thing
  at a time, in the way of its end (`CallEnd.letGo`);
* a `Workshop` is some calls with their conducts. `Workshop.Turn` is what can happen next: a call is
  submitted or told to stop, something happens to a call (whatever it is and whenever it comes, but
  a worker must be free for a call to take it), or a call that has ended lets go of one more thing.
  A pool of connections is no part of it. What a pool does is what happens to calls;
* `Workshop.Conserves` is what holds at every moment (`Workshop.Sound.conserves`).

The invariant is `Conduct.Sound`: a call holds what its stage says, and after its end a part of what
it held then; and its dealings are those by which it came by this and let go of the rest.
-/

namespace ScatterSearch

/-! ## Dealings -/

namespace Dealing

/-- Whether it is about a connection. -/
def isConnection : Dealing → Bool
  | .take => false
  | .leave => false
  | _ => true

/-- The server to which a connection was got. -/
def got? : Dealing → Option Server
  | .get s => some s
  | _ => none

/-- The server to which a connection was given back. -/
def givenBack? : Dealing → Option Server
  | .giveBack s => some s
  | _ => none

/-- The server to which a connection was thrown away. -/
def discarded? : Dealing → Option Server
  | .discard s => some s
  | _ => none

/-- What an action is for the connection to a server. A connection that was got is used at once. -/
def ofAction? (s : Server) : CallAction → Option Dealing
  | .execute => some (.get s)
  | .giveBack => some (.giveBack s)
  | .discard => some (.discard s)
  | _ => none

/-- What a call does with its connection at its end is what becomes of the connection. -/
theorem ofAction?_release (s : Server) (how : CallEnd) :
    ofAction? s (Call.release how) = some (release s how) := by
  rcases how with (error | r) | message | _ <;> rfl

/-- A connection is given back at the end of a call that has a response, and at no other. -/
theorem release_cases (s : Server) (how : CallEnd) :
    (∃ r, how = .returned (.ok r)) ∧ release s how = .giveBack s ∨
      (∀ r, how ≠ .returned (.ok r)) ∧ release s how = .discard s := by
  rcases how with (error | r) | message | _
  · exact .inr ⟨(fun _ h => nomatch h), rfl⟩
  · exact .inl ⟨⟨r, rfl⟩, rfl⟩
  · exact .inr ⟨(fun _ h => nomatch h), rfl⟩
  · exact .inr ⟨(fun _ h => nomatch h), rfl⟩

theorem isConnection_release (s : Server) (how : CallEnd) :
    (release s how).isConnection = true := by
  rcases release_cases s how with ⟨-, h⟩ | ⟨-, h⟩ <;> rw [h] <;> rfl

end Dealing

/-! ## Calls -/

namespace Call

variable {c : Call} {now : Nat} {e : CallEvent}

/-- Whether a call has ended with a response. -/
def Succeeded (c : Call) : Prop := ∃ r, c.end? = some (.returned (.ok r))

/-- A call succeeded if it returned a response. -/
theorem succeeded_iff {how : CallEnd} (h : c.end? = some how) :
    c.Succeeded ↔ ∃ r, how = .returned (.ok r) := by
  rw [Succeeded, h]
  exact exists_congr fun _ => Option.some_inj

/-- A call that goes on has not succeeded. -/
theorem not_succeeded (h : c.isFinished = false) : ¬ c.Succeeded := by
  rintro ⟨r, hend⟩
  rw [isFinished, hend] at h
  cases h

/-- What can become of a call when something happens to it. -/
inductive Proceeds (c : Call) (now : Nat) (e : CallEvent) : Call × List CallAction → Prop
  | nothing : Proceeds c now e (c, [])
  | admitted (stage : c.stage = .queued) (event : e = .admitted) :
      Proceeds c now e ({ c with stage := .connecting }, [.connect])
  | connected (stage : c.stage = .connecting) :
      Proceeds c now e ({ c with stage := .executing now }, [.execute])
  | comesBack {started : Nat} {id : ExecutionId} (holds : c.holdsConnection = true) :
      Proceeds c now e ({ c with stage := .reconnecting started id }, [.reconnect id])
  /-- only a call that has a connection ends with a response -/
  | ends {how : CallEnd} (goes : c.isFinished = false)
      (response : ∀ r, how = .returned (.ok r) → c.holdsConnection = true) :
      Proceeds c now e (c.hangUp how)

/-- A reply ends the call, or has it come back. -/
theorem proceeds_hear (h : c.holdsConnection = true) (started : Nat) (reply : Reply) :
    Proceeds c now e (c.hear now started reply) := by
  have hgoes := (goes_of_holdsConnection h).2
  cases reply with
  | panics message => exact .ends hgoes fun _ _ => h
  | answers answer =>
    rw [hear]
    cases c.terms.judge (now - started) answer with
    | settled result => exact .ends hgoes fun _ _ => h
    | comeBack id => exact .comesBack h

/-- Whatever happens to a call, it proceeds in one of these ways. -/
theorem proceeds_step (c : Call) (now : Nat) (e : CallEvent) :
    Proceeds c now e (c.step now e) := by
  cases hstage : c.stage with
  | queued =>
    have hgoes : c.isFinished = false := by rw [isFinished, end?, hstage]; rfl
    cases e <;> simp only [step, hstage]
    case admitted => exact .admitted hstage rfl
    case stopped => exact .ends hgoes fun _ h => by cases h
    all_goals exact .nothing
  | connecting =>
    have hgoes : c.isFinished = false := by rw [isFinished, end?, hstage]; rfl
    cases e <;> simp only [step, hstage]
    case connected outcome =>
      cases outcome with
      | ok _ => exact .connected hstage
      | error error => exact .ends hgoes fun _ h => by cases h
    case brokeDown message => exact .ends hgoes fun _ h => by cases h
    case stopped => exact .ends hgoes fun _ h => by cases h
    all_goals exact .nothing
  | executing started =>
    have hholds := holdsConnection_of_stage (.inl ⟨started, hstage⟩)
    cases e <;> simp only [step, hstage]
    case replied reply => exact proceeds_hear hholds started reply
    case stopped => exact .ends (goes_of_holdsConnection hholds).2 fun _ h => by cases h
    all_goals exact .nothing
  | reconnecting started id =>
    have hholds := holdsConnection_of_stage (.inr ⟨started, id, hstage⟩)
    have hgoes := (goes_of_holdsConnection hholds).2
    cases e <;> simp only [step, hstage]
    case replied reply => exact proceeds_hear hholds started reply
    case outOfTime =>
      cases c.terms.budget with
      | none => exact .nothing
      | some b => exact .ends hgoes fun _ h => by cases h
    case stopped => exact .ends hgoes fun _ h => by cases h
    all_goals exact .nothing
  | ended how =>
    rw [step_of_ended hstage]
    exact .nothing

/-- What ends a call in conversation, and how it ends then: an answer that settles it, a server that
breaks down, the end of its time, and a stop. -/
structure Concludes (c : Call) : Prop where
  settled : ∀ now started answer result,
    (c.stage = .executing started ∨ ∃ id, c.stage = .reconnecting started id) →
    c.terms.judge (now - started) answer = .settled result →
    (c.step now (.replied (.answers answer))).1.end? = some (.returned result)
  brokeDown : ∀ now message,
    (c.step now (.replied (.panics message))).1.end? = some (.panicked message)
  late : ∀ now started id budget, c.stage = .reconnecting started id →
    c.terms.budget = some budget →
    (c.step now .outOfTime).1.end? = some (.returned (.error (c.terms.gaveUp budget id)))
  stopped : ∀ now, (c.step now .stopped).1.end? = some .aborted

/-- A call that has a connection can be brought to its end. -/
theorem concludes_of_holdsConnection (h : c.holdsConnection = true) : c.Concludes where
  settled := by
    intro now started answer result hstage hjudge
    have hstep : c.step now (.replied (.answers answer)) = c.hangUp (.returned result) := by
      rcases hstage with hstage | ⟨id, hstage⟩ <;> simp only [step, hstage, hear, hjudge]
    rw [hstep]
    rfl
  brokeDown := by
    intro now message
    have hstep : c.step now (.replied (.panics message)) = c.hangUp (.panicked message) := by
      rcases stage_of_holdsConnection h with ⟨started, hstage⟩ | ⟨started, id, hstage⟩ <;>
        simp only [step, hstage, hear]
    rw [hstep]
    rfl
  late := by
    intro now started id budget hstage hbudget
    simp only [step, hstage, hbudget]
    rfl
  stopped := fun now => step_stopped (goes_of_holdsConnection h).2

/-- What the pool of connections is asked at the end of a call is what becomes of its connection. -/
theorem filter_windUp (c : Call) (how : CallEnd) :
    (c.windUp how).filter Dealing.isConnection =
      (c.hangUp how).2.filterMap (Dealing.ofAction? c.terms.server) := by
  rcases c.held_cases with ⟨hholds, hheld⟩ | ⟨hnot, hheld | hheld⟩
  · rw [hangUp_of_holdsConnection hholds, windUp, hheld, List.flatMap_cons,
      CallEnd.letGo_connection, List.flatMap_cons, CallEnd.letGo_worker, List.flatMap_nil,
      List.filterMap_cons_some (Dealing.ofAction?_release _ how)]
    exact List.filter_cons_of_pos (Dealing.isConnection_release _ how)
  · rw [hangUp_of_no_connection hnot, windUp, hheld]
    rfl
  · rw [hangUp_of_no_connection hnot, windUp, hheld, List.flatMap_cons, CallEnd.letGo_worker]
    rfl

end Call

/-! ## Conducts -/

/-- A call with what it holds, the latest first, and the dealings that it has done, the first one
first. -/
structure Conduct where
  call : Call
  held : List Holding
  done : List Dealing

namespace Conduct

/-- Whether the call has a worker. -/
def holdsWorker (k : Conduct) : Bool := k.done.contains .take && !k.done.contains .leave

/-- The servers to which the call got connections. -/
def got (k : Conduct) : List Server := k.done.filterMap Dealing.got?

/-- The servers to which it gave connections back. -/
def givenBack (k : Conduct) : List Server := k.done.filterMap Dealing.givenBack?

/-- The servers to which it threw connections away. -/
def discarded (k : Conduct) : List Server := k.done.filterMap Dealing.discarded?

/-- Whether the call has got a connection and not let go of it. -/
def isOut (k : Conduct) : Bool :=
  decide (k.givenBack.length + k.discarded.length < k.got.length)

/-- Whether the call has ended and holds nothing any more. -/
def isOver (k : Conduct) : Bool := k.call.isFinished && k.held.isEmpty

/-- A call that was just submitted. -/
def new (terms : CallTerms) (request : ExecuteRequest) : Conduct := ⟨.new terms request, [], []⟩

/-- Something happens to the call. What it comes by lies on top of what it holds. -/
def hear (k : Conduct) (now : Nat) (e : CallEvent) : Conduct :=
  let after := (k.call.step now e).1
  let gained := after.held.take (after.held.length - k.call.held.length)
  ⟨after, gained ++ k.held, k.done ++ gained.reverse.map Holding.gain⟩

open Dealing (release)

/-- How far a call can have come. -/
inductive Sound : Conduct → Prop where
  | going {c : Call} (goes : c.isFinished = false) :
      Sound ⟨c, c.held, c.held.reverse.map Holding.gain⟩
  /-- it ended when it stood as `last` does, and has let go of a part of what it held then -/
  | ended {last : Call} {how : CallEnd} {gone held : List Holding}
      (response : ∀ r, how = .returned (.ok r) → last.holdsConnection = true)
      (split : gone ++ held = last.held) :
      Sound ⟨last.finish how, held,
        (gone ++ held).reverse.map Holding.gain ++ gone.flatMap how.letGo⟩

variable {k : Conduct} {now : Nat} {e : CallEvent}

theorem sound_new (terms : CallTerms) (request : ExecuteRequest) : (new terms request).Sound :=
  .going (c := .new terms request) rfl

/-! ### What sound conducts are like -/

/-- All that a call does that ends with a connection. -/
def script (s : Server) (how : CallEnd) : List Dealing := [.take, .get s, release s how, .leave]

/-- What can be relied on of a call. It has its worker as long as it has its connection; it gets one
connection at most, and lets go of no other and not twice; it gives the connection back if it ended
with a response, and throws it away if it ended otherwise. As long as it goes on it can be brought
to its end; once it has ended, what it did and what it holds still make up the whole of what there
is to do with a connection that was got; and once it is over it has nothing. -/
structure Honest (k : Conduct) : Prop where
  covered : k.isOut = true → k.holdsWorker = true
  got : k.got <+: [k.call.terms.server]
  once : k.givenBack ++ k.discarded <+: k.got
  givenBack : k.givenBack ≠ [] → k.call.Succeeded
  discarded : k.discarded ≠ [] → k.call.isFinished = true ∧ ¬ k.call.Succeeded
  used : k.call.Succeeded → k.got = [k.call.terms.server]
  concludes : k.isOut = true → k.call.isFinished = true ∨ k.call.Concludes
  whole : ∀ how, k.call.end? = some how → k.got ≠ [] →
    k.done ++ k.held.flatMap how.letGo = script k.call.terms.server how
  settled : k.isOver = true → k.holdsWorker = false ∧ k.givenBack ++ k.discarded = k.got

/-- A call that has not come to a connection. -/
theorem honest_of_no_connection (hgot : k.got = []) (hgiven : k.givenBack = [])
    (hdiscarded : k.discarded = []) (hfailed : ¬ k.call.Succeeded)
    (hover : k.isOver = true → k.holdsWorker = false) : k.Honest := by
  have hin : k.isOut = false := by
    rw [isOut, hgot]
    exact decide_eq_false (Nat.not_lt_zero _)
  refine ⟨fun h => ?_, ?_, ?_, fun h => absurd hgiven h, fun h => absurd hdiscarded h,
    fun h => absurd h hfailed, fun h => ?_, fun _ _ h => absurd hgot h, fun h => ⟨hover h, ?_⟩⟩
  · cases hin.symm.trans h
  · rw [hgot]
    exact List.nil_prefix
  · rw [hgiven, hdiscarded]
    exact List.nil_prefix
  · cases hin.symm.trans h
  · rw [hgot, hgiven, hdiscarded]
    rfl

/-- A call that has its connection. -/
theorem honest_of_connection (hgot : k.got = [k.call.terms.server]) (hgiven : k.givenBack = [])
    (hdiscarded : k.discarded = []) (hworker : k.holdsWorker = true) (hover : k.isOver = false)
    (hconcludes : k.call.isFinished = true ∨ k.call.Concludes)
    (hwhole : ∀ how, k.call.end? = some how →
      k.done ++ k.held.flatMap how.letGo = script k.call.terms.server how) : k.Honest where
  covered := fun _ => hworker
  got := hgot ▸ List.prefix_rfl
  once := by
    rw [hgiven, hdiscarded]
    exact List.nil_prefix
  givenBack := fun h => absurd hgiven h
  discarded := fun h => absurd hdiscarded h
  used := fun _ => hgot
  concludes := fun _ => hconcludes
  whole := fun how hend _ => hwhole how hend
  settled := fun h => absurd (hover.symm.trans h) Bool.false_ne_true

/-- A call that has let go of its connection, and has its worker or has left it. -/
theorem honest_of_release {c : Call} {how : CallEnd} {held : List Holding} {rest : List Dealing}
    (hend : c.end? = some how)
    (hrest : held = [.worker] ∧ rest = [] ∨ held = [] ∧ rest = [.leave]) :
    Honest ⟨c, held, .take :: .get c.terms.server :: release c.terms.server how :: rest⟩ := by
  have hsucceeded := Call.succeeded_iff hend
  have hfinished : c.isFinished = true := Call.isFinished_iff.2 ⟨how, hend⟩
  have hwhole (how' : CallEnd) (hend' : c.end? = some how') :
      (.take :: .get c.terms.server :: release c.terms.server how :: rest) ++
        held.flatMap how'.letGo = script c.terms.server how' := by
    obtain rfl := Option.some.inj (hend.symm.trans hend')
    rcases hrest with ⟨rfl, rfl⟩ | ⟨rfl, rfl⟩
    · rw [List.flatMap_singleton, CallEnd.letGo_worker]
      rfl
    · rfl
  rcases Dealing.release_cases c.terms.server how with ⟨hr, hrelease⟩ | ⟨hr, hrelease⟩ <;>
    rw [hrelease] at hwhole ⊢
  · have hgiven : c.Succeeded := hsucceeded.2 hr
    rcases hrest with ⟨rfl, rfl⟩ | ⟨rfl, rfl⟩
    · refine ⟨fun _ => rfl, List.prefix_rfl, List.prefix_rfl, fun _ => hgiven,
        fun h => absurd rfl h, fun _ => rfl, fun _ => .inl hfinished,
        fun how' h _ => hwhole how' h, fun h => ?_⟩
      rw [isOver, hfinished] at h
      cases h
    · exact ⟨(fun h => nomatch h), List.prefix_rfl, List.prefix_rfl, fun _ => hgiven,
        fun h => absurd rfl h, fun _ => rfl, fun _ => .inl hfinished, fun how' h _ => hwhole how' h,
        fun _ => ⟨rfl, rfl⟩⟩
  · have hfailed : ¬ c.Succeeded := fun h => (hsucceeded.1 h).elim hr
    rcases hrest with ⟨rfl, rfl⟩ | ⟨rfl, rfl⟩
    · refine ⟨fun _ => rfl, List.prefix_rfl, List.prefix_rfl, fun h => absurd rfl h,
        fun _ => ⟨hfinished, hfailed⟩, fun _ => rfl, fun _ => .inl hfinished,
        fun how' h _ => hwhole how' h, fun h => ?_⟩
      rw [isOver, hfinished] at h
      cases h
    · exact ⟨(fun h => nomatch h), List.prefix_rfl, List.prefix_rfl, fun h => absurd rfl h,
        fun _ => ⟨hfinished, hfailed⟩, fun _ => rfl, fun _ => .inl hfinished,
        fun how' h _ => hwhole how' h, fun _ => ⟨rfl, rfl⟩⟩

/-! ### Sound conducts are honest -/

/-- A call goes on that has all that it came by. -/
theorem honest_of_going {c : Call} (goes : c.isFinished = false) :
    Honest ⟨c, c.held, c.held.reverse.map Holding.gain⟩ := by
  have hover : isOver ⟨c, c.held, c.held.reverse.map Holding.gain⟩ = false := by
    rw [isOver, goes, Bool.false_and]
  have hfailed := Call.not_succeeded goes
  have hend (how : CallEnd) : c.end? ≠ some how := by
    intro hend
    rw [Call.isFinished, hend] at goes
    cases goes
  rcases c.held_cases with ⟨hholds, hheld⟩ | ⟨-, hheld | hheld⟩ <;> rw [hheld] at hover ⊢
  · exact honest_of_connection rfl rfl rfl rfl hover
      (.inr (Call.concludes_of_holdsConnection hholds)) fun how h => absurd h (hend how)
  · exact honest_of_no_connection rfl rfl rfl hfailed
      fun h => absurd (hover.symm.trans h) Bool.false_ne_true
  · exact honest_of_no_connection rfl rfl rfl hfailed
      fun h => absurd (hover.symm.trans h) Bool.false_ne_true

/-- What a call that ended has let go of, and what it still holds. -/
theorem held_splits {last : Call} {gone held : List Holding} (h : gone ++ held = last.held) :
    last.holdsConnection = true ∧
        (gone = [] ∧ held = [.connection (.acquire last.terms.server), .worker] ∨
          gone = [.connection (.acquire last.terms.server)] ∧ held = [.worker] ∨
          gone = [.connection (.acquire last.terms.server), .worker] ∧ held = []) ∨
      last.holdsConnection = false ∧
        (gone = [] ∧ held = [] ∨ gone = [] ∧ held = [.worker] ∨ gone = [.worker] ∧ held = []) := by
  rcases last.held_cases with ⟨hholds, hheld⟩ | ⟨hnot, hheld | hheld⟩ <;> rw [hheld] at h
  · refine .inl ⟨hholds, ?_⟩
    rcases List.append_eq_cons_iff.1 h with hall | ⟨gone, rfl, hrest⟩
    · exact .inl hall
    · rcases List.append_eq_singleton_iff.1 hrest.symm with ⟨rfl, rfl⟩ | ⟨rfl, rfl⟩
      · exact .inr (.inl ⟨rfl, rfl⟩)
      · exact .inr (.inr ⟨rfl, rfl⟩)
  · exact .inr ⟨hnot, .inl (List.append_eq_nil_iff.1 h)⟩
  · exact .inr ⟨hnot, .inr (List.append_eq_singleton_iff.1 h)⟩

/-- Sound conducts are honest. -/
theorem Sound.honest (h : k.Sound) : k.Honest := by
  cases h with
  | going goes => exact honest_of_going goes
  | @ended last how gone held response split =>
    have hconnection := CallEnd.letGo_connection how last.terms.server
    have hworker := CallEnd.letGo_worker how
    rcases held_splits split with ⟨-, hsplit⟩ | ⟨hnot, hsplit⟩
    · rcases hsplit with ⟨rfl, rfl⟩ | ⟨rfl, rfl⟩ | ⟨rfl, rfl⟩
      · refine honest_of_connection rfl rfl rfl rfl rfl (.inl rfl) fun how' hend => ?_
        obtain rfl := Option.some.inj hend
        rw [List.flatMap_cons, hconnection, List.flatMap_singleton, hworker]
        rfl
      · rw [List.flatMap_singleton, hconnection]
        exact honest_of_release rfl (.inl ⟨rfl, rfl⟩)
      · rw [List.flatMap_cons, hconnection, List.flatMap_singleton, hworker]
        exact honest_of_release rfl (.inr ⟨rfl, rfl⟩)
    · have hfailed : ¬ (last.finish how).Succeeded := by
        intro hsucceeded
        obtain ⟨r, hr⟩ := (Call.succeeded_iff rfl).1 hsucceeded
        cases hnot.symm.trans (response r hr)
      rcases hsplit with ⟨rfl, rfl⟩ | ⟨rfl, rfl⟩ | ⟨rfl, rfl⟩
      · exact honest_of_no_connection rfl rfl rfl hfailed fun _ => rfl
      · exact honest_of_no_connection rfl rfl rfl hfailed fun h => nomatch h
      · rw [List.flatMap_singleton, hworker]
        exact honest_of_no_connection rfl rfl rfl hfailed fun _ => rfl

/-- A call has a worker as long as it holds it. -/
theorem Sound.holdsWorker_eq (h : k.Sound) : k.holdsWorker = k.held.contains .worker := by
  cases h with
  | @going c goes =>
    rcases c.held_cases with ⟨-, hheld⟩ | ⟨-, hheld | hheld⟩ <;> rw [hheld] <;> rfl
  | @ended last how gone held response split =>
    have hconnection := CallEnd.letGo_connection how last.terms.server
    have hworker := CallEnd.letGo_worker how
    have hstays : .leave ≠ release last.terms.server how := by
      rcases Dealing.release_cases last.terms.server how with ⟨-, h⟩ | ⟨-, h⟩ <;> rw [h] <;> nofun
    rcases held_splits split with ⟨-, hsplit⟩ | ⟨-, hsplit⟩ <;>
      rcases hsplit with ⟨rfl, rfl⟩ | ⟨rfl, rfl⟩ | ⟨rfl, rfl⟩ <;>
      simp [holdsWorker, hconnection, hworker, hstays, Holding.gain]

/-! ### What becomes of sound conducts -/

/-- The call comes by something. -/
theorem hear_of_gain {c : Call} {x : Holding} (hstep : (k.call.step now e).1 = c)
    (hheld : c.held = x :: k.call.held) :
    k.hear now e = ⟨c, x :: k.held, k.done ++ [x.gain]⟩ := by
  rw [hear, hstep, hheld, List.length_cons, Nat.add_sub_cancel_left]
  rfl

/-- The call comes by nothing, and keeps what it has. -/
theorem hear_of_no_gain {c : Call} (hstep : (k.call.step now e).1 = c)
    (hheld : c.held.length ≤ k.call.held.length) : k.hear now e = ⟨c, k.held, k.done⟩ := by
  rw [hear, hstep, Nat.sub_eq_zero_of_le hheld, List.take_zero, List.reverse_nil, List.map_nil,
    List.append_nil, List.nil_append]

/-- A call that comes by something holds it on top. -/
theorem sound_of_gain {c c' : Call} {x : Holding} (goes : c'.isFinished = false)
    (hheld : c'.held = x :: c.held) :
    Sound ⟨c', x :: c.held, c.held.reverse.map Holding.gain ++ [x.gain]⟩ := by
  have hdone : c'.held.reverse.map Holding.gain =
      c.held.reverse.map Holding.gain ++ [x.gain] := by
    rw [hheld, List.reverse_cons, List.map_append]
    rfl
  rw [← hdone, ← hheld]
  exact .going goes

/-- A call that ended has let go of nothing yet. -/
theorem sound_of_end {c : Call} {how : CallEnd}
    (response : ∀ r, how = .returned (.ok r) → c.holdsConnection = true) :
    Sound ⟨c.finish how, c.held, c.held.reverse.map Holding.gain⟩ := by
  have hended : Sound ⟨c.finish how, c.held,
      ([] ++ c.held).reverse.map Holding.gain ++ [].flatMap how.letGo⟩ := .ended response rfl
  rwa [List.flatMap_nil, List.append_nil] at hended

/-- Whatever a call hears, it stays sound; and it has a worker after only if it had one, or a worker
took it up. -/
theorem Sound.hear (h : k.Sound) (now : Nat) (e : CallEvent) :
    (k.hear now e).Sound ∧ ((k.hear now e).holdsWorker = k.holdsWorker ∨ e = .admitted) := by
  cases h with
  | @going c goes =>
    have hproceeds := c.proceeds_step now e
    generalize hstep : c.step now e = after at hproceeds
    cases hproceeds with
    | nothing =>
      rw [hear_of_no_gain (congrArg Prod.fst hstep) (Nat.le_refl _)]
      exact ⟨.going goes, .inl rfl⟩
    | admitted stage event =>
      have hheld : ({ c with stage := .connecting } : Call).held = .worker :: c.held := by
        rw [Call.held_of_queued stage]
        rfl
      rw [hear_of_gain (congrArg Prod.fst hstep) hheld]
      exact ⟨sound_of_gain rfl hheld, .inr event⟩
    | connected stage =>
      have hheld : ({ c with stage := .executing now } : Call).held =
          .connection (.acquire c.terms.server) :: c.held := by
        rw [Call.held_of_connecting stage]
        rfl
      have hsound : Sound ⟨{ c with stage := .executing now },
          .connection (.acquire c.terms.server) :: c.held, _⟩ := sound_of_gain rfl hheld
      rw [hear_of_gain (congrArg Prod.fst hstep) hheld]
      refine ⟨hsound, .inl ?_⟩
      rw [hsound.holdsWorker_eq, Sound.holdsWorker_eq (.going goes)]
      rfl
    | @comesBack started id holds =>
      have hheld : ({ c with stage := .reconnecting started id } : Call).held = c.held := by
        rw [Call.held_of_holdsConnection holds]
        rfl
      rw [hear_of_no_gain (congrArg Prod.fst hstep) (Nat.le_of_eq (congrArg List.length hheld))]
      refine ⟨?_, .inl rfl⟩
      change Sound ⟨_, c.held, c.held.reverse.map Holding.gain⟩
      rw [← hheld]
      exact .going rfl
    | @ends how goes response =>
      rw [hear_of_no_gain (congrArg Prod.fst hstep) (Nat.zero_le _)]
      exact ⟨sound_of_end response, .inl rfl⟩
  | @ended last how gone held response split =>
    have hstep : ((last.finish how).step now e).1 = last.finish how :=
      congrArg Prod.fst (Call.step_of_ended rfl e)
    rw [hear_of_no_gain hstep (Nat.le_refl _)]
    exact ⟨.ended response split, .inl rfl⟩

/-- To be told to stop changes nothing of what a call holds. -/
theorem Sound.requestStop (h : k.Sound) : Sound { k with call := k.call.requestStop } := by
  cases h with
  | @going c goes =>
    have hstop : c.requestStop = { c with stopping := true } := by
      rw [Call.requestStop, goes]
      rfl
    rw [hstop]
    exact .going (c := { c with stopping := true }) goes
  | ended response split => exact .ended response split

/-- A call that has ended lets go of one thing. -/
theorem Sound.letGo (h : k.Sound) {how : CallEnd} {x : Holding} {rest : List Holding}
    (hend : k.call.end? = some how) (hheld : k.held = x :: rest) :
    Sound ⟨k.call, rest, k.done ++ how.letGo x⟩ := by
  cases h with
  | going goes =>
    rw [Call.isFinished, hend] at goes
    cases goes
  | @ended last how' gone held response split =>
    obtain rfl := Option.some.inj hend
    obtain rfl : held = x :: rest := hheld
    have hsplit : (gone ++ [x]) ++ rest = last.held := by
      rw [List.append_assoc]
      exact split
    have hsound := Sound.ended response hsplit
    rw [List.append_assoc, List.flatMap_append, List.flatMap_singleton, ← List.append_assoc]
      at hsound
    exact hsound

end Conduct

/-! ## Workshops -/

/-- Calls that share workers, with what they hold and what they have done. -/
structure Workshop where
  capacity : Nat
  conducts : List Conduct

namespace Workshop

/-- So many workers without calls, at least one. -/
def new (workers : Nat) : Workshop := ⟨(Workers.new workers).capacity, []⟩

/-- How many calls have a worker. -/
def inFlight (w : Workshop) : Nat := w.conducts.countP (·.holdsWorker)

/-- Sets the call at a place. -/
def set (w : Workshop) (place : Nat) (k : Conduct) : Workshop :=
  { w with conducts := w.conducts.set place k }

/-- What can happen next. -/
inductive Turn (w : Workshop) : Workshop → Prop where
  | submit (terms : CallTerms) (request : ExecuteRequest) :
      Turn w { w with conducts := w.conducts ++ [.new terms request] }
  | requestStop {place : Nat} {k : Conduct} (hk : w.conducts[place]? = some k) :
      Turn w (w.set place { k with call := k.call.requestStop })
  /-- something happens to a call; a worker takes it up only if one is free -/
  | hear {place : Nat} {k : Conduct} (now : Nat) (e : CallEvent)
      (hk : w.conducts[place]? = some k) (free : e = .admitted → w.inFlight < w.capacity) :
      Turn w (w.set place (k.hear now e))
  /-- a call that has ended lets go of the latest of what it holds -/
  | letGo {place : Nat} {k : Conduct} {how : CallEnd} {x : Holding} {rest : List Holding}
      (hk : w.conducts[place]? = some k) (hend : k.call.end? = some how)
      (hheld : k.held = x :: rest) :
      Turn w (w.set place ⟨k.call, rest, k.done ++ how.letGo x⟩)

/-- What can come of so many workers without calls. -/
def Course (workers : Nat) : Workshop → Prop := Relation.ReflTransGen Turn (new workers)

/-- What holds at every moment: there are not more calls with a worker than workers, all calls are
honest, and when all calls are over no connection is out and no worker is taken. -/
structure Conserves (w : Workshop) : Prop where
  bounded : w.inFlight ≤ w.capacity
  honest : ∀ k ∈ w.conducts, k.Honest
  idle : (∀ k ∈ w.conducts, k.isOver = true) →
    w.inFlight = 0 ∧ ∀ k ∈ w.conducts, k.isOut = false

/-- All calls are sound, and there are not more with a worker than workers. -/
structure Sound (workers : Nat) (w : Workshop) : Prop where
  capacity_eq : w.capacity = max workers 1
  conducts : ∀ k ∈ w.conducts, k.Sound
  bounded : w.inFlight ≤ w.capacity

variable {w w' : Workshop} {workers place : Nat} {k k' : Conduct}

theorem sound_new (workers : Nat) : (new workers).Sound workers :=
  ⟨rfl, (fun _ hk => nomatch hk), Nat.zero_le _⟩

theorem Sound.conduct (h : w.Sound workers) (hk : w.conducts[place]? = some k) : k.Sound :=
  h.conducts k (List.mem_of_getElem? hk)

/-- A call changes that has a worker only if it had one, or if one was free. -/
theorem Sound.set (h : w.Sound workers) (hk : w.conducts[place]? = some k) (hk' : k'.Sound)
    (hworker : k'.holdsWorker = true → k.holdsWorker = true ∨ w.inFlight < w.capacity) :
    (w.set place k').Sound workers := by
  obtain ⟨hlt, hget⟩ := List.getElem?_eq_some_iff.1 hk
  refine ⟨h.capacity_eq, fun k'' hmem => ?_, ?_⟩
  · rcases List.mem_or_eq_of_mem_set hmem with hmem | rfl
    · exact h.conducts k'' hmem
    · exact hk'
  · have hbounded : w.conducts.countP (·.holdsWorker) ≤ w.capacity := h.bounded
    change (w.conducts.set place k').countP (·.holdsWorker) ≤ w.capacity
    rw [List.countP_set hlt, hget]
    by_cases hafter : k'.holdsWorker = true
    · rw [if_pos hafter]
      rcases hworker hafter with hbefore | hfree
      · have hpos : 0 < w.conducts.countP (·.holdsWorker) :=
          List.countP_pos_iff.2 ⟨k, List.mem_of_getElem? hk, hbefore⟩
        rw [if_pos hbefore]
        omega
      · change w.conducts.countP (·.holdsWorker) < w.capacity at hfree
        split <;> omega
    · rw [if_neg hafter]
      omega

/-- Whatever happens next, all calls are sound, and none has a worker too many. -/
theorem Turn.sound (hturn : Turn w w') (h : w.Sound workers) : w'.Sound workers := by
  cases hturn with
  | submit terms request =>
    refine ⟨h.capacity_eq, fun k hmem => ?_, ?_⟩
    · rcases List.mem_append.1 hmem with hmem | hmem
      · exact h.conducts k hmem
      · rw [List.mem_singleton.1 hmem]
        exact Conduct.sound_new terms request
    · rw [inFlight, List.countP_append]
      exact h.bounded
  | @requestStop place k hk =>
    exact h.set hk (h.conduct hk).requestStop .inl
  | hear now e hk free =>
    obtain ⟨hsound, hworker⟩ := (h.conduct hk).hear now e
    refine h.set hk hsound fun hafter => ?_
    rcases hworker with hsame | hadmitted
    · exact .inl (hsame ▸ hafter)
    · exact .inr (free hadmitted)
  | letGo hk hend hheld =>
    have hsound := (h.conduct hk).letGo hend hheld
    refine h.set hk hsound fun hafter => .inl ?_
    rw [hsound.holdsWorker_eq] at hafter
    rw [(h.conduct hk).holdsWorker_eq, hheld, List.contains_cons, hafter, Bool.or_true]

/-- At every moment. -/
theorem sound_of_course (h : Course workers w) : w.Sound workers := by
  induction h with
  | refl => exact sound_new workers
  | tail _ hturn ih => exact hturn.sound ih

/-- A workshop whose calls are sound conserves workers and connections. -/
theorem Sound.conserves (h : w.Sound workers) : w.Conserves where
  bounded := h.bounded
  honest := fun k hk => (h.conducts k hk).honest
  idle := by
    intro hover
    have hnone (k : Conduct) (hk : k ∈ w.conducts) : k.holdsWorker = false :=
      ((h.conducts k hk).honest.settled (hover k hk)).1
    refine ⟨List.countP_eq_zero.2 fun k hk => by rw [hnone k hk]; exact Bool.false_ne_true,
      fun k hk => ?_⟩
    refine Bool.eq_false_iff.2 fun hout => ?_
    have hworker := (h.conducts k hk).honest.covered hout
    rw [hnone k hk] at hworker
    cases hworker

end Workshop

end ScatterSearch
