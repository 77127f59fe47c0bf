import ScatterSearch.Proofs.Call.Talk
import ScatterSearch.Proofs.Scatter.Outcomes

/-!
# Isolation of failures

Each server that an index read calls has a talk of its own with its call. So what is reported of its
shards follows from what this server does, and the same is reported if every other server behaves in
another way, is slower or is not reached at all (`Executor.same_entries`).

`Executor.index_read_by_own_server` says all of an index read over a layout without shared shards:
what it reports, when, and what of it depends on what.
-/

namespace ScatterSearch

namespace Executor

variable {x : Executor} {c : Command} {value : Decoder Json} {arguments : Json}
  {planned earlier later : List PlannedCall} {p : PlannedCall} {remote : Remote}
  {allOrNothing : Bool} {now : Nat} {u : Timed Executor} {s : Shard} {server : Server}

/-- Nothing is going on: all calls have ended, and nobody waits for anything. -/
structure Rests (x : Executor) : Prop where
  ended : ∀ call ∈ x.outbound.workers.calls, call.isFinished = true
  waits : x.outbound.waits = []

theorem rests_new (layout : Layout) (config : ExecutorConfig) (network : Network) :
    (new layout config network).Rests where
  ended := fun _ h => nomatch h
  waits := rfl

/-- The talk of a planned call with its server. -/
def talk (x : Executor) (earlier : List PlannedCall) (p : PlannedCall) (remote : Remote) :
    Talk where
  place := x.outbound.workers.calls.length + earlier.length
  terms := ⟨p.server, x.budget⟩
  request := p.request
  remote
  asked := x.outbound.network.contact p.server

/-- Once a plan is submitted, each of its calls is the only one that talks to its server. -/
theorem goes_submitted (now : Nat) (hvalid : x.layout.Valid) (hrests : x.Rests)
    (hcalls : c.calls .indexRead arguments x.layout = earlier ++ p :: later)
    (hroute : x.outbound.network.route p.server = .remote remote) :
    (x.talk earlier p remote).Goes ((x.talk earlier p remote).Thinks now) now
      (submitted x.budget (c.calls .indexRead arguments x.layout) x.outbound).2 := by
  have hwaits : (submitted x.budget (c.calls .indexRead arguments x.layout) x.outbound).2.waits =
      [] := by
    rw [outbound_submitted]
    exact hrests.waits
  have hticket : ∀ place,
      (submitted x.budget (c.calls .indexRead arguments x.layout) x.outbound).2.ticket? place =
        none := by
    intro place
    rw [Outbound.ticket?, hwaits]
    rfl
  have hnetwork :
      (submitted x.budget (c.calls .indexRead arguments x.layout) x.outbound).2.network =
        x.outbound.network := by rw [outbound_submitted]
  refine ⟨.queued (getElem?_submitted x.budget x.outbound hcalls) (hticket _) ?_,
    ⟨⟨?_, ?_⟩, ?_, ?_⟩⟩
  · rw [hnetwork]
    rfl
  · intro place t ht
    rw [hticket] at ht
    cases ht
  · intro place other t ht
    rw [hticket] at ht
    cases ht
  · intro other call hother hcall hserver
    rw [outbound_submitted, List.getElem?_append] at hcall
    split at hcall
    · exact hrests.ended call (List.mem_of_getElem? hcall)
    · -- no two calls of a plan go to one server
      rename_i hge
      rw [freshCalls, List.getElem?_map, Option.map_eq_some_iff] at hcall
      obtain ⟨q, hq, rfl⟩ := hcall
      have hp : (c.calls .indexRead arguments x.layout)[earlier.length]? = some p := by
        rw [hcalls]
        simp
      have hplace := Command.place_eq_of_server_eq hvalid hp hq hserver.symm
      refine absurd ?_ hother
      change other = x.outbound.workers.calls.length + earlier.length
      omega
  · rw [hnetwork]
    exact hroute

/-! ## Runs in which nobody interferes -/

/-- Through a run in which nobody interferes, a talk goes on as it has to. -/
theorem goes_of_run {k : Talk} {t : Timed Executor}
    (hrun : Run machine Deed.perform t [] u)
    (h : k.Goes (k.Thinks t.now) t.now t.state.outbound) :
    k.Goes (k.Thinks u.now) u.now u.state.outbound := by
  refine hrun.invariant
    (I := fun trace u => trace = [] → k.Goes (k.Thinks u.now) u.now u.state.outbound)
    (fun _ => h) ?fire ?pass ?act rfl
  case fire =>
    intro trace u due hgoes hdue hle htrace
    change k.Goes _ _ (u.state.fire u.now).outbound
    rw [outbound_fire]
    exact (hgoes htrace).fire
  case pass =>
    intro trace u later hgoes hle hdue htrace
    refine ⟨(hgoes htrace).1.pass fun d houtbound => ?_, (hgoes htrace).2⟩
    -- a read that can end is due at once
    by_cases hreads : (u.state.reads.any fun r =>
        r.gathered.isNone && (u.state.gather? r).isSome) = true
    · have hzero : later ≤ 0 := hdue 0 (by change u.state.due = _; rw [due, if_pos hreads])
      exact Nat.le_trans hzero (Nat.zero_le d)
    · exact hdue d (by change u.state.due = _; rw [due, if_neg hreads, houtbound])
  case act =>
    intro trace u d hgoes htrace
    exact absurd htrace (by simp)

/-- The call to a server ends as its talk with the server does, whatever else there is. -/
theorem ends_of_run (hvalid : x.layout.Valid) (hrests : x.Rests)
    (hplan : c.plan .indexRead x.limits x.layout = .ok (c.calls .indexRead arguments x.layout))
    (hcalls : c.calls .indexRead arguments x.layout = earlier ++ p :: later)
    (hroute : x.outbound.network.route p.server = .remote remote)
    (hrun : Run machine Deed.perform ⟨now, (x.read .indexRead allOrNothing c value).2⟩ [] u)
    {call : Call} {how : CallEnd}
    (hcall : u.state.outbound.workers.calls[x.outbound.workers.calls.length + earlier.length]? =
      some call) (hend : call.end? = some how) : (x.talk earlier p remote).Ends how := by
  have hread : (x.read .indexRead allOrNothing c value).2.outbound =
      (submitted x.budget (c.calls .indexRead arguments x.layout) x.outbound).2 :=
    congrArg (·.2.outbound) (startWithin_ok x.budget hplan)
  have hstart := goes_submitted now hvalid hrests hcalls hroute
  rw [← hread] at hstart
  exact (goes_of_run hrun hstart).1.ends hcall hend

/-! ## Isolation -/

/-- The same is reported of a shard. -/
def SameEntry (s : Shard) (g g' : Gathered Json) : Prop :=
  (∀ v, (.shard s, v) ∈ g.values ↔ (.shard s, v) ∈ g'.values) ∧
    ∀ e, (.shard s, e) ∈ g.failures ↔ (.shard s, e) ∈ g'.failures

/-- The executor amid a network in which servers may behave in another way. -/
def amid (x : Executor) (network : Network) : Executor :=
  { x with outbound := { x.outbound with network } }

theorem Rests.amid (h : x.Rests) (network : Network) : (x.amid network).Rests := ⟨h.ended, h.waits⟩

/-- The end of the call to a server decides what is reported of a shard of the server, and follows
from the talk with the server. -/
theorem entry_by_talk (hvalid : x.layout.Valid) (hdisjoint : x.layout.Disjoint) (hrests : x.Rests)
    (hplan : c.plan .indexRead x.limits x.layout = .ok (c.calls .indexRead arguments x.layout))
    (hcalls : c.calls .indexRead arguments x.layout = earlier ++ p :: later)
    (hs : s ∈ p.request.shards)
    (hroute : x.outbound.network.route p.server = .remote remote)
    (hrun : Run machine Deed.perform ⟨now, (x.read .indexRead allOrNothing c value).2⟩ [] u)
    {g : Gathered Json} (hresult : u.state.gathered? x.reads.length = some (.ok g)) :
    ∃ how, (x.talk earlier p remote).Ends how ∧
      Entry value (x.outbound.workers.calls.length + earlier.length) p.server how s g := by
  obtain ⟨hfinished, hg⟩ := gathered_of_run hplan hrun hresult
  obtain rfl := Except.ok.inj hg
  have hhandle := (mem_handed_shard hvalid hdisjoint hcalls hs).2 rfl
  obtain ⟨call, how, hcall, -, -, hend, hentry⟩ := entry_of_call value hvalid hdisjoint
    hcalls hs (goesOn_submitted hplan hrun) (hfinished _ hhandle)
  exact ⟨how, ends_of_run hvalid hrests hplan hcalls hroute hrun hcall hend, hentry⟩

/-- What is reported of a server's shards is the same, however all other servers behave. -/
theorem same_entries (hvalid : x.layout.Valid) (hdisjoint : x.layout.Disjoint) (hrests : x.Rests)
    (hplan : c.plan .indexRead x.limits x.layout = .ok planned) {network : Network}
    (hroute : x.outbound.network.route server = .remote remote)
    (hroute' : network.route server = .remote remote)
    (hcontact : network.contact server = x.outbound.network.contact server)
    {allOrNothing' : Bool} {now' : Nat} {u' : Timed Executor}
    (hrun : Run machine Deed.perform ⟨now, (x.read .indexRead allOrNothing c value).2⟩ [] u)
    (hrun' : Run machine Deed.perform
      ⟨now', ((x.amid network).read .indexRead allOrNothing' c value).2⟩ [] u')
    {g g' : Gathered Json} (hresult : u.state.gathered? x.reads.length = some (.ok g))
    (hresult' : u'.state.gathered? x.reads.length = some (.ok g'))
    (hserved : s ∈ x.layout.served server) (hselected : c.Selects s) : SameEntry s g g' := by
  obtain ⟨arguments, -, rfl⟩ := Command.calls_of_plan hplan
  obtain ⟨p, hp, rfl⟩ := List.mem_map.1 (Command.mem_servers_calls.2 ⟨s, hserved, hselected⟩)
  obtain ⟨earlier, later, hcalls⟩ := List.append_of_mem hp
  have hs := (Command.mem_shards hp).2 ⟨hserved, hselected⟩
  obtain ⟨how, hends, hentry⟩ :=
    entry_by_talk hvalid hdisjoint hrests hplan hcalls hs hroute hrun hresult
  obtain ⟨how', hends', hentry'⟩ := entry_by_talk (x := x.amid network) hvalid hdisjoint
    (hrests.amid network) hplan hcalls hs hroute' hrun' hresult'
  -- the two talks are one
  have htalk : (x.amid network).talk earlier p remote = x.talk earlier p remote := by
    rw [talk, talk]
    exact congrArg (Talk.mk _ _ _ _) hcontact
  obtain rfl := hends.unique (htalk ▸ hends')
  exact ⟨fun v => (hentry.value_iff v).trans (hentry'.value_iff v).symm,
    fun e => (hentry.failure_iff e).trans (hentry'.failure_iff e).symm⟩

/-- An index read over a layout in which no shard is on two servers. A command that is refused has
no other result than that. Else the read has no result before all its calls have ended, and has one
at the next turn after that; it reports every selected shard once, by the end of its own server's
call (`Reports`). If nobody interferes with an executor at rest, what is reported of the shards of a
server is the same whatever any other server does. -/
theorem index_read_by_own_server (hvalid : x.layout.Valid) (hdisjoint : x.layout.Disjoint)
    (c : Command) (value : Decoder Json) (allOrNothing : Bool) (now : Nat) :
    (∀ e, c.plan .indexRead x.limits x.layout = .error e →
      ∀ trace u,
        Run machine Deed.perform ⟨now, (x.read .indexRead allOrNothing c value).2⟩ trace u →
        (∀ result, u.state.gathered? x.reads.length = some result → result = .error e) ∧
          (u.state.fire u.now).gathered? x.reads.length = some (.error e)) ∧
    ∀ planned, c.plan .indexRead x.limits x.layout = .ok planned →
      (∀ trace u,
        Run machine Deed.perform ⟨now, (x.read .indexRead allOrNothing c value).2⟩ trace u →
        (∀ result, u.state.gathered? x.reads.length = some result →
          ∃ g, result = .ok g ∧ Reports x c value planned.length u.state g) ∧
        ((∀ i < planned.length, u.state.outbound.workers.isFinished
            (x.outbound.workers.calls.length + i) = true) →
          ((u.state.fire u.now).gathered? x.reads.length).isSome = true ∧
          (u.state.gathered? x.reads.length = none → machine.due u.state = some 0))) ∧
      (x.Rests → ∀ (server : Server) (remote : Remote) (network : Network),
        x.outbound.network.route server = .remote remote →
        network.route server = .remote remote →
        network.contact server = x.outbound.network.contact server →
        ∀ u u' now' allOrNothing' g g',
          Run machine Deed.perform ⟨now, (x.read .indexRead allOrNothing c value).2⟩ [] u →
          Run machine Deed.perform
            ⟨now', ((x.amid network).read .indexRead allOrNothing' c value).2⟩ [] u' →
          u.state.gathered? x.reads.length = some (.ok g) →
          u'.state.gathered? x.reads.length = some (.ok g') →
          ∀ s ∈ x.layout.served server, c.Selects s → SameEntry s g g') := by
  refine ⟨fun e hplan trace u hrun => ?_, fun planned hplan => ⟨fun trace u hrun => ⟨?_, ?_⟩, ?_⟩⟩
  · have hreads := Reads.of_run hrun (reads_read .indexRead allOrNothing c value)
    have hstart : (x.start .indexRead c).1 = .error e :=
      congrArg Prod.fst (startWithin_error x.budget hplan)
    rw [hstart] at hreads
    refine ⟨fun result hresult => ?_, (hreads.returns rfl u.now).1⟩
    exact (Option.some.inj (hreads.gather? hresult)).symm
  · exact fun result hresult => reports_of_run hvalid hdisjoint hplan hrun hresult
  · exact returns_of_run hplan hrun
  · intro hrests server remote network hroute hroute' hcontact u u' now' allOrNothing' g g' hrun
      hrun' hresult hresult' s hs hselected
    exact same_entries hvalid hdisjoint hrests hplan hroute hroute' hcontact hrun hrun' hresult
      hresult' hs hselected

/-- A server that takes 5 ms to connect to, and answers a number for each of its shards. -/
def counting : Remote :=
  let reply := Remote.immediate fun r => .answers (.ok (.shardValues (r.shards.map (·, .null))))
  ⟨5, none, reply, reply⟩

/-- A network in which the one server counts, and the other one behaves as it likes. -/
def coupleNetwork (other : Remote) : Network :=
  .new [] [(⟨"a:1"⟩, .remote counting), (⟨"b:1"⟩, .remote other)]
    fun _ => .unreachable 0 (.internal "no such server")

/-- Two servers with one shard each. There is no connection to the second one. -/
def couple : Executor :=
  .new (.ofAssignments [(⟨"a:1"⟩, [⟨"t", "0"⟩]), (⟨"b:1"⟩, [⟨"t", "1"⟩])]) .default
    (coupleNetwork (.unreachable 30 (.internal "refused")))

/-- A read of the table. -/
def coupleCommand : Command := ((CommandParts.named "c").table "t").command

/-- An executor once the read has ended. -/
def readByAll (x : Executor) : Nat × Executor :=
  Clock.await machine (fun x => (x.gathered? 0).isSome) 20 0
    (x.read .indexRead false coupleCommand .any).2

/-- The failure of the second server is no matter to the shard of the first one: the same is
reported of it as if both of them counted. -/
theorem couple_by_own_server : couple.layout.Valid ∧ couple.layout.Disjoint ∧ couple.Rests ∧
    ∃ g g', (readByAll couple).2.gathered? 0 = some (.ok g) ∧
      (readByAll (couple.amid (coupleNetwork counting))).2.gathered? 0 = some (.ok g') ∧
      Reports couple coupleCommand .any 2 (readByAll couple).2 g ∧
      g.isComplete = false ∧ g'.isComplete = true ∧ SameEntry ⟨"t", "0"⟩ g g' := by
  have hvalid : couple.layout.Valid := Layout.valid_ofAssignments _
  have hdisjoint : couple.layout.Disjoint := Layout.disjoint_of_servers (by decide +kernel)
  have hrests : couple.Rests := rests_new _ _ _
  have hplan : coupleCommand.plan .indexRead couple.limits couple.layout =
      .ok (coupleCommand.calls .indexRead .null couple.layout) :=
    Command.plan_of_known rfl (by decide +kernel) (by decide +kernel)
  have hrun : Run machine Deed.perform
      ⟨0, (couple.read .indexRead false coupleCommand .any).2⟩ []
      ⟨(readByAll couple).1, (readByAll couple).2⟩ := Run.await _ 20 0 _
  have hrun' : Run machine Deed.perform
      ⟨0, ((couple.amid (coupleNetwork counting)).read .indexRead false coupleCommand .any).2⟩ []
      ⟨(readByAll (couple.amid (coupleNetwork counting))).1,
        (readByAll (couple.amid (coupleNetwork counting))).2⟩ := Run.await _ 20 0 _
  have hresult : ((readByAll couple).2.gathered? 0).map isFailure = some true := by decide +kernel
  have hresult' : ((readByAll (couple.amid (coupleNetwork counting))).2.gathered? 0).map isFailure =
      some false := by decide +kernel
  obtain ⟨result, hresult, hfails⟩ := Option.map_eq_some_iff.1 hresult
  obtain ⟨result', hresult', hfails'⟩ := Option.map_eq_some_iff.1 hresult'
  obtain ⟨hreads, hsame⟩ :=
    (index_read_by_own_server hvalid hdisjoint coupleCommand .any false 0).2 _ hplan
  obtain ⟨g, rfl, hreports⟩ := (hreads _ _ hrun).1 result hresult
  have hreads' := ((index_read_by_own_server (x := couple.amid (coupleNetwork counting)) hvalid
    hdisjoint coupleCommand .any false 0).2 _ hplan).1
  obtain ⟨g', rfl, -⟩ := (hreads' _ _ hrun').1 result' hresult'
  refine ⟨hvalid, hdisjoint, hrests, g, g', hresult, hresult', hreports, ?_, ?_, ?_⟩
  · simpa [isFailure] using hfails
  · simpa [isFailure] using hfails'
  · exact hsame hrests ⟨"a:1"⟩ counting (coupleNetwork counting) rfl rfl rfl _ _ 0 false g g' hrun
      hrun' hresult hresult' _ (by decide +kernel) rfl

end Executor

end ScatterSearch
