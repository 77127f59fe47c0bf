import ScatterSearch.Call.Network
import ScatterSearch.Proofs.Execution.Answers

/-!
# What exchanges are about

On its way to a node a request passes an exchange, a request of the node's manager and an execution.
`Network.About` says that all of these are about the same request, also where it travels as an id.

`Network.Later` says that one network comes after another: its nodes are faithful, and whoever waits
for something still waits for it. `Later.refl` and `Later.trans` make everything that a network does
out of its steps.
-/

namespace ScatterSearch

variable {now : Nat}

/-! ## Nodes -/

/-- What is expected of a node: its handlers, its index, its name with the shards that it serves by
its own layout, and what comes of these in its executions, but for the first `since` of them. -/
structure Standard where
  since : Nat
  handlers : Handlers
  index : ShardIndex
  /-- whether a node of this name may serve these shards -/
  admits : Server → List Shard → Prop

/-- An outcome of the handlers for a request, with the index as it is. -/
def Standard.Holds (S : Standard) (request : ExecuteRequest) (outcome : Outcome) : Prop :=
  ∃ v : HandlerView, v.request = request ∧ v.index = S.index ∧ S.admits v.server v.served ∧
    outcome = (S.handlers.run v).outcome

/-- For a command with a handler this is what that handler comes to. -/
theorem Standard.Holds.handled {S : Standard} {request : ExecuteRequest} {outcome : Outcome}
    (h : S.Holds request outcome) {f : Handler} (hget : S.handlers.get? request.command = some f) :
    ∃ v : HandlerView, v.request = request ∧ v.index = S.index ∧ S.admits v.server v.served ∧
      outcome = Handlers.checkKind request (f v).outcome := by
  obtain ⟨v, rfl, hindex, hadmits, rfl⟩ := h
  refine ⟨v, rfl, hindex, hadmits, ?_⟩
  rw [Handlers.run, hget]

/-- Whether a node may have any name and serve any shards. -/
def Standard.Tolerant (S : Standard) : Prop := ∀ server served, S.admits server served

namespace Host

/-- A node that keeps to a standard, and that has told the truth about its executions. -/
structure Faithful (S : Standard) (h : Host) : Prop where
  handlers_eq : h.manager.handlers = S.handlers
  index_eq : h.index = S.index
  admits : S.admits h.server (h.layout.served h.server)
  manager : h.manager.Faithful S.since S.Holds

variable {S : Standard} {h : Host}

theorem Faithful.set (hf : h.Faithful S) {m : ExecutionManager} (hm : m.Faithful S.since S.Holds)
    (hextends : h.manager.Extends m) : ({ h with manager := m } : Host).Faithful S := by
  refine ⟨hextends.handlers_eq.trans hf.handlers_eq, hf.index_eq, ?_, hm⟩
  change S.admits m.server (h.layout.served m.server)
  rw [hextends.server_eq]
  exact hf.admits

/-- A node is faithful after its turn. -/
theorem Faithful.fire (hf : h.Faithful S) : (h.fire now).Faithful S := by
  refine hf.set (hf.manager.fire fun request => ?_) (ExecutionManager.extends_fire _ _ _)
  refine ⟨⟨request, h.server, h.layout.served h.server, h.index, some h.manager.inFlight, now⟩, rfl,
    hf.index_eq, hf.admits, ?_⟩
  rw [← hf.handlers_eq]
  rfl

end Host

/-! ## Networks -/

namespace Network

variable {S : Nat → Standard} {n n' n'' : Network} {server : Server}
  {request : ExecuteRequest} {ticket place : Nat}

/-- At the node at a place an id is that of an execution of a request. -/
def Names (S : Nat → Standard) (n : Network) (place : Nat) (id : ExecutionId)
    (request : ExecuteRequest) : Prop :=
  ∃ h : Host, n.hosts[place]? = some h ∧ h.manager.Names (S place).since id request

/-- At the node at a place a request is about a command. -/
def Serves (S : Nat → Standard) (n : Network) (place ticket : Nat) (request : ExecuteRequest) :
    Prop :=
  ∃ h : Host, n.hosts[place]? = some h ∧ h.manager.Serves (S place).since ticket request

/-- An exchange is one with a server about a request. -/
def About (S : Nat → Standard) (n : Network) (server : Server) (request : ExecuteRequest) :
    Exchange → Prop
  | .opening _ _ | .opened _ | .closed => True
  | .thinking _ _ _ | .replied _ => ∀ place latency, n.route server ≠ .host place latency
  | .travelling _ place sent id => (∃ latency, n.route server = .host place latency) ∧
      sent = request ∧ ∀ i, id = some i → n.Names S place i request
  | .served place ticket => (∃ latency, n.route server = .host place latency) ∧
      n.Serves S place ticket request

/-- There is an exchange at a place, with a server about a request. -/
def Awaits (S : Nat → Standard) (n : Network) (ticket : Nat) (server : Server)
    (request : ExecuteRequest) : Prop :=
  ∃ x, n.exchanges[ticket]? = some x ∧ n.About S server request x

/-- A network of faithful nodes. -/
def Faithful (S : Nat → Standard) (n : Network) : Prop :=
  ∀ (place : Nat) (h : Host), n.hosts[place]? = some h → h.Faithful (S place)

/-- A network comes after another one. -/
structure Later (S : Nat → Standard) (n n' : Network) : Prop where
  faithful : n'.Faithful S
  route_eq : n'.route = n.route
  hosts : ∀ (place : Nat) (h : Host), n.hosts[place]? = some h →
    ∃ h', n'.hosts[place]? = some h' ∧ h.manager.Extends h'.manager
  awaits : ∀ ticket server request, n.Awaits S ticket server request →
    n'.Awaits S ticket server request

theorem Later.refl (h : n.Faithful S) : Later S n n :=
  ⟨h, rfl, fun _ h hh => ⟨h, hh, .refl _⟩, fun _ _ _ h => h⟩

theorem Later.trans (h : Later S n n') (h' : Later S n' n'') : Later S n n'' where
  faithful := h'.faithful
  route_eq := h'.route_eq.trans h.route_eq
  hosts := by
    intro place host hhost
    obtain ⟨host', hhost', hextends⟩ := h.hosts place host hhost
    obtain ⟨host'', hhost'', hextends'⟩ := h'.hosts place host' hhost'
    exact ⟨host'', hhost'', hextends.trans hextends'⟩
  awaits := fun ticket server request hawaits =>
    h'.awaits ticket server request (h.awaits ticket server request hawaits)

/-- An id keeps its meaning. -/
theorem Later.names (h : Later S n n') {id : ExecutionId} (hnames : n.Names S place id request) :
    n'.Names S place id request := by
  obtain ⟨host, hhost, hname⟩ := hnames
  obtain ⟨host', hhost', hextends⟩ := h.hosts place host hhost
  exact ⟨host', hhost', hextends.names hname⟩

/-- What is said of exchanges stays true while nodes go on. -/
theorem About.mono (hroute : n'.route = n.route)
    (hhosts : ∀ (place : Nat) (h : Host), n.hosts[place]? = some h →
      ∃ h', n'.hosts[place]? = some h' ∧ h.manager.Extends h'.manager)
    {x : Exchange} (h : n.About S server request x) : n'.About S server request x := by
  cases x with
  | opening due outcome => trivial
  | opened outcome => trivial
  | closed => trivial
  | thinking due target reply =>
    intro place latency
    rw [hroute]
    exact h place latency
  | replied reply =>
    intro place latency
    rw [hroute]
    exact h place latency
  | travelling due place sent id =>
    obtain ⟨⟨latency, hlatency⟩, hsent, hid⟩ := h
    refine ⟨⟨latency, hroute ▸ hlatency⟩, hsent, fun i hi => ?_⟩
    obtain ⟨host, hhost, hnames⟩ := hid i hi
    obtain ⟨host', hhost', hextends⟩ := hhosts place host hhost
    exact ⟨host', hhost', hextends.names hnames⟩
  | served place t =>
    -- the request stays at its place in the node's list
    obtain ⟨⟨latency, hlatency⟩, host, hhost, hserves⟩ := h
    obtain ⟨host', hhost', hextends⟩ := hhosts place host hhost
    exact ⟨⟨latency, hroute ▸ hlatency⟩, host', hhost', hextends.serves hserves⟩

/-- Nodes go on. -/
theorem Faithful.later_of_hosts (hf : n.Faithful S) {hosts : List Host}
    (hhosts : ∀ (place : Nat) (h' : Host), hosts[place]? = some h' →
      ∃ h, n.hosts[place]? = some h ∧ (h.Faithful (S place) → h'.Faithful (S place)) ∧
        h.manager.Extends h'.manager)
    (hlength : hosts.length = n.hosts.length) : Later S n { n with hosts } := by
  have hgoes : ∀ (place : Nat) (h : Host), n.hosts[place]? = some h →
      ∃ h', hosts[place]? = some h' ∧ h.manager.Extends h'.manager := by
    intro place host hhost
    have hlt : place < hosts.length := by
      rw [hlength]
      exact (List.getElem?_eq_some_iff.1 hhost).1
    obtain ⟨host₀, hhost₀, -, hextends⟩ := hhosts place _ (List.getElem?_eq_getElem hlt)
    obtain rfl := Option.some.inj (hhost₀.symm.trans hhost)
    exact ⟨_, List.getElem?_eq_getElem hlt, hextends⟩
  have hroute : ({ n with hosts } : Network).route = n.route := rfl
  refine ⟨fun place host' hhost' => ?_, hroute, hgoes, fun ticket server request hawaits => ?_⟩
  · obtain ⟨host, hhost, hfaithful, -⟩ := hhosts place host' hhost'
    exact hfaithful (hf place host hhost)
  · obtain ⟨x, hx, habout⟩ := hawaits
    exact ⟨x, hx, habout.mono hroute hgoes⟩

/-- One node goes on. -/
theorem Faithful.later_set (hf : n.Faithful S) {h h' : Host} (hh : n.hosts[place]? = some h)
    (hfaithful : h.Faithful (S place) → h'.Faithful (S place))
    (hextends : h.manager.Extends h'.manager) :
    Later S n { n with hosts := n.hosts.set place h' } := by
  refine hf.later_of_hosts (fun place' host' hhost' => ?_) (List.length_set ..)
  rw [List.getElem?_set] at hhost'
  split at hhost'
  · rename_i heq
    subst heq
    split at hhost'
    · obtain rfl := Option.some.inj hhost'
      exact ⟨h, hh, hfaithful, hextends⟩
    · cases hhost'
  · exact ⟨host', hhost', id, .refl _⟩

/-- One exchange goes on as well. -/
theorem Later.exchange (h : Later S n n') {x' : Exchange}
    (hx' : ∀ x server request, n.exchanges[ticket]? = some x → n.About S server request x →
      n'.About S server request x') :
    Later S n { n' with exchanges := n'.exchanges.set ticket x' } := by
  refine ⟨h.faithful, h.route_eq, h.hosts, fun t server request hawaits => ?_⟩
  obtain ⟨x'', hx'', habout⟩ := h.awaits t server request hawaits
  by_cases ht : ticket = t
  · subst ht
    obtain ⟨x, hx, habout⟩ := hawaits
    refine ⟨x', ?_, hx' x server request hx habout⟩
    exact List.getElem?_set_self (List.getElem?_eq_some_iff.1 hx'').1
  · exact ⟨x'', by rw [← hx'']; exact List.getElem?_set_ne ht, habout⟩

theorem Faithful.close (hf : n.Faithful S) (ticket : Nat) : Later S n (n.close ticket) :=
  (Later.refl hf).exchange fun _ _ _ _ _ => trivial

/-- A new exchange leaves the others as they are. -/
theorem Faithful.push (hf : n.Faithful S) (x : Exchange) : Later S n (n.push x).2 := by
  refine ⟨hf, rfl, fun _ h hh => ⟨h, hh, .refl _⟩, fun t server request hawaits => ?_⟩
  obtain ⟨x', hx', habout⟩ := hawaits
  exact ⟨x', Lists.getElem?_of_prefix (List.prefix_append _ _) hx', habout⟩

theorem awaits_push {x : Exchange} (h : n.About S server request x) :
    (n.push x).2.Awaits S (n.push x).1 server request :=
  ⟨x, List.getElem?_concat_length, h⟩

theorem Faithful.contact (hf : n.Faithful S) (contacts : Assoc Server Contact) :
    Later S n { n with contacts } :=
  ⟨hf, rfl, fun _ h hh => ⟨h, hh, .refl _⟩, fun _ _ _ h => h⟩

/-- Whoever connects waits for a connection. -/
theorem Faithful.connect (hf : n.Faithful S) (server : Server) (request : ExecuteRequest) :
    Later S n (n.connect now server).2 ∧
      (n.connect now server).2.Awaits S (n.connect now server).1 server request := by
  rw [Network.connect]
  split
  · exact ⟨hf.push _, awaits_push trivial⟩
  · exact ⟨hf.push _, awaits_push trivial⟩

/-- Whoever sends a request waits for an answer to it, if the id that is sent is that of the
request. -/
theorem Faithful.send (hf : n.Faithful S) (server : Server) (request : ExecuteRequest)
    (id : Option ExecutionId) :
    Later S n (n.send now server request id).2 ∧
      ((∀ place latency i, n.route server = .host place latency → id = some i →
          n.Names S place i request) →
        (n.send now server request id).2.Awaits S (n.send now server request id).1 server
          request) := by
  rw [Network.send]
  split
  · rename_i place latency hroute
    refine ⟨hf.push _, fun hid => awaits_push ⟨⟨latency, hroute⟩, rfl, fun i hi => ?_⟩⟩
    exact hid place latency i hroute hi
  · rename_i r hroute
    have hcontact := hf.contact (n.contacts.put server ((n.contact server).ask r request id).2)
    refine ⟨hcontact.trans (hcontact.faithful.push _), fun _ => awaits_push ?_⟩
    intro place latency hhost
    have hsame : n.route server = .host place latency := hhost
    rw [hroute] at hsame
    cases hsame

theorem deliver_eq {h : Host} (hh : n.hosts[place]? = some h) (id : Option ExecutionId) :
    n.deliver now ticket place request id =
      { n with
        hosts := n.hosts.set place { h with manager := (h.manager.receive now request id).2 }
        exchanges :=
          n.exchanges.set ticket (.served place (h.manager.receive now request id).1) } := by
  rw [deliver]
  simp only [hh]
  cases id <;> rfl

/-- A node that is handed what travelled to it serves it. -/
theorem Faithful.deliver (hf : n.Faithful S) {due : Nat} {sent : ExecuteRequest}
    {id : Option ExecutionId} (hx : n.exchanges[ticket]? = some (.travelling due place sent id)) :
    Later S n (n.deliver now ticket place sent id) := by
  cases hhost : n.hosts[place]? with
  | none =>
    rw [Network.deliver, hhost]
    exact hf.close ticket
  | some host =>
    have hmanager := (hf place host hhost).manager
    have hset : Later S n { n with
        hosts := n.hosts.set place
          { host with manager := (host.manager.receive now sent id).2 } } :=
      hf.later_set hhost
        (fun hfaithful => hfaithful.set hmanager.receive ExecutionManager.extends_receive)
        ExecutionManager.extends_receive
    rw [deliver_eq hhost]
    -- of the exchanges only this one changes
    refine hset.exchange fun x server request hget habout => ?_
    obtain rfl := Option.some.inj (hget.symm.trans hx)
    obtain ⟨hroute, rfl, hnames⟩ := habout
    refine ⟨hroute, _, List.getElem?_set_self (List.getElem?_eq_some_iff.1 hhost).1, ?_⟩
    refine ExecutionManager.serves_receive hmanager fun i hi => ?_
    obtain ⟨host', hhost', hname⟩ := hnames i hi
    obtain rfl := Option.some.inj (hhost.symm.trans hhost')
    exact hname

theorem Faithful.fireExchange (hf : n.Faithful S) (ticket : Nat) :
    Later S n (n.fireExchange now ticket) := by
  rw [Network.fireExchange]
  split
  · split
    · exact (Later.refl hf).exchange fun _ _ _ _ _ => trivial
    · exact .refl hf
  · rename_i due target reply hx
    split
    · refine (Later.refl hf).exchange fun x server request hget habout => ?_
      obtain rfl := Option.some.inj (hget.symm.trans hx)
      exact habout
    · exact .refl hf
  · rename_i due place sent id hx
    split
    · exact hf.deliver hx
    · exact .refl hf
  · exact .refl hf

theorem Faithful.foldl {α : Type} {f : Network → α → Network}
    (h : ∀ n a, n.Faithful S → Later S n (f n a)) (hf : n.Faithful S) (as : List α) :
    Later S n (as.foldl f n) :=
  List.foldlRecOn as f (.refl hf) fun _ hlater a _ => hlater.trans (h _ a hlater.faithful)

theorem Faithful.fire (hf : n.Faithful S) : Later S n (n.fire now) := by
  have hexchanges : Later S n
      ((List.range n.exchanges.length).foldl (Network.fireExchange now) n) :=
    hf.foldl (fun _ ticket hf => hf.fireExchange ticket) _
  refine hexchanges.trans (hexchanges.faithful.later_of_hosts (fun place h' hh' => ?_)
    (List.length_map ..))
  rw [List.getElem?_map, Option.map_eq_some_iff] at hh'
  obtain ⟨h, hh, rfl⟩ := hh'
  exact ⟨h, hh, Host.Faithful.fire, ExecutionManager.extends_fire _ _ _⟩

end Network

end ScatterSearch
