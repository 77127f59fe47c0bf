import Mathlib.Data.List.Perm.Subperm
import Mathlib.Logic.Function.Iterate
import Mathlib.Logic.Relation
import ScatterSearch.Client.Pool
import ScatterSearch.Proofs.Assoc

/-!
# Who has the clients

A pool and those who have its clients keep its books together. Clients are handed out for a server,
with a ping or without, and come back for that server, to be kept or not to be used again.

* `ClientPool.get_cases` lists what comes of asking for a client: one that is idle, a new one, or
  an error, and then the pool is as it was. The network sees no more pings than are allowed;
* `Books` are a pool with the loans that are out, and `Books.Step` is one thing done with it. A loan
  comes back at most once, and for its own server;
* `Books.Balanced` is what every step keeps. Clients are known by their numbers: a step moves them
  about, forgets some, and makes at most one, with a number that none has had
  (`Balanced.of_subperm`).

`books_balance` is what holds of the books at any time.
-/

namespace ScatterSearch

/-! ## Values of a map that are lists -/

namespace Assoc

variable {κ α : Type} [DecidableEq κ]

/-- To set a list changes only what is in it. -/
theorem exists_flatMap_put_perm (m : Assoc κ (List α)) (k : κ) :
    ∃ others, (m.flatMap (·.2)).Perm ((m.get? k).getD [] ++ others) ∧
      ∀ xs, ((m.put k xs).flatMap (·.2)).Perm (xs ++ others) := by
  induction m with
  | nil => exact ⟨[], .refl _, fun xs => .refl _⟩
  | cons entry m ih =>
    obtain ⟨key, ys⟩ := entry
    by_cases hkey : key = k
    · refine ⟨m.flatMap (·.2), ?_, fun xs => ?_⟩
      · rw [get?, if_pos hkey]
        exact .refl _
      · rw [put, if_pos hkey]
        exact .refl _
    · obtain ⟨others, hget, hput⟩ := ih
      refine ⟨ys ++ others, ?_, fun xs => ?_⟩
      · rw [get?, if_neg hkey]
        exact (hget.append_left ys).trans (List.perm_append_comm_assoc _ _ _)
      · rw [put, if_neg hkey]
        exact ((hput xs).append_left ys).trans (List.perm_append_comm_assoc _ _ _)

end Assoc

/-! ## Pings -/

namespace Client

variable {τ : Type}

/-- A network in which so many pings were sent to a server. -/
def pinged (web : Web τ) (server : Server) (sent : Nat) (net : τ) : τ :=
  (fun net => (web net (pingRequest server)).2)^[sent] net

/-- Nothing but pings is sent, and no more than are allowed. -/
theorem exists_sent_pingFor (web : Web τ) (server : Server) (attempts pause : Nat) (net : τ) :
    ∃ sent ≤ attempts, (pingFor web server attempts pause net).2 = pinged web server sent net := by
  induction attempts generalizing pause net with
  | zero => exact ⟨0, Nat.le_refl 0, rfl⟩
  | succ attempts ih =>
    have one : 1 ≤ attempts + 1 := Nat.le_add_left 1 attempts
    rcases hweb : web net (pingRequest server) with ⟨outcome, net'⟩
    have hpinged : pinged web server 1 net = net' := congrArg Prod.snd hweb
    cases outcome with
    | answered status body =>
      rw [pingFor, hweb]
      simp only
      split
      · exact ⟨1, one, hpinged.symm⟩
      · exact ⟨1, one, hpinged.symm⟩
    | unreachable =>
      rw [pingFor, hweb]
      simp only
      split
      · exact ⟨1, one, hpinged.symm⟩
      · obtain ⟨sent, hle, hnet⟩ := ih (min (2 * pause) longestPause) net'
        refine ⟨sent + 1, Nat.succ_le_succ hle, ?_⟩
        rw [hnet, ← hpinged]
        rfl

end Client

namespace ClientPool

variable {τ : Type} {p : ClientPool}

/-! ## What comes of asking for a client -/

/-- A pool that keeps these clients of a server. -/
theorem idleOf_put {server server' : Server} {clients : List Client} {checkedOut made : Nat} :
    idleOf ⟨p.config, p.idle.put server clients, checkedOut, made⟩ server' =
      if server = server' then clients else p.idleOf server' := by
  rw [idleOf, Assoc.get?_put]
  split <;> rfl

/-- An idle client is handed out at once. Where none is, pings are sent, no more than are allowed,
and there is a new client or an error; with an error the pool is as it was. -/
theorem get_cases (web : Web τ) (p : ClientPool) (server : Server) (net : τ) :
    (∃ c rest, p.idleOf server = c :: rest ∧ p.get web server net =
      (.ok c, ⟨p.config, p.idle.put server rest, p.checkedOut + 1, p.made⟩, net)) ∨
    p.idleOf server = [] ∧ ∃ sent ≤ p.config.pingAttempts.toNat,
      (p.get web server net = (.ok ⟨p.made, server⟩,
        ⟨p.config, p.idle, p.checkedOut + 1, p.made + 1⟩, Client.pinged web server sent net)) ∨
      ∃ e, p.get web server net = (.error e, p, Client.pinged web server sent net) := by
  cases hidle : p.idleOf server with
  | cons c rest => exact .inl ⟨c, rest, rfl, by rw [get, hidle]⟩
  | nil =>
    obtain ⟨sent, hle, hnet⟩ := Client.exists_sent_pingFor web server
      p.config.pingAttempts.toNat Client.firstPause net
    refine .inr ⟨rfl, sent, hle, ?_⟩
    rcases hping : Client.ping web server p.config.pingAttempts.toNat net with ⟨ping, net'⟩
    rw [Client.ping] at hping
    rw [hping] at hnet
    obtain rfl : net' = Client.pinged web server sent net := hnet
    cases hresult : ping.result with
    | ok _ =>
      left
      simp only [get, hidle, Client.ping, hping, hresult]
      rfl
    | error e =>
      right
      refine ⟨e, ?_⟩
      simp only [get, hidle, Client.ping, hping, hresult]

/-! ## Books -/

/-- A client that is out, and the server for which it was handed out. -/
structure Loan where
  server : Server
  client : Client
  deriving DecidableEq

/-- A pool, and what is out. -/
structure Books where
  pool : ClientPool
  loans : List Loan

namespace Books

/-- The books of a new pool. -/
def new (config : ClientConfig) : Books := ⟨.new config, []⟩

/-- All clients of a pool: those that are idle, and those that are out. -/
def clients (b : Books) : List Client := b.pool.idle.flatMap (·.2) ++ b.loans.map (·.client)

/-- The books after somebody asked for a client. -/
def lend (b : Books) (web : Web τ) (net : τ) (server : Server) : Books :=
  match b.pool.get web server net with
  | (.ok c, p, _) => ⟨p, ⟨server, c⟩ :: b.loans⟩
  | (.error _, p, _) => ⟨p, b.loans⟩

/-- What can be done with a pool. The network may be any at any time; what comes back is out. -/
inductive Step : Books → Books → Prop where
  | get {τ : Type} (b : Books) (web : Web τ) (net : τ) (server : Server) :
      Step b (b.lend web net server)
  | giveBack {b : Books} {loan : Loan} : loan ∈ b.loans →
      Step b ⟨b.pool.giveBackTo loan.server loan.client, b.loans.erase loan⟩
  | discard {b : Books} {loan : Loan} : loan ∈ b.loans →
      Step b ⟨b.pool.discard loan.client, b.loans.erase loan⟩

/-- Books in which all is in order. -/
structure Balanced (config : ClientConfig) (b : Books) : Prop where
  config_eq : b.pool.config = config
  checkedOut_eq : b.pool.checkedOut = b.loans.length
  room : ∀ server, b.pool.idleCount server ≤ config.maxIdlePerServer.toNat
  numbers : (b.clients.map (·.number)).Nodup
  made : ∀ c ∈ b.clients, c.number < b.pool.made
  idle_server : ∀ server, ∀ c ∈ b.pool.idleOf server, c.server = server
  loan_server : ∀ loan ∈ b.loans, loan.client.server = loan.server

namespace Balanced

variable {config : ClientConfig} {b b' : Books} {loan : Loan}

theorem new (config : ClientConfig) : Balanced config (.new config) where
  config_eq := rfl
  checkedOut_eq := rfl
  room := fun _ => Nat.zero_le _
  numbers := List.nodup_nil
  made := fun _ hc => nomatch hc
  idle_server := fun _ _ hc => nomatch hc
  loan_server := fun _ hloan => nomatch hloan

/-- Clients that are moved about, or forgotten, are still known by their numbers. -/
theorem of_subperm (h : Balanced config b) (hclients : b'.clients.Subperm b.clients)
    (hmade : b'.pool.made = b.pool.made) :
    (b'.clients.map (·.number)).Nodup ∧ ∀ c ∈ b'.clients, c.number < b'.pool.made := by
  obtain ⟨cs, hperm, hsublist⟩ := hclients
  refine ⟨(hperm.map _).nodup_iff.1 (h.numbers.sublist (hsublist.map _)), fun c hc => ?_⟩
  rw [hmade]
  exact h.made c (hsublist.subset (hperm.mem_iff.2 hc))

/-- A client that is out is one of the clients of the loans, and those that stay out are the
others. -/
theorem map_client_perm (hloan : loan ∈ b.loans) : (b.loans.map (·.client)).Perm
    (loan.client :: (b.loans.erase loan).map (·.client)) :=
  (List.perm_cons_erase hloan).map _

theorem lend (h : Balanced config b) (web : Web τ) (net : τ) (server : Server) :
    Balanced config (b.lend web net server) := by
  rw [Books.lend]
  rcases get_cases web b.pool server net with
    ⟨c, rest, hidle, hget⟩ | ⟨-, sent, -, hget | ⟨e, hget⟩⟩
  · -- the client goes from those that are idle to those that are out
    rw [hget]
    simp only
    obtain ⟨others, hbefore, hafter⟩ := b.pool.idle.exists_flatMap_put_perm server
    rw [show (b.pool.idle.get? server).getD [] = c :: rest from hidle] at hbefore
    have hclients : (clients ⟨⟨b.pool.config, b.pool.idle.put server rest, b.pool.checkedOut + 1,
        b.pool.made⟩, ⟨server, c⟩ :: b.loans⟩).Perm b.clients := by
      refine ((hafter rest).append_right _).trans ?_
      refine List.Perm.trans ?_ (hbefore.append_right _).symm
      exact List.perm_middle
    obtain ⟨hnumbers, hmade⟩ := h.of_subperm hclients.subperm rfl
    have hserver : c.server = server := h.idle_server server c (hidle ▸ List.mem_cons_self)
    refine ⟨h.config_eq, congrArg (· + 1) h.checkedOut_eq, fun server' => ?_, hnumbers, hmade,
      fun server' c' hc' => ?_, List.forall_mem_cons.2 ⟨hserver, h.loan_server⟩⟩
    · have hroom := h.room server'
      rw [idleCount, idleOf_put]
      split
      · rename_i heq
        rw [← heq, idleCount, hidle, List.length_cons] at hroom
        exact Nat.le_of_succ_le hroom
      · exact hroom
    · rw [idleOf_put] at hc'
      split at hc'
      · rename_i heq
        exact heq ▸ h.idle_server server c' (hidle ▸ List.mem_cons_of_mem c hc')
      · exact h.idle_server server' c' hc'
  · -- a client is made, with a number that none has
    rw [hget]
    simp only
    have hclients : (clients ⟨⟨b.pool.config, b.pool.idle, b.pool.checkedOut + 1,
        b.pool.made + 1⟩, ⟨server, ⟨b.pool.made, server⟩⟩ :: b.loans⟩).Perm
          (⟨b.pool.made, server⟩ :: b.clients) := List.perm_middle
    refine ⟨h.config_eq, congrArg (· + 1) h.checkedOut_eq, h.room, ?_, fun c hc => ?_,
      h.idle_server, List.forall_mem_cons.2 ⟨rfl, h.loan_server⟩⟩
    · rw [(hclients.map _).nodup_iff, List.map_cons, List.nodup_cons]
      refine ⟨fun hmem => ?_, h.numbers⟩
      obtain ⟨c, hc, hnumber⟩ := List.mem_map.1 hmem
      exact Nat.ne_of_lt (h.made c hc) hnumber
    · rcases List.mem_cons.1 (hclients.mem_iff.1 hc) with rfl | hc
      · exact Nat.lt_succ_self _
      · exact Nat.lt_succ_of_lt (h.made c hc)
  · rw [hget]
    exact h

theorem giveBack (h : Balanced config b) (hloan : loan ∈ b.loans) :
    Balanced config ⟨b.pool.giveBackTo loan.server loan.client, b.loans.erase loan⟩ := by
  obtain ⟨server, c⟩ := loan
  have hserver : c.server = server := h.loan_server _ hloan
  obtain ⟨others, hbefore, hafter⟩ := b.pool.idle.exists_flatMap_put_perm server
  -- the client goes from those that are out to those that are idle, if there is room
  have hclients : (clients ⟨b.pool.giveBackTo server c, b.loans.erase ⟨server, c⟩⟩).Subperm
      b.clients := by
    have hall : b.clients.Perm (c :: (b.pool.idleOf server ++ others) ++
        (b.loans.erase ⟨server, c⟩).map (·.client)) :=
      ((hbefore.append_right _).trans ((map_client_perm hloan).append_left _)).trans
        List.perm_middle
    refine List.Subperm.trans ?_ hall.symm.subperm
    refine ((hafter _).append_right _).subperm.trans ?_
    split
    · exact .refl _
    · exact ((List.sublist_cons_self c _).append_right _).subperm
  obtain ⟨hnumbers, hmade⟩ := h.of_subperm hclients rfl
  refine ⟨h.config_eq, ?_, fun server' => ?_, hnumbers, hmade, fun server' c' hc' => ?_,
    fun loan hmem => h.loan_server loan (List.mem_of_mem_erase hmem)⟩
  · rw [giveBackTo, h.checkedOut_eq, List.length_erase_of_mem hloan]
  · rw [giveBackTo, idleCount, idleOf_put]
    split
    · split
      · rename_i hroom
        rw [h.config_eq] at hroom
        exact hroom
      · exact h.room server
    · exact h.room server'
  · rw [giveBackTo, idleOf_put] at hc'
    split at hc'
    · rename_i heq
      subst heq
      split at hc'
      · rcases List.mem_cons.1 hc' with rfl | hc'
        · exact hserver
        · exact h.idle_server server c' hc'
      · exact h.idle_server server c' hc'
    · exact h.idle_server server' c' hc'

theorem discard (h : Balanced config b) (hloan : loan ∈ b.loans) :
    Balanced config ⟨b.pool.discard loan.client, b.loans.erase loan⟩ := by
  have hclients : (clients ⟨b.pool.discard loan.client, b.loans.erase loan⟩).Subperm b.clients :=
    ((List.erase_sublist.map _).append_left _).subperm
  obtain ⟨hnumbers, hmade⟩ := h.of_subperm hclients rfl
  refine ⟨h.config_eq, ?_, h.room, hnumbers, hmade, h.idle_server,
    fun loan hmem => h.loan_server loan (List.mem_of_mem_erase hmem)⟩
  rw [ClientPool.discard, h.checkedOut_eq, List.length_erase_of_mem hloan]

theorem step (h : Balanced config b) (hstep : Step b b') : Balanced config b' := by
  cases hstep with
  | get _ web net server => exact h.lend web net server
  | giveBack hloan => exact h.giveBack hloan
  | discard hloan => exact h.discard hloan

theorem of_steps (h : Relation.ReflTransGen Step (.new config) b) : Balanced config b := by
  induction h with
  | refl => exact .new config
  | tail _ hstep ih => exact ih.step hstep

end Balanced

/-- Whatever is done with a new pool, one thing after the other - clients are asked for, on whatever
network, and those that are out come back, each at most once and for its own server: the pool counts
the clients that are out, keeps no more of a server than it may, and never has a client twice, be it
idle or out; a client is out, or idle, only for the server for which it was made. If it is asked for
one more client, no more pings are sent than are allowed, and if there is none, the pool stays as it
was. -/
theorem books_balance {config : ClientConfig} {b : Books}
    (h : Relation.ReflTransGen Step (.new config) b) :
    b.pool.checkedOut = b.loans.length ∧
    (∀ server, b.pool.idleCount server ≤ config.maxIdlePerServer.toNat) ∧
    (b.clients.map (·.number)).Nodup ∧
    (∀ loan ∈ b.loans, loan.client.server = loan.server) ∧
    (∀ server, ∀ c ∈ b.pool.idleOf server, c.server = server) ∧
    ∀ {τ : Type} (web : Web τ) (net : τ) (server : Server),
      (∃ sent ≤ config.pingAttempts.toNat,
        (b.pool.get web server net).2.2 = Client.pinged web server sent net) ∧
      ∀ e, (b.pool.get web server net).1 = .error e → (b.pool.get web server net).2.1 = b.pool := by
  have hbalanced : Balanced config b := .of_steps h
  refine ⟨hbalanced.checkedOut_eq, hbalanced.room, hbalanced.numbers, hbalanced.loan_server,
    hbalanced.idle_server, fun web net server => ?_⟩
  rw [← hbalanced.config_eq]
  rcases get_cases web b.pool server net with
    ⟨c, rest, -, hget⟩ | ⟨-, sent, hle, hget | ⟨e, hget⟩⟩
  · rw [hget]
    exact ⟨⟨0, Nat.zero_le _, rfl⟩, fun e he => nomatch he⟩
  · rw [hget]
    exact ⟨⟨sent, hle, rfl⟩, fun e he => nomatch he⟩
  · rw [hget]
    exact ⟨⟨sent, hle, rfl⟩, fun _ _ => rfl⟩

/-- A network that reaches nobody at first, and counts what is sent. -/
def waking : Web Nat := fun sent _ =>
  (if sent = 0 then .unreachable else .answered 200 "", sent + 1)

/-- A network that reaches nobody, and counts what is sent. -/
def silent : Web Nat := fun sent _ => (.unreachable, sent + 1)

/-- A pool that keeps one client and pings twice at most, when two clients were out, both have come
back, and the one that was kept is out again. -/
def reused : Books :=
  let asked := ((new ⟨30000, 2, 500, 1⟩).lend waking 0 ⟨"a:1"⟩).lend waking 0 ⟨"a:1"⟩
  let kept : Books := ⟨asked.pool.giveBackTo ⟨"a:1"⟩ ⟨0, ⟨"a:1"⟩⟩, [⟨⟨"a:1"⟩, ⟨1, ⟨"a:1"⟩⟩⟩]⟩
  let dropped : Books := ⟨kept.pool.giveBackTo ⟨"a:1"⟩ ⟨1, ⟨"a:1"⟩⟩, []⟩
  dropped.lend silent 0 ⟨"a:1"⟩

/-- The client that was dropped is gone, and pings to another server change nothing when they are in
vain. -/
theorem reused_balances :
    reused.loans = [⟨⟨"a:1"⟩, ⟨0, ⟨"a:1"⟩⟩⟩] ∧ reused.pool.made = 2 ∧
    reused.pool.checkedOut = reused.loans.length ∧ reused.pool.idleCount ⟨"a:1"⟩ ≤ 1 ∧
    (reused.clients.map (·.number)).Nodup ∧
    (reused.pool.get silent ⟨"b:1"⟩ 0).2.2 = 2 ∧
    (reused.pool.get silent ⟨"b:1"⟩ 0).2.1 = reused.pool := by
  have hsteps : Relation.ReflTransGen Step (.new ⟨30000, 2, 500, 1⟩) reused := by
    have hasked := (Relation.ReflTransGen.single (Step.get (.new ⟨30000, 2, 500, 1⟩) waking 0
      ⟨"a:1"⟩)).tail (Step.get _ waking 0 ⟨"a:1"⟩)
    have hkept := hasked.tail (Step.giveBack
      (show (⟨⟨"a:1"⟩, ⟨0, ⟨"a:1"⟩⟩⟩ : Loan) ∈ _ by decide))
    have hdropped := hkept.tail (Step.giveBack
      (show (⟨⟨"a:1"⟩, ⟨1, ⟨"a:1"⟩⟩⟩ : Loan) ∈ _ by decide))
    exact hdropped.tail (Step.get _ silent 0 ⟨"a:1"⟩)
  obtain ⟨hcount, hroom, hnumbers, -, -, hget⟩ := books_balance hsteps
  exact ⟨rfl, rfl, hcount, hroom _, hnumbers, rfl,
    (hget silent 0 ⟨"b:1"⟩).2 (.connection "b:1"
      "error sending request for url (http://b:1/internal/ping)") rfl⟩

end Books

end ClientPool

end ScatterSearch
