import ScatterSearch.Call.Reconnect

/-!
# Remotes

A remote is a server of which one knows how it behaves: how long it takes to connect to it and how
that ends, and how it answers the requests it gets, counted over its whole life. What it answers may
depend on what it was last asked to execute.
-/

namespace ScatterSearch

/-- A reply, and how long it takes. -/
structure RemoteReply where
  delay : Nat
  /-- the reply, by the last request to execute -/
  reply : ExecuteRequest → Reply

/-- A server whose behaviour is known. -/
structure Remote where
  connectDelay : Nat
  connectError : Option ClusterError
  /-- the reply to each request to execute -/
  execute : Nat → RemoteReply
  /-- the reply to each reconnect -/
  reconnect : Nat → RemoteReply

namespace Remote

/-- A request of which nothing is known. -/
def unknownRequest : ExecuteRequest := ⟨"", .serverRead, .null, []⟩

/-- Replies at once. -/
def immediate (reply : ExecuteRequest → Reply) : Nat → RemoteReply := fun _ => ⟨0, reply⟩

/-- Plays replies one after the other, the last of them again and again; without any, `otherwise` at
once. -/
def playing (replies : List RemoteReply) (otherwise : ExecuteRequest → Reply) (k : Nat) :
    RemoteReply :=
  ((replies[k]?).or replies.getLast?).getD ⟨0, otherwise⟩

/-- A server to which there is no connection. -/
def unreachable (delay : Nat) (e : ClusterError) : Remote :=
  let nothing := immediate fun _ => .answers (.error (.failed e.message))
  ⟨delay, some e, nothing, nothing⟩

/-- How an attempt to connect ends. -/
def connection (r : Remote) : Except ClusterError Unit :=
  match r.connectError with
  | some e => .error e
  | none => .ok ()

end Remote

/-- What a remote was asked so far. -/
structure Contact where
  executes : Nat
  reconnects : Nat
  last : ExecuteRequest

namespace Contact

/-- A remote that was asked nothing. -/
def new : Contact := ⟨0, 0, Remote.unknownRequest⟩

/-- The reply to one more request, and the contact after it. -/
def ask (r : Remote) (c : Contact) (request : ExecuteRequest) :
    Option ExecutionId → RemoteReply × Contact
  | none => (r.execute c.executes, { c with executes := c.executes + 1, last := request })
  | some _ => (r.reconnect c.reconnects, { c with reconnects := c.reconnects + 1 })

end Contact

end ScatterSearch
