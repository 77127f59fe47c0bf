import ScatterSearch.Decode.Union

/-!
# Kinds of commands
-/

namespace ScatterSearch

/-- What a command asks of a server: a value for each shard, or one value for all of them. -/
inductive CommandKind where
  | indexRead
  | serverRead
  deriving DecidableEq, Repr

namespace CommandKind

/-- The name of a kind in documents. -/
def name : CommandKind → String
  | .indexRead => "index_read"
  | .serverRead => "server_read"

/-- The name of a kind in messages. -/
def label : CommandKind → String
  | .indexRead => "IndexRead"
  | .serverRead => "ServerRead"

instance : Wire CommandKind where
  encode k := .str k.name
  decode := Decoder.enum ([indexRead, serverRead].map fun k => (k.name, k))

end CommandKind

end ScatterSearch
