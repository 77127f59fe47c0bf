import ScatterSearch.Cluster.Error
import ScatterSearch.Cluster.Shard
import ScatterSearch.Command.Kind

/-!
# Responses

What a server answers to a command: one value per shard, or one value. A response has a kind, and it
is an error to read it as the other kind.
-/

namespace ScatterSearch

/-- The answer to a command. -/
inductive Response where
  | shardValues (values : List (Shard × Json))
  | serverValue (value : Json)
  deriving Repr, BEq

namespace Response

/-- The kind of command that a response answers. -/
def kind : Response → CommandKind
  | .shardValues _ => .indexRead
  | .serverValue _ => .serverRead

/-- The value a list of entries has for a key: that of the last entry with it. -/
def lastFor {κ ν : Type} [DecidableEq κ] (key : κ) (entries : List (κ × ν)) : Option ν :=
  (entries.reverse.find? (·.1 = key)).map (·.2)

/-- The values of the shards; of several for one shard the last counts. -/
def toShardValues (target : String) : Response → Except ClusterError (List (Shard × Json))
  | .shardValues values =>
    .ok ((values.map (·.1)).eraseDups.filterMap fun s => (lastFor s values).map (s, ·))
  | .serverValue _ =>
    .error (.remoteCall target "expected per-shard values, got a single server value")

/-- The value of the server. -/
def toServerValue (target : String) : Response → Except ClusterError Json
  | .serverValue value => .ok value
  | .shardValues _ =>
    .error (.remoteCall target "expected a single server value, got per-shard values")

/-- How a response is written. -/
def variants : List (Decoder.Variant Response) :=
  [⟨"shard_values", "ShardValues",
      Response.shardValues <$> Record.required "values"
        (Decoder.list (Decoder.pair Wire.decode Decoder.any))⟩,
   ⟨"server_value", "ServerValue", Response.serverValue <$> Record.required "value" Decoder.any⟩]

instance : Wire Response where
  encode
    | .shardValues values =>
      .obj [("kind", .str "shard_values"),
        ("values", .arr (values.map fun (s, v) => .arr [encode s, v]))]
    | .serverValue value => .obj [("kind", .str "server_value"), ("value", value)]
  decode := Decoder.tagged "Response" "kind" variants

end Response

end ScatterSearch
