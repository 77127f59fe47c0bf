import ScatterSearch.Cluster.Error
import ScatterSearch.Cluster.Shard
import ScatterSearch.Json.Printer

/-!
# Commands

A command is a named piece of work with arguments, aimed at tables and shards. `CommandParts` is the
plain form, built step by step; naming a shard names its table too. `Command` is what can be run:
a command may fail to give its arguments, and may choose its shards once its tables are known.
-/

namespace ScatterSearch

/-- A command as plain data. -/
structure CommandParts where
  name : String
  /-- without repetitions -/
  tables : List String
  /-- without repetitions; none stands for all shards of the tables -/
  shards : List Shard
  args : Json
  deriving Repr, BEq

namespace CommandParts

/-- A command without targets or arguments. -/
def named (name : String) : CommandParts := ⟨name, [], [], .null⟩

/-- Adds a table. -/
def table (p : CommandParts) (t : String) : CommandParts := { p with tables := p.tables.insert t }

/-- Adds a shard and its table. -/
def shard (p : CommandParts) (s : Shard) : CommandParts :=
  { p with tables := p.tables.insert s.table, shards := p.shards.insert s }

/-- Sets the arguments. -/
def withArgs (p : CommandParts) (args : Json) : CommandParts := { p with args }

/-- The shards that lie in the given tables. -/
def shardsWithin (p : CommandParts) (tables : List String) : List Shard :=
  p.shards.filter fun s => tables.contains s.table

instance : Wire CommandParts where
  encode p := .obj [("args", p.args), ("name", .str p.name),
    ("shards", .arr ((p.shards.mergeSort Shard.le).map encode)),
    ("tables", .strings (p.tables.mergeSort fun a b => decide (a ≤ b)))]
  decode := Record.decoder "struct CommandParts" <|
    CommandParts.mk <$> Record.required "name" Decoder.string
      <*> Record.required "tables" (Decoder.list Decoder.string |>.map List.eraseDups)
      <*> Record.required "shards"
        (Decoder.list (Wire.decode : Decoder Shard) |>.map List.eraseDups)
      <*> Record.required "args" Decoder.any

end CommandParts

/-- A command that can be run. -/
structure Command where
  name : String
  arguments : Except ClusterError Json
  tables : List String
  /-- the shards aimed at, given the tables; none stands for all of them -/
  shardsWithin : List String → List Shard

/-- A plain command, ready to run. -/
def CommandParts.command (p : CommandParts) : Command where
  name := p.name
  arguments := .ok p.args
  tables := p.tables
  shardsWithin := p.shardsWithin

/-- The payload of a map whose keys are values of any type. Strings, truth values and integers can
be written as keys, other values cannot. -/
def payloadOfMap (entries : List (Json × Json)) : Except ClusterError Json := do
  let fields ← entries.mapM fun (k, v) =>
    match k with
    | .str s => .ok (s, v)
    | .bool b => .ok ((Json.bool b).render, v)
    | .num (.int i) => .ok ((Number.int i).text, v)
    | _ => .error (.codec "key must be a string")
  return .object fields

end ScatterSearch
