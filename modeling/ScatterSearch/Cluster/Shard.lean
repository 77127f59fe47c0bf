import ScatterSearch.Decode.Record

/-!
# Shards

A table is cut into shards; a shard is the unit that servers serve and that index reads ask for.
-/

namespace ScatterSearch

/-- One partition of one table. -/
structure Shard where
  table : String
  shard : String
  deriving DecidableEq, Repr, Hashable, Inhabited

namespace Shard

/-- A shard as keys and messages show it. -/
def text (s : Shard) : String := s.table ++ "/" ++ s.shard

/-- Shards by table, then by name. -/
def le (a b : Shard) : Bool :=
  decide (a.table < b.table) || (decide (a.table = b.table) && decide (a.shard ≤ b.shard))

/-- How a shard is written. -/
def record : Record Shard :=
  Shard.mk <$> Record.required "table" Decoder.string <*> Record.required "shard" Decoder.string

instance : Wire Shard where
  encode s := .obj [("shard", .str s.shard), ("table", .str s.table)]
  decode := record.decoder "struct Shard"

end Shard

end ScatterSearch
