import ScatterSearch.Cluster.Error
import ScatterSearch.Decode.Record

/-!
# Queries

What a caller asks for: the query itself, how many results are enough, and how long to wait for the
next of them. The caller names the query by a uuid, which need not be unique; a query that comes
without one is given a fresh name.
-/

namespace ScatterSearch

/-- A query as its caller describes it. -/
structure QueryDescriptor where
  uuid : String
  query : Json
  /-- this many results end the search -/
  minimumResults : UInt64
  /-- how long to wait for the next result, in milliseconds -/
  maxQueryTime : UInt64
  user : Option String
  deriving Repr, BEq

namespace QueryDescriptor

/-- The query of a caller who says nothing but its name: all results, and a minute for each. -/
def named (uuid : String) : QueryDescriptor := ⟨uuid, .null, 18446744073709551615, 60000, none⟩

/-- How a query is written; `fresh` names one that has no name. -/
def record (fresh : String) : Record QueryDescriptor :=
  let d := named fresh
  QueryDescriptor.mk <$> Record.withDefault "uuid" Decoder.string d.uuid
    <*> Record.withDefault "query" Decoder.any d.query
    <*> Record.withDefault "minimum_number_of_results" Decoder.u64 d.minimumResults
    <*> Record.withDefault "max_query_time_ms" Decoder.u64 d.maxQueryTime
    <*> Record.withDefault "user" (Decoder.option Decoder.string) d.user

/-- Reads a query; `fresh` names one that has no name. -/
def decode (fresh : String) : Decoder QueryDescriptor :=
  (record fresh).decoder "struct QueryDescriptor"

/-- Writes a query. -/
def encode (q : QueryDescriptor) : Json :=
  .obj [("max_query_time_ms", .uint64 q.maxQueryTime),
    ("minimum_number_of_results", .uint64 q.minimumResults), ("query", q.query),
    ("user", .option .str q.user), ("uuid", .str q.uuid)]

end QueryDescriptor

end ScatterSearch
