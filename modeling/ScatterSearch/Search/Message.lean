import ScatterSearch.Query.State
import ScatterSearch.Search.Hits

/-!
# Answers to clients

What a node says to those who search or bring documents.
-/

namespace ScatterSearch

/-- How a merge stands. -/
inductive MergeState where
  | collecting
  /-- enough results came -/
  | earlyStop
  /-- every call ended -/
  | exhausted
  /-- no call ended in time -/
  | timedOut
  deriving DecidableEq, Repr

namespace MergeState

/-- The name of a state in documents. -/
def name : MergeState → String
  | .collecting => "collecting"
  | .earlyStop => "early_stop"
  | .exhausted => "exhausted"
  | .timedOut => "timed_out"

instance : Wire MergeState where
  encode s := .str s.name
  decode := Decoder.enum ([collecting, earlyStop, exhausted, timedOut].map fun s => (s.name, s))

end MergeState

/-- The answer to a search. -/
structure SearchResponse where
  uuid : String
  table : String
  totalResults : UInt64
  hits : List SearchHit
  shardsAnswered : UInt64
  state : MergeState
  deriving DecidableEq, Repr

instance : Wire SearchResponse where
  encode r := .obj [("hits", .arr (r.hits.map encode)),
    ("shards_answered", .uint64 r.shardsAnswered), ("state", encode r.state),
    ("table", .str r.table), ("total_results", .uint64 r.totalResults),
    ("uuid", .str r.uuid)]
  decode := Record.decoder "struct SearchResponse" <|
    SearchResponse.mk <$> Record.required "uuid" Decoder.string
      <*> Record.required "table" Decoder.string
      <*> Record.required "total_results" Decoder.u64
      <*> Record.required "hits" (Decoder.list Wire.decode)
      <*> Record.required "shards_answered" Decoder.count
      <*> Record.required "state" Wire.decode

/-- Brings a document. -/
structure IndexRequest where
  id : String
  text : String
  deriving DecidableEq, Repr

instance : Wire IndexRequest where
  encode r := .obj [("id", .str r.id), ("text", .str r.text)]
  decode := Record.decoder "struct IndexDocumentRequest" <|
    IndexRequest.mk <$> Record.required "id" Decoder.string
      <*> Record.required "text" Decoder.string

/-- Says that a document is in the index, and how many distinct terms it has. -/
structure IndexReply where
  shard : Shard
  id : String
  terms : UInt64
  deriving DecidableEq, Repr

instance : Wire IndexReply where
  encode r := .obj [("id", .str r.id), ("shard", encode r.shard), ("terms", .uint64 r.terms)]
  decode := Record.decoder "struct IndexDocumentResponse" <|
    IndexReply.mk <$> Record.required "shard" Wire.decode
      <*> Record.required "id" Decoder.string
      <*> Record.required "terms" Decoder.count

/-- Says what went wrong. -/
structure ErrorReply where
  error : String
  deriving DecidableEq, Repr

instance : Wire ErrorReply where
  encode r := .obj [("error", .str r.error)]
  decode := Record.decoder "struct ErrorResponse" <|
    ErrorReply.mk <$> Record.required "error" Decoder.string

/-- What a command brought from all servers, value or failure by shard or server. -/
structure ClusterReport where
  command : String
  values : List (String × Json)
  failures : List (String × String)
  deriving Repr, BEq

namespace ClusterReport

/-- Nothing to report. -/
def empty : ClusterReport := ⟨"", [], []⟩

instance : Wire ClusterReport where
  encode r := .obj [("command", .str r.command),
    ("failures", .object (r.failures.map fun (k, m) => (k, .str m))),
    ("values", .object r.values)]
  decode := Record.decoder "struct ClusterReadResponse" <|
    ClusterReport.mk <$> Record.required "command" Decoder.string
      <*> Record.required "values" (Decoder.entries Decoder.any)
      <*> Record.required "failures" (Decoder.entries Decoder.string)

end ClusterReport

end ScatterSearch
