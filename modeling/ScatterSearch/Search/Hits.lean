import ScatterSearch.Cluster.Shard

/-!
# Hits

A hit is a document with the number of query terms it holds. Every shard answers with its best hits
(`ShardHits`); `SearchResults.add` merges the answers as they come. Hits are ranked by score,
highest first, then by id; of equal rank the earlier arrival stays first.

The number of results is a 64-bit word, as it comes from the shards. Arithmetic is checked: where
the sum of the shards' numbers is no word, to add an answer panics (`SearchResults.overflows`).
-/

namespace ScatterSearch

/-- A document that matches. -/
structure SearchHit where
  id : String
  /-- how many distinct query terms the document holds -/
  score : UInt64
  shard : Shard
  deriving DecidableEq, Repr

instance : Wire SearchHit where
  encode h := .obj [("id", .str h.id), ("score", .uint64 h.score), ("shard", encode h.shard)]
  decode := Record.decoder "struct SearchHit" <|
    SearchHit.mk <$> Record.required "id" Decoder.string
      <*> Record.required "score" Decoder.u64
      <*> Record.required "shard" Wire.decode

/-- Whether a hit ranks before another or equal to it. -/
def SearchHit.ranksBefore (a b : SearchHit) : Bool :=
  decide (b.score < a.score) || (decide (a.score = b.score) && decide (a.id ≤ b.id))

/-- What one shard found: how many documents match, and the best of them. -/
structure ShardHits where
  totalResults : UInt64
  hits : List SearchHit
  deriving DecidableEq, Repr

namespace ShardHits

/-- No document matches. -/
def empty : ShardHits := ⟨0, []⟩

instance : Wire ShardHits where
  encode h := .obj [("hits", .arr (h.hits.map encode)), ("total_results", .uint64 h.totalResults)]
  decode := Record.decoder "struct ShardHits" <|
    ShardHits.mk <$> Record.required "total_results" Decoder.u64
      <*> Record.required "hits" (Decoder.list Wire.decode)

end ShardHits

/-- What all shards that have answered found. -/
structure SearchResults where
  totalResults : UInt64
  /-- best first -/
  hits : List SearchHit
  shardsAnswered : UInt64
  deriving DecidableEq, Repr

namespace SearchResults

/-- Nobody has answered. -/
def empty : SearchResults := ⟨0, [], 0⟩

/-- Whether the number of results leaves the words with one shard's answer. -/
def overflows (r : SearchResults) (part : ShardHits) : Bool :=
  decide (UInt64.size ≤ r.totalResults.toNat + part.totalResults.toNat)

/-- Takes in one shard's answer, if that does not overflow. -/
def add (r : SearchResults) (part : ShardHits) : SearchResults where
  totalResults := r.totalResults + part.totalResults
  hits := (r.hits ++ part.hits).mergeSort SearchHit.ranksBefore
  shardsAnswered := r.shardsAnswered + 1

instance : Wire SearchResults where
  encode r := .obj [("hits", .arr (r.hits.map encode)),
    ("shards_answered", .uint64 r.shardsAnswered), ("total_results", .uint64 r.totalResults)]
  decode := Record.decoder "struct SearchResults" <|
    SearchResults.mk <$> Record.required "total_results" Decoder.u64
      <*> Record.required "hits" (Decoder.list Wire.decode)
      <*> Record.required "shards_answered" Decoder.count

end SearchResults

end ScatterSearch
