import ScatterSearch.Assoc
import ScatterSearch.Search.Arguments
import ScatterSearch.Search.Hits
import ScatterSearch.Text.Words

/-!
# The index of a node

For each shard, which terms each document holds (`documents`) and which documents hold each term
(`postings`). A document can be indexed again under its id; its old terms are taken out first. A
search counts, through the postings, how many terms of the query each document holds.
-/

namespace ScatterSearch

/-- The documents of one shard. -/
structure ShardDocuments where
  /-- the ids of the documents that hold a term -/
  postings : Assoc String (List String)
  /-- the distinct terms of a document -/
  documents : Assoc String (List String)
  deriving Repr

namespace ShardDocuments

/-- A shard without documents. -/
def empty : ShardDocuments := ⟨[], []⟩

/-- The ids of the documents that hold a term. -/
def holders (d : ShardDocuments) (term : String) : List String := (d.postings.get? term).getD []

/-- Takes a document out of the postings of the given terms. -/
def unpost (id : String) (terms : List String) (postings : Assoc String (List String)) :
    Assoc String (List String) :=
  terms.foldl (fun m t => match m.get? t with
    | some ids => m.put t (ids.filter (· ≠ id))
    | none => m) postings

/-- Adds a document to the postings of the given terms. -/
def post (id : String) (terms : List String) (postings : Assoc String (List String)) :
    Assoc String (List String) :=
  terms.foldl (fun m t => m.put t (((m.get? t).getD []).insert id)) postings

/-- Puts a document into the shard, in place of an earlier one of that id. -/
def index (d : ShardDocuments) (id text : String) : ShardDocuments :=
  let terms := Text.documentTerms text
  let postings := match d.documents.get? id with
    | some old => unpost id old d.postings
    | none => d.postings
  ⟨post id terms postings, d.documents.put id terms⟩

/-- Counts one more term for a document. -/
def bump (scores : Assoc String UInt64) (id : String) : Assoc String UInt64 :=
  scores.put id ((scores.get? id).getD 0 + 1)

/-- How many of the query's terms each document holds, for those that hold any. -/
def scores (d : ShardDocuments) (text : String) : Assoc String UInt64 :=
  (Text.queryTerms text).foldl (fun acc t => (d.holders t).foldl bump acc) []

/-- The documents that hold a term of the query, best first, no more of them than `limit`. -/
def search (d : ShardDocuments) (shard : Shard) (text : String) (limit : UInt64) : ShardHits :=
  let hits := ((d.scores text).map fun (id, score) => (⟨id, score, shard⟩ : SearchHit)).mergeSort
    SearchHit.ranksBefore
  ⟨UInt64.ofNat hits.length, hits.take limit.toNat⟩

end ShardDocuments

/-- The index of a node: the documents of its shards. -/
structure ShardIndex where
  shards : Assoc Shard ShardDocuments
  deriving Repr

namespace ShardIndex

/-- An index without documents. -/
def empty : ShardIndex := ⟨[]⟩

/-- The documents of a shard, if it was ever given one. -/
def documents? (ix : ShardIndex) (shard : Shard) : Option ShardDocuments := ix.shards.get? shard

/-- Puts a document into a shard. -/
def index (ix : ShardIndex) (shard : Shard) (id text : String) : ShardIndex :=
  ⟨ix.shards.put shard (((ix.documents? shard).getD .empty).index id text)⟩

/-- How many documents a shard holds. -/
def documentCount (ix : ShardIndex) (shard : Shard) : Nat :=
  ((ix.documents? shard).map (·.documents.length)).getD 0

/-- Searches one shard. -/
def search (ix : ShardIndex) (shard : Shard) (text : String) (limit : UInt64) : ShardHits :=
  match ix.documents? shard with
  | some d => d.search shard text limit
  | none => .empty

end ShardIndex

end ScatterSearch
