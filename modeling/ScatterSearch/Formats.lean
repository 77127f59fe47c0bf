import ScatterSearch.Command.Parts
import ScatterSearch.Metrics
import ScatterSearch.Node.Config
import ScatterSearch.Command.Message
import ScatterSearch.Search.Arguments
import ScatterSearch.Search.Message

/-!
# Formats

What nodes and their callers exchange comes in formats, each known by a name. To check a document
against a format is to read it and to write it again.
-/

namespace ScatterSearch

/-- A format: reads a value and writes it again. -/
abbrev Format := Decoder Json

namespace Format

/-- The format of a type with one encoding. -/
def of (α : Type) [Wire α] : Format := (Wire.decode : Decoder α).map encode

/-- The format of queries; `fresh` names one that has no name. -/
def query (fresh : String) : Format := (QueryDescriptor.decode fresh).map QueryDescriptor.encode

/-- The formats by name. -/
def all (fresh : String) : List (String × Format) :=
  [("Response", of Response), ("CommandReply", of CommandReply), ("CommandKind", of CommandKind),
   ("CommandParts", of CommandParts), ("ExecuteRequest", of ExecuteRequest),
   ("ReconnectRequest", of ReconnectRequest), ("PingResponse", of PingReply), ("Shard", of Shard),
   ("Server", of Server), ("QueryDescriptor", query fresh), ("QueryState", of QueryState),
   ("QueryStatusSnapshot", of StatusView), ("StatusId", of StatusId),
   ("CancelResponse", of CancelReport), ("CancelReason", of CancelReason),
   ("MergeState", of MergeState), ("SearchArguments", of SearchArguments),
   ("SearchHit", of SearchHit), ("ShardHits", of ShardHits), ("SearchResults", of SearchResults),
   ("SearchResponse", of SearchResponse), ("IndexDocumentRequest", of IndexRequest),
   ("IndexDocumentResponse", of IndexReply), ("ErrorResponse", of ErrorReply),
   ("ClusterReadResponse", of ClusterReport), ("MethodCallSnapshot", of CallCountView),
   ("NodeConfig", of NodeConfig), ("search_arguments", of SearchArguments),
   ("query_descriptor", query fresh), ("shard_hits", of ShardHits),
   ("u64", Decoder.u64.map .uint64), ("string", Decoder.string.map .str),
   ("option_string", (Decoder.option Decoder.string).map (.option .str))]

/-- The format of a name; any value is of a format without a name. -/
def named (fresh name : String) : Format := (((all fresh).find? (·.1 = name)).map (·.2)).getD .any

end Format

end ScatterSearch
