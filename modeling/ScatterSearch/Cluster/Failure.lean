import ScatterSearch.Cluster.Error
import ScatterSearch.Decode.Field
import ScatterSearch.Json.Printer

/-!
# Failures as documents

A failure is shown by its kind and its message; one that stands for several tells how many there
were and shows the first of them. It is described by its kind and its parts.
-/

namespace ScatterSearch.ClusterError

/-- The name of a failure's kind. -/
def kindName : ClusterError → String
  | .rejected _ _ => "Validation"
  | .tableNotFound _ => "TableNotFound"
  | .connection _ _ => "Connection"
  | .remoteCall _ _ => "RemoteCall"
  | .aggregate _ _ _ _ => "Aggregate"
  | .queryTimeout _ _ => "QueryTimeout"
  | .reconnectTimeout _ _ _ => "ReconnectTimeout"
  | .cancelled _ => "Cancelled"
  | .codec _ => "Codec"
  | .internal _ => "Internal"

/-- Shows a failure. -/
def view : ClusterError → Json
  | .aggregate command failed total first =>
    .object [("error", .str "Aggregate"), ("failed", .nat failed), ("first", first.view),
      ("message", .str (aggregate command failed total first).message), ("total", .nat total)]
  | e => .object [("error", .str e.kindName), ("message", .str e.message)]

/-- Shows a failure without what depends on which of several failures came first. -/
def viewUnordered : ClusterError → Json
  | .aggregate command failed total first =>
    if failed ≤ 1 then (aggregate command failed total first).view
    else .object [("error", .str "Aggregate"), ("failed", .nat failed), ("first", .null),
      ("message", .null), ("total", .nat total)]
  | e => e.view

/-- The descriptions of failures, given how one within another is described. -/
def descriptions (inner : Decoder ClusterError) : List (Decoder.Variant ClusterError) :=
  let text (name : String) := Record.required name Decoder.string
  let number (name : String) := Record.required name (Decoder.u64.map (·.toNat))
  let variant (name : String) (r : Record ClusterError) : Decoder.Variant ClusterError :=
    ⟨name, name, r⟩
  [variant "Validation" (rejected <$> text "command" <*> text "reason"),
   variant "TableNotFound" (tableNotFound <$> text "table"),
   variant "Connection" (connection <$> text "server" <*> text "message"),
   variant "RemoteCall" (remoteCall <$> text "target" <*> text "message"),
   variant "Aggregate" (aggregate <$> text "command" <*> number "failed" <*> number "total"
     <*> Record.required "first" inner),
   variant "QueryTimeout" (queryTimeout <$> number "max_query_time_ms" <*> text "query"),
   variant "ReconnectTimeout" (reconnectTimeout <$> text "target" <*> text "execution_id"
     <*> number "budget_ms"),
   variant "Cancelled" (cancelled <$> Record.required "reason" Wire.decode),
   variant "Codec" (codec <$> text "message"),
   variant "Internal" (internal <$> text "message")]

/-- Reads a description in which failures are nested no deeper than that. -/
def describedWithin : Nat → Decoder ClusterError
  | 0 => Decoder.any.map fun _ => .internal ""
  | depth + 1 => .tagged "ClusterError" "kind" (descriptions (describedWithin depth))

/-- The failure that is described under a name, if there is a description. No description is nested
deeper than its text is long. -/
def describedIn? (j : Json) (name : String) : Option ClusterError :=
  (j.field? name).map fun d => Json.readOr (describedWithin d.encodedLength) (.internal "") d

end ScatterSearch.ClusterError
