import ScatterSearch.Query.Descriptor

/-!
# Query states

A query runs until it is complete or interrupted; the three ways to end are final.
-/

namespace ScatterSearch

/-- Where a query stands. -/
inductive QueryState where
  | running
  | complete
  /-- by its user -/
  | interrupted
  /-- because the node ran short of memory -/
  | backPressureInterrupted
  deriving DecidableEq, Repr

namespace QueryState

/-- The name of a state in documents. -/
def name : QueryState → String
  | .running => "RUNNING"
  | .complete => "COMPLETE"
  | .interrupted => "INTERRUPTED"
  | .backPressureInterrupted => "BACK_PRESSURE_INTERRUPTED"

/-- Whether the query has ended. -/
def isTerminal : QueryState → Bool
  | .running => false
  | _ => true

/-- Why an interrupted query was interrupted. -/
def cancelReason : QueryState → Option CancelReason
  | .interrupted => some .user
  | .backPressureInterrupted => some .backPressure
  | .running => none
  | .complete => none

instance : Wire QueryState where
  encode s := .str s.name
  decode := Decoder.enum
    ([running, complete, interrupted, backPressureInterrupted].map fun s => (s.name, s))

end QueryState

/-- What a node calls one registered query. -/
structure StatusId where
  number : UInt64
  deriving DecidableEq, Repr

instance : Wire StatusId := ⟨fun i => .uint64 i.number, Decoder.u64.map StatusId.mk⟩

/-- A registered query as the node shows it. -/
structure StatusView where
  id : StatusId
  table : String
  uuid : String
  query : Json
  user : Option String
  state : QueryState
  /-- the flag that the search itself watches -/
  running : Bool
  /-- when it was registered, by the wall clock -/
  startedAt : UInt64
  /-- how long it ran, or has run -/
  elapsed : UInt64
  deriving Repr, BEq

instance : Wire StatusView where
  encode v := .obj [("elapsed_ms", .uint64 v.elapsed), ("id", encode v.id), ("query", v.query),
    ("running", .bool v.running), ("started_at_ms", .uint64 v.startedAt), ("state", encode v.state),
    ("table", .str v.table), ("user", .option .str v.user), ("uuid", .str v.uuid)]
  decode := Record.decoder "struct QueryStatusSnapshot" <|
    StatusView.mk <$> Record.required "id" Wire.decode
      <*> Record.required "table" Decoder.string
      <*> Record.required "uuid" Decoder.string
      <*> Record.required "query" Decoder.any
      <*> Record.optional "user" Decoder.string
      <*> Record.required "state" Wire.decode
      <*> Record.required "running" Decoder.bool
      <*> Record.required "started_at_ms" Decoder.u64
      <*> Record.required "elapsed_ms" Decoder.u64

/-- What a cancel request did. -/
structure CancelReport where
  table : String
  uuid : String
  cancelled : UInt64
  deriving DecidableEq, Repr

instance : Wire CancelReport where
  encode r := .obj [("cancelled", .uint64 r.cancelled), ("table", .str r.table),
    ("uuid", .str r.uuid)]
  decode := Record.decoder "struct CancelResponse" <|
    CancelReport.mk <$> Record.required "table" Decoder.string
      <*> Record.required "uuid" Decoder.string
      <*> Record.required "cancelled" Decoder.count

end ScatterSearch
