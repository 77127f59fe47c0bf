import ScatterSearch.Assoc
import ScatterSearch.Decode.Record

/-!
# Call counters

How often each operation was called, how often it failed, and how long it took on the whole. The
counters are 64-bit words.
-/

namespace ScatterSearch

/-- The counters of one operation. -/
structure CallCount where
  invokes : UInt64
  failures : UInt64
  nanos : UInt64
  deriving DecidableEq, Repr

/-- The counters of one operation as a node shows them. -/
structure CallCountView where
  name : String
  invokes : UInt64
  failures : UInt64
  averageMicros : Binary64
  deriving DecidableEq, Repr

instance : Wire CallCountView where
  encode v := .obj [("average_micros", .num (.real v.averageMicros)),
    ("failures", .uint64 v.failures), ("invokes", .uint64 v.invokes), ("name", .str v.name)]
  decode := Record.decoder "struct MethodCallSnapshot" <|
    CallCountView.mk <$> Record.required "name" Decoder.string
      <*> Record.required "invokes" Decoder.u64
      <*> Record.required "failures" Decoder.u64
      <*> Record.required "average_micros" Decoder.binary64

/-- The counters of all operations that were called. -/
abbrev Metrics := Assoc String CallCount

namespace Metrics

/-- Nothing was called. -/
def empty : Metrics := []

/-- Counts one call that took so many nanoseconds. -/
def record (m : Metrics) (name : String) (nanos : UInt64) (failed : Bool) : Metrics :=
  let c := (Assoc.get? m name).getD ⟨0, 0, 0⟩
  Assoc.put m name ⟨c.invokes + 1, if failed then c.failures + 1 else c.failures, c.nanos + nanos⟩

/-- How often an operation was called. -/
def invokes (m : Metrics) (name : String) : UInt64 :=
  ((Assoc.get? m name).map (·.invokes)).getD 0

/-- The mean time of one call in microseconds. -/
def averageMicros (c : CallCount) : Binary64 :=
  let double (n : UInt64) : Binary64 := .ofInt n.toNat
  ((do
    let mean ← (double c.nanos).div (double c.invokes)
    mean.div (.ofInt 1000)) : Option Binary64).getD .zero

/-- The counters by name. -/
def view (m : Metrics) : List CallCountView :=
  (List.mergeSort m fun a b => decide (a.1 ≤ b.1)).map fun (name, c) =>
    ⟨name, c.invokes, c.failures, if c.invokes = 0 then .zero else averageMicros c⟩

end Metrics

end ScatterSearch
