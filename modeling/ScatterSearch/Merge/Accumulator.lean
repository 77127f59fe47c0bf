import ScatterSearch.Search.Hits
import ScatterSearch.Search.Message

/-!
# Accumulators

An accumulator folds the parts that calls return into one aggregate, and knows how many results the
aggregate stands for. A merge takes parts in until there are enough results. To add a part may
panic; then there is no aggregate any more.
-/

namespace ScatterSearch

/-- How parts of type `π` are folded into an aggregate of type `α`. -/
structure Accumulator (α π : Type) where
  empty : α
  add : α → π → α
  /-- how many results there are in all -/
  total : α → UInt64
  /-- whether to add a part panics -/
  panics : α → π → Bool

namespace Accumulator

variable {α π : Type}

/-- The aggregate of parts that come in the given order, if none of them panics. -/
def fold (acc : Accumulator α π) (parts : List π) : α := parts.foldl acc.add acc.empty

/-- The aggregate with one more part; none if to add it panics. -/
def add? (acc : Accumulator α π) (a : α) (part : π) : Option α :=
  if acc.panics a part then none else some (acc.add a part)

/-- The aggregate of parts that come in the given order; none if one of them panics. -/
def fold? (acc : Accumulator α π) (parts : List π) : Option α := parts.foldlM acc.add? acc.empty

/-- The accumulator of a search. -/
def search : Accumulator SearchResults ShardHits :=
  ⟨.empty, .add, (·.totalResults), SearchResults.overflows⟩

end Accumulator

/-- When a merge stops. -/
structure MergeLimits where
  /-- this many results are enough -/
  minimum : UInt64
  /-- how long to wait for the next part -/
  maxQueryTime : Nat
  deriving DecidableEq, Repr

/-- What came of a merge. -/
structure MergeOutcome (α : Type) where
  aggregate : α
  state : MergeState
  /-- how many calls had their part merged -/
  completed : Nat
  /-- how many calls were told to stop -/
  cancelled : Nat

end ScatterSearch
