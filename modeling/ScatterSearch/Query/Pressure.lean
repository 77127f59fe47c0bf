import ScatterSearch.Json.Binary64
import ScatterSearch.Query.Registry

/-!
# Back pressure

When a node's memory fills up, all its running queries are cancelled. The part of the limit that is
in use is a finite double; the threshold it is compared with may be any double.
-/

namespace ScatterSearch

/-- At which part of which limit queries are cancelled. -/
structure Pressure where
  limit : UInt64
  threshold : Double
  deriving DecidableEq, Repr

namespace Pressure

/-- The part of the limit in use; a limit of zero counts as one byte. -/
def fraction (p : Pressure) (used : UInt64) : Binary64 :=
  ((Binary64.ofInt used.toNat).div (.ofInt (max 1 p.limit.toNat))).getD .zero

/-- Whether so much memory in use is too much. Nothing is known of memory that cannot be measured.
-/
def isExceeded (p : Pressure) (used : Option UInt64) : Bool :=
  match used with
  | none => false
  | some u => !(p.fraction u).below p.threshold

/-- Cancels all running queries if memory is short, and says how many there were. -/
def check (p : Pressure) (used : Option UInt64) (now : Nat) (r : StatusRegistry) :
    Nat × StatusRegistry :=
  if p.isExceeded used then r.cancelAll now else (0, r)

end Pressure

end ScatterSearch
