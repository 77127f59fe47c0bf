/-!
# Finite maps as lists

A small finite map in which keys keep the order in which they first came. Layouts, tables of open
executions and postings are such maps.
-/

namespace ScatterSearch

/-- A list of pairs read as a finite map: the first pair with a key counts. -/
abbrev Assoc (κ ν : Type) := List (κ × ν)

namespace Assoc

variable {κ ν : Type} [DecidableEq κ]

/-- The value of a key. -/
def get? (m : Assoc κ ν) (k : κ) : Option ν :=
  match m with
  | [] => none
  | (k', v) :: rest => if k' = k then some v else get? rest k

/-- Sets the value of a key; a new key goes to the end. -/
def put (m : Assoc κ ν) (k : κ) (v : ν) : Assoc κ ν :=
  match m with
  | [] => [(k, v)]
  | (k', v') :: rest => if k' = k then (k, v) :: rest else (k', v') :: put rest k v

/-- Forgets a key. -/
def erase (m : Assoc κ ν) (k : κ) : Assoc κ ν := m.filter (·.1 ≠ k)

/-- Whether a key has a value. -/
def has (m : Assoc κ ν) (k : κ) : Bool := (m.get? k).isSome

/-- The keys, in order. -/
def keys (m : Assoc κ ν) : List κ := m.map (·.1)

/-- The map with the given pairs, a later one replacing an earlier one of the same key. -/
def ofList (entries : List (κ × ν)) : Assoc κ ν := entries.foldl (fun m (k, v) => m.put k v) []

end Assoc

end ScatterSearch
