import ScatterSearch.Json.Binary64

/-!
# JSON values

The values that commands carry and nodes exchange. A number is an integer of the 64-bit ranges or a
finite double; `1` and `1.0` are different numbers. The fields of an object are a list of pairs:
`Json.object` builds it with its names in increasing code point order, the last of equal names
winning, and everything the library builds goes through it.
-/

namespace ScatterSearch

/-- A JSON number. -/
inductive Number where
  /-- an integer, signed or unsigned, of 64 bits -/
  | int (i : Int)
  /-- any other number -/
  | real (x : Binary64)
  deriving DecidableEq, Repr

namespace Number

/-- The integers that stay integers: from the least signed to the greatest unsigned one. -/
def integral (i : Int) : Bool := decide (Int64.minValue.toInt ≤ i ∧ i < UInt64.size)

/-- An integer literal's number: an integer in range, else the nearest double. -/
def ofInt (i : Int) : Number := if integral i then .int i else .real (.ofInt i)

/-- The double nearest the number. -/
def toBinary64 : Number → Binary64
  | .int i => .ofInt i
  | .real x => x

/-- The number's text. -/
def text : Number → String
  | .int i => if i < 0 then "-" ++ Nat.repr i.natAbs else Nat.repr i.toNat
  | .real x => x.text

end Number

/-- A JSON value. -/
inductive Json where
  | null
  | bool (b : Bool)
  | num (n : Number)
  | str (s : String)
  | arr (items : List Json)
  | obj (fields : List (String × Json))
  deriving Repr, Inhabited, BEq

namespace Json

/-- Puts a field into a list sorted by name, replacing one of the same name. -/
def insertField (name : String) (v : Json) : List (String × Json) → List (String × Json)
  | [] => [(name, v)]
  | (k, w) :: rest =>
    if name < k then (name, v) :: (k, w) :: rest
    else if name = k then (name, v) :: rest
    else (k, w) :: insertField name v rest

/-- The fields in order of their names; of equal names the last one counts. -/
def sortFields (fields : List (String × Json)) : List (String × Json) :=
  fields.foldl (fun acc f => insertField f.1 f.2 acc) []

/-- An object with the given fields. -/
def object (fields : List (String × Json)) : Json := .obj (sortFields fields)

/-- A natural number. -/
def nat (n : Nat) : Json := .num (.int n)

/-- An unsigned 64-bit number. -/
def uint64 (n : UInt64) : Json := .num (.int n.toNat)

/-- A double; `null` where it is not finite. -/
def double : Double → Json
  | .finite x => .num (.real x)
  | .infinite _ | .nan => .null

/-- A list of strings. -/
def strings (xs : List String) : Json := .arr (xs.map .str)

/-- `null` for a missing value. -/
def option {α : Type} (f : α → Json) : Option α → Json
  | none => .null
  | some a => f a

end Json

end ScatterSearch
