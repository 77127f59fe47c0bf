import ScatterSearch.Decode.Decoder

/-!
# Looking into values

For documents that hold what is wanted under a name, or do not: a missing field, or one of another
shape than is expected, stands for a default.
-/

namespace ScatterSearch

namespace Json

/-- The field of an object under a name. -/
def field? (j : Json) (name : String) : Option Json :=
  match j with
  | .obj fields => (fields.find? (·.1 = name)).map (·.2)
  | _ => none

/-- The field under a name, or `null`. -/
def field (j : Json) (name : String) : Json := (j.field? name).getD .null

/-- What a decoder makes of a value, or the default if it makes nothing of it. -/
def readOr {α : Type} (d : Decoder α) (default : α) (j : Json) : α :=
  (d.run j).toOption.getD default

/-- The fields of an object. -/
def fields : Json → List (String × Json)
  | .obj fields => fields
  | _ => []

/-- The items of a list. -/
def items : Json → List Json
  | .arr items => items
  | _ => []

/-- The text of a string. -/
def asString? : Json → Option String
  | .str s => some s
  | _ => none

/-- The value of an integer that is not negative. -/
def asNat? : Json → Option Nat
  | .num (.int i) => if 0 ≤ i then some i.toNat else none
  | _ => none

/-- Whether there is a field under a name. -/
def has (j : Json) (name : String) : Bool := (j.field? name).isSome

/-- The string under a name, if there is one. -/
def string? (j : Json) (name : String) : Option String := (j.field? name).bind asString?

/-- The string under a name, or the empty one. -/
def string (j : Json) (name : String) : String := (j.string? name).getD ""

/-- The number under a name, if there is one. -/
def nat? (j : Json) (name : String) : Option Nat := (j.field? name).bind asNat?

/-- The number under a name, or zero. -/
def natural (j : Json) (name : String) : Nat := (j.nat? name).getD 0

/-- The list under a name, or the empty one. -/
def list (j : Json) (name : String) : List Json := (j.field name).items

/-- Whether the field under a name is `true`. -/
def flag (j : Json) (name : String) : Bool := readOr Decoder.bool false (j.field name)

/-- The value under a name in its own encoding, or the default. -/
def wired {α : Type} [Wire α] (default : α) (j : Json) (name : String) : α :=
  readOr Wire.decode default (j.field name)

end Json

end ScatterSearch
