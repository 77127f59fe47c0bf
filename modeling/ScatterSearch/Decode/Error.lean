import ScatterSearch.Json.Document
import ScatterSearch.Text.Quoted

/-!
# What can be wrong with the shape of a document

A decoder asks a document for a value of a certain type. `DecodeError` is what it says when the
document has another shape, and `DecodeError.message` its wording.
-/

namespace ScatterSearch

/-- What stands in a document where something else was expected. -/
inductive Found where
  | null
  | bool (b : Bool)
  | int (i : Int)
  | real (x : Binary64)
  | str (s : String)
  | seq
  | map
  deriving DecidableEq, Repr

/-- The wording for what was found. -/
def Found.text : Found → String
  | .null => "null"
  | .bool true => "boolean `true`"
  | .bool false => "boolean `false`"
  | .int i => "integer `" ++ (Number.int i).text ++ "`"
  | .real x => "floating point `" ++ x.text ++ "`"
  | .str s => "string " ++ Text.quoted s
  | .seq => "sequence"
  | .map => "map"

/-- What a value in hand looks like. -/
def Found.ofJson : Json → Found
  | .null => .null
  | .bool b => .bool b
  | .num (.int i) => .int i
  | .num (.real x) => .real x
  | .str s => .str s
  | .arr _ => .seq
  | .obj _ => .map

/-- Why a document does not decode. -/
inductive DecodeError where
  /-- the text is not JSON -/
  | malformed (f : Fault)
  | missingField (name : String)
  | duplicateField (name : String)
  | wrongType (found : Found) (expected : String)
  | wrongValue (found : Found) (expected : String)
  | wrongLength (length : Nat) (expected : String)
  | unknownVariant (name : String) (known : List String)
  | badSocketAddress
  deriving DecidableEq, Repr

namespace DecodeError

/-- The known names of a variant, as a message lists them. -/
def alternatives : List String → String
  | [] => "there are no variants"
  | [a] => "expected `" ++ a ++ "`"
  | [a, b] => "expected `" ++ a ++ "` or `" ++ b ++ "`"
  | names => "expected one of " ++ ", ".intercalate (names.map fun n => "`" ++ n ++ "`")

/-- The message of an error. -/
def message : DecodeError → String
  | .malformed f => f.message
  | .missingField name => "missing field `" ++ name ++ "`"
  | .duplicateField name => "duplicate field `" ++ name ++ "`"
  | .wrongType found expected => "invalid type: " ++ found.text ++ ", expected " ++ expected
  | .wrongValue found expected => "invalid value: " ++ found.text ++ ", expected " ++ expected
  | .wrongLength n expected => "invalid length " ++ Nat.repr n ++ ", expected " ++ expected
  | .unknownVariant name known => "unknown variant `" ++ name ++ "`, " ++ alternatives known
  | .badSocketAddress => "invalid socket address syntax"

/-- Whether the text itself is at fault, rather than its shape. -/
def isMalformed : DecodeError → Bool
  | .malformed _ => true
  | _ => false

end DecodeError

/-- A number of things, in words: `1 element`, `2 elements`. -/
def counted (n : Nat) (singular : String) : String :=
  Nat.repr n ++ " " ++ singular ++ (if n = 1 then "" else "s")

end ScatterSearch
