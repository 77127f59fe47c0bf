import ScatterSearch.Decode.Error
import ScatterSearch.Json.Reader

/-!
# Decoders

A decoder reads a value of some type out of a document. The same decoder serves a text and a value
in hand: `Decoder.parse` and `Decoder.run`. Where the two differ in what they report, the decoder
looks at the `Origin` of the document.

* scalars: `string`, `bool`, `unsigned`, `binary64`, `socketAddress` elsewhere;
* `any` keeps the value as it is, `option` takes `null` for a missing value;
* `list`, `map` and `pair` read sequences and maps.
-/

namespace ScatterSearch

/-- Where a document comes from. -/
inductive Origin where
  /-- it is being read from a text, one part after the other -/
  | text
  /-- it is a value in hand -/
  | value
  /-- it was set aside, and is read again now that its variant is known -/
  | buffered
  deriving DecidableEq, Repr

/-- Reads a value out of a document. -/
abbrev Decoder (α : Type) := Origin → Doc → Except DecodeError α

/-- The outermost layer of a document. -/
inductive Shape where
  | leaf (j : Json)
  | seq (items : List Doc) (ending : Option Fault)
  | map (fields : List (String × Option Fault × Doc)) (ending : Option Fault)
  | broken (f : Fault)

namespace Shape

/-- The shape of a value in hand. -/
def ofJson : Json → Shape
  | .arr items => .seq (items.map .value) none
  | .obj fields => .map (fields.map fun (k, v) => (k, none, .value v)) none
  | j => .leaf j

/-- The shape of a document. -/
def of : Doc → Shape
  | .value j => ofJson j
  | .arr items ending => .seq items ending
  | .obj fields ending => .map fields ending
  | .fault f => .broken f
  | .suspect f _ => .broken f

/-- The error of finding this where `expected` was asked for. -/
def mismatch (expected : String) : Shape → DecodeError
  | .leaf j => .wrongType (.ofJson j) expected
  | .seq _ _ => .wrongType .seq expected
  | .map _ _ => .wrongType .map expected
  | .broken f => .malformed f

end Shape

/-- A fault, if there is one, as an error. -/
def rejectFault : Option Fault → Except DecodeError Unit
  | some f => .error (.malformed f)
  | none => .ok ()

namespace Decoder

variable {α β : Type}

/-- Decodes a value in hand. -/
def run (d : Decoder α) (j : Json) : Except DecodeError α := d .value (.value j)

/-- Decodes a text, which must hold nothing after the value. -/
def parse (d : Decoder α) (text : String) : Except DecodeError α := do
  let (doc, trailing) := Doc.ofText text
  let a ← d .text doc
  rejectFault trailing
  return a

/-- Decodes the value at the start of a text and ignores what follows it. -/
def parseStart (d : Decoder α) (text : String) : Except DecodeError α := d .text (Doc.read text).1

/-- Applies a function to the value that was read. -/
def map (f : α → β) (d : Decoder α) : Decoder β := fun o doc => (d o doc).map f

/-- Any value, as it is. -/
def any : Decoder Json := fun _ doc =>
  match doc.firstFault true with
  | some f => .error (.malformed f)
  | none => .ok doc.toJson

/-- A string. -/
def string : Decoder String := fun _ doc =>
  match Shape.of doc with
  | .leaf (.str s) => .ok s
  | s => .error (s.mismatch "a string")

/-- A truth value. -/
def bool : Decoder Bool := fun _ doc =>
  match Shape.of doc with
  | .leaf (.bool b) => .ok b
  | s => .error (s.mismatch "a boolean")

/-- An unsigned 64-bit integer, under the name its field has for it. -/
def unsigned (name : String) : Decoder UInt64 := fun _ doc =>
  match Shape.of doc with
  | .leaf (.num (.int i)) =>
    if 0 ≤ i then .ok (UInt64.ofNat i.toNat) else .error (.wrongValue (.int i) name)
  | s => .error (s.mismatch name)

/-- An amount or an identity. -/
def u64 : Decoder UInt64 := unsigned "u64"

/-- A number of things. -/
def count : Decoder UInt64 := unsigned "usize"

/-- A finite double; an integer is taken for the double nearest to it. -/
def binary64 : Decoder Binary64 := fun _ doc =>
  match Shape.of doc with
  | .leaf (.num n) => .ok n.toBinary64
  | s => .error (s.mismatch "f64")

/-- A double. Those that are read are finite. -/
def double : Decoder Double := binary64.map .finite

/-- `null`, or a value. -/
def option (d : Decoder α) : Decoder (Option α) := fun o doc =>
  match Shape.of doc with
  | .leaf .null => .ok none
  | _ => (d o doc).map some

/-- `null` only. -/
def unit : Decoder Unit := fun _ doc =>
  match Shape.of doc with
  | .leaf .null => .ok ()
  | s => .error (s.mismatch "unit")

/-- A sequence of values. -/
def list (d : Decoder α) : Decoder (List α) := fun o doc =>
  match Shape.of doc with
  | .seq items ending => do
    let xs ← items.mapM (d o)
    rejectFault ending
    return xs
  | s => .error (s.mismatch "a sequence")

/-- A map from strings, in the order of the document. -/
def entries (d : Decoder α) : Decoder (List (String × α)) := fun o doc =>
  match Shape.of doc with
  | .map fields ending => do
    let xs ← fields.mapM fun (k, bad, v) => do
      rejectFault bad
      return (k, ← d o v)
    rejectFault ending
    return xs
  | s => .error (s.mismatch "a map")

/-- Refuses what stands in a sequence after the first `count` items. -/
def noSurplus (o : Origin) (count : Nat) (items : List Doc) (ending : Option Fault) :
    Except DecodeError Unit :=
  if count < items.length then
    match o with
    | .text => .error (.malformed .trailingCharacters)
    | .value => .error (.wrongLength items.length "fewer elements in array")
    | .buffered => .error (.wrongLength items.length (counted count "element" ++ " in sequence"))
  else rejectFault ending

/-- A sequence of two. -/
def pair (a : Decoder α) (b : Decoder β) : Decoder (α × β) := fun o doc =>
  let expected := "a tuple of size 2"
  match Shape.of doc with
  | .seq [] ending => do
    rejectFault ending
    .error (.wrongLength 0 expected)
  | .seq [x] ending => do
    let _ ← a o x
    rejectFault ending
    .error (.wrongLength 1 expected)
  | .seq (x :: y :: more) ending => do
    let u ← a o x
    let v ← b o y
    noSurplus o 2 (x :: y :: more) ending
    return (u, v)
  | s => .error (s.mismatch expected)

end Decoder

/-- Types with one encoding, written by `encode` and read by `decode`. -/
class Wire (α : Type) where
  encode : α → Json
  decode : Decoder α

export Wire (encode)

instance : Wire Json := ⟨id, Decoder.any⟩

instance : Wire String := ⟨.str, Decoder.string⟩

end ScatterSearch
