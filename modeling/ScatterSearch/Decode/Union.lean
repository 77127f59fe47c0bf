import ScatterSearch.Decode.Record

/-!
# Unions

Two ways to write one of several alternatives:

* `Decoder.enum` reads a bare name, or an object of one field whose name it is and whose value is
  `null`;
* `Decoder.tagged` reads a record that has, beside its own fields, one that names the alternative.
  In the array form the name comes first.
-/

namespace ScatterSearch

namespace Decoder

variable {α : Type}

/-- The alternative of a name. -/
def pick (alternatives : List (String × α)) (name : String) : Except DecodeError α :=
  match alternatives.find? (·.1 = name) with
  | some (_, a) => .ok a
  | none => .error (.unknownVariant name (alternatives.map (·.1)))

/-- One of several names. -/
def enum (alternatives : List (String × α)) : Decoder α := fun o doc =>
  match Shape.of doc, o with
  | .leaf (.str s), _ => pick alternatives s
  | .map ((name, bad, v) :: more) ending, .text => do
    rejectFault bad
    let a ← pick alternatives name
    unit o v
    rejectFault ending
    if more.isEmpty then return a else throw (.malformed .expectedValue)
  | .map [(name, _, v)] _, _ => do
    let a ← pick alternatives name
    unit o v
    return a
  | .map [] ending, .text => .error (.malformed (ending.getD .expectedValue))
  | .map _ _, _ => .error (.wrongValue .map "map with a single key")
  | .broken f, _ => .error (.malformed f)
  | _, .text => .error (.malformed .expectedValue)
  | s, _ => .error (s.mismatch "string or map")

/-- One alternative of a tagged union. -/
structure Variant (α : Type) where
  /-- its name in documents -/
  name : String
  /-- its name in messages -/
  label : String
  record : Record α

/-- The alternative that the value of a tag names. A value that was set aside may give the position
of the alternative instead of its name. -/
def tag (variants : List (Variant α)) : Decoder (Variant α) := fun o doc =>
  match Shape.of doc, o with
  | .leaf (.str s), _ => pick (variants.map fun v => (v.name, v)) s
  | .leaf (.num (.int (.ofNat i))), .buffered =>
    match variants[i]? with
    | some v => .ok v
    | none => .error (.wrongValue (.int i)
        ("variant index 0 <= i < " ++ Nat.repr variants.length))
  | s, _ => .error (s.mismatch "variant identifier")

/-- Goes through the fields of a tagged object: finds the alternative and sets the other fields
aside. -/
def splitTag (tagName : String) (variants : List (Variant α)) (o : Origin) :
    Option (Variant α) → List (String × Option Fault × Doc) →
      Except DecodeError (Option (Variant α))
  | found, [] => .ok found
  | found, (name, bad, doc) :: rest => do
    rejectFault bad
    if name = tagName then
      if found.isSome then throw (.duplicateField tagName)
      let v ← tag variants o doc
      splitTag tagName variants o (some v) rest
    else
      rejectFault (doc.firstFault true)
      splitTag tagName variants o found rest

/-- A tagged union, under the names of the union and of its tag. -/
def tagged (unionName tagName : String) (variants : List (Variant α)) : Decoder α := fun o doc =>
  match Shape.of doc with
  | .map fields ending => do
    let found ← splitTag tagName variants o none fields
    rejectFault ending
    match found with
    | none => throw (.missingField tagName)
    | some v => v.record.ofMap .buffered (fields.filter (·.1 ≠ tagName)) none
  | .seq [] ending => do
    rejectFault ending
    throw (.missingField tagName)
  | .seq (first :: rest) ending => do
    let v ← tag variants o first
    rejectFault (Doc.firstFaultIn true rest)
    rejectFault ending
    v.record.ofSeq ("struct variant " ++ unionName ++ "::" ++ v.label) .buffered rest none
  | s => .error (s.mismatch ("internally tagged enum " ++ unionName))

end Decoder

end ScatterSearch
