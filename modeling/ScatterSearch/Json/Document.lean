import ScatterSearch.Json.Value

/-!
# Documents

A document is JSON as it was found, before anyone has said what it should mean: fields stand in the
order of the text, repeated names included, and a place where the text stops being JSON is part of
the tree. A reader that is told what to expect can so report the first thing that is wrong, whether
it is the shape or the text.

* `Doc.fault` is a place where nothing can be read;
* `Doc.suspect` is a value that is well formed but cannot be represented (a number out of range, a
  lone surrogate, too deep a nesting): it counts as wrong only if its value is asked for;
* `Doc.value` is a value already in hand, which has no faults.
-/

namespace ScatterSearch

/-- Why a text is not JSON. -/
inductive Fault where
  | endInList
  | endInObject
  | endInString
  | endInValue
  | expectedColon
  | expectedListEnd
  | expectedObjectEnd
  | expectedIdent
  | expectedValue
  | invalidEscape
  | invalidNumber
  | numberOutOfRange
  | controlCharacter
  | keyNotString
  | loneSurrogate
  | endOfHexEscape
  | trailingComma
  | trailingCharacters
  | tooDeep
  deriving DecidableEq, Repr

/-- The message of a fault. -/
def Fault.message : Fault → String
  | .endInList => "EOF while parsing a list"
  | .endInObject => "EOF while parsing an object"
  | .endInString => "EOF while parsing a string"
  | .endInValue => "EOF while parsing a value"
  | .expectedColon => "expected `:`"
  | .expectedListEnd => "expected `,` or `]`"
  | .expectedObjectEnd => "expected `,` or `\x7d`"
  | .expectedIdent => "expected ident"
  | .expectedValue => "expected value"
  | .invalidEscape => "invalid escape"
  | .invalidNumber => "invalid number"
  | .numberOutOfRange => "number out of range"
  | .controlCharacter => "control character (\\u0000-\\u001F) found while parsing a string"
  | .keyNotString => "key must be a string"
  | .loneSurrogate => "lone leading surrogate in hex escape"
  | .endOfHexEscape => "unexpected end of hex escape"
  | .trailingComma => "trailing comma"
  | .trailingCharacters => "trailing characters"
  | .tooDeep => "recursion limit exceeded"

/-- A document. -/
inductive Doc where
  /-- a value already in hand -/
  | value (j : Json)
  /-- an array: its items, and what went wrong after the last of them -/
  | arr (items : List Doc) (ending : Option Fault)
  /-- an object: its fields in order, and what went wrong after the last of them; a name can be
  unrepresentable like any string -/
  | obj (fields : List (String × Option Fault × Doc)) (ending : Option Fault)
  /-- nothing readable -/
  | fault (f : Fault)
  /-- well formed, but not representable -/
  | suspect (f : Fault) (inner : Doc)
  deriving Inhabited, Repr

namespace Doc

mutual

/-- The first fault of a document, in the order of the text. `strict` asks for every value to be
representable; otherwise the document is only passed over. -/
def firstFault (strict : Bool) : Doc → Option Fault
  | .value _ => none
  | .arr items ending => (firstFaultIn strict items).or ending
  | .obj fields ending => (firstFaultAmong strict fields).or ending
  | .fault f => some f
  | .suspect f inner => if strict then some f else inner.firstFault strict

/-- The first fault among the items of an array. -/
def firstFaultIn (strict : Bool) : List Doc → Option Fault
  | [] => none
  | d :: rest => (d.firstFault strict).or (firstFaultIn strict rest)

/-- The first fault among the fields of an object. -/
def firstFaultAmong (strict : Bool) : List (String × Option Fault × Doc) → Option Fault
  | [] => none
  | (_, bad, d) :: rest =>
    (if strict then bad else none).or ((d.firstFault strict).or (firstFaultAmong strict rest))

end

mutual

/-- The value of a document without faults. -/
def toJson : Doc → Json
  | .value j => j
  | .arr items _ => .arr (itemsToJson items)
  | .obj fields _ => Json.object (fieldsToJson fields)
  | .fault _ => .null
  | .suspect _ _ => .null

/-- The values of the items of an array. -/
def itemsToJson : List Doc → List Json
  | [] => []
  | d :: rest => d.toJson :: itemsToJson rest

/-- The values of the fields of an object, in order and with repetitions. -/
def fieldsToJson : List (String × Option Fault × Doc) → List (String × Json)
  | [] => []
  | (k, _, d) :: rest => (k, d.toJson) :: fieldsToJson rest

end

end Doc

end ScatterSearch
