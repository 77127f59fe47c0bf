import ScatterSearch.Json.Document

/-!
# Reading JSON text

`Doc.read` turns a text into a document and says where the document ends. Reading never fails: where
the text is not JSON the document has a fault, and nothing after it is looked at.

A number with more digits than a 64-bit significand holds keeps the digits that fit; the others only
move the decimal point.
-/

namespace ScatterSearch

namespace Json

/-- The four blank characters. -/
def isBlank (c : Char) : Bool := c = ' ' || c = '\n' || c = '\t' || c = '\r'

/-- The text after its leading blanks. -/
def skipBlanks (cs : List Char) : List Char := cs.dropWhile isBlank

/-- A decimal digit. -/
def isDigit (c : Char) : Bool := '0' ≤ c && c ≤ '9'

/-- The value of a decimal digit. -/
def digitValue (c : Char) : Nat := c.toNat - 48

/-- The value of a hexadecimal digit of either case. -/
def hexValue? (c : Char) : Option Nat :=
  if isDigit c then some (digitValue c)
  else if 'a' ≤ c ∧ c ≤ 'f' then some (c.toNat - 87)
  else if 'A' ≤ c ∧ c ≤ 'F' then some (c.toNat - 55)
  else none

/-! ## Numbers -/

/-- The digits of a number literal, split at its marks. -/
structure Literal where
  negative : Bool
  whole : List Char
  /-- the digits after the point, when there is one -/
  fraction : Option (List Char)
  exponent : Option Int

namespace Literal

/-- Takes digits into a significand below `2 ^ 64` and returns it with the digits that did not fit.
-/
def absorb : Nat → List Char → Nat × List Char
  | s, [] => (s, [])
  | s, d :: ds =>
    if s * 10 + digitValue d < UInt64.size then absorb (s * 10 + digitValue d) ds else (s, d :: ds)

/-- The number of a literal, or `none` where it is too large for a double. -/
def number? (l : Literal) : Option Number :=
  let (s, left) := absorb 0 l.whole
  let real (s : Nat) (e : Int) : Option Number :=
    (Binary64.ofDecimal l.negative s (e + l.exponent.getD 0)).map .real
  match l.fraction, l.exponent, left with
  | none, none, [] =>
    if l.negative then if s = 0 ∨ -s < Int64.minValue.toInt then real s 0 else some (.int (-s))
    else some (.int s)
  | none, _, _ => real s left.length
  | some ds, _, _ =>
    let (s', dropped) := absorb s ds
    real s' (left.length - (ds.length - dropped.length : Nat))

end Literal

/-- Reads digits, of which there must be one, with the fault for what stands there instead. -/
def readDigits (cs : List Char) : Except Fault (List Char × List Char) :=
  match cs.takeWhile isDigit, cs.dropWhile isDigit with
  | [], [] => .error .endInValue
  | [], _ => .error .invalidNumber
  | ds, rest => .ok (ds, rest)

/-- Reads the exponent of a number, if it has one. -/
def readExponent : List Char → Except Fault (Option Int × List Char)
  | c :: rest =>
    if c = 'e' ∨ c = 'E' then
      match rest with
      | '-' :: more => (readDigits more).map fun (ds, r) => (some (-natOf ds : Int), r)
      | '+' :: more => (readDigits more).map fun (ds, r) => (some (natOf ds : Int), r)
      | more => (readDigits more).map fun (ds, r) => (some (natOf ds : Int), r)
    else .ok (none, c :: rest)
  | [] => .ok (none, [])
where
  /-- The value of a run of digits. -/
  natOf (ds : List Char) : Nat := ds.foldl (fun n d => n * 10 + digitValue d) 0

/-- Reads a number literal: no leading zeros, and digits on both sides of a point. -/
def readLiteral (cs : List Char) : Except Fault (Literal × List Char) := do
  let (negative, cs) := match cs with
    | '-' :: rest => (true, rest)
    | rest => (false, rest)
  let (whole, cs) ← readDigits cs
  if whole.head? = some '0' ∧ 1 < whole.length then throw .invalidNumber
  match cs with
  | '.' :: rest =>
    let (fraction, rest) ← readDigits rest
    let (exponent, rest) ← readExponent rest
    return (⟨negative, whole, some fraction, exponent⟩, rest)
  | rest =>
    let (exponent, rest) ← readExponent rest
    return (⟨negative, whole, none, exponent⟩, rest)

/-! ## Strings -/

/-- Reads the four digits of a `\u` escape. -/
def readHex : List Char → Except Fault (Nat × List Char)
  | a :: b :: c :: d :: rest =>
    match hexValue? a, hexValue? b, hexValue? c, hexValue? d with
    | some a, some b, some c, some d => .ok (((a * 16 + b) * 16 + c) * 16 + d, rest)
    | _, _, _, _ => .error .invalidEscape
  | _ => .error .endInString

/-- A code unit of the first half of a surrogate pair. -/
def isHighSurrogate (n : Nat) : Bool := decide (0xD800 ≤ n ∧ n ≤ 0xDBFF)

/-- A code unit of the second half of a surrogate pair. -/
def isLowSurrogate (n : Nat) : Bool := decide (0xDC00 ≤ n ∧ n ≤ 0xDFFF)

/-- The outcome of one escape: a character, or the fault of a code unit that stands alone. -/
def readEscape : List Char → Except Fault (Except Fault Char × List Char)
  | [] => .error .endInString
  | 'b' :: rest => .ok (.ok (Char.ofNat 8), rest)
  | 'f' :: rest => .ok (.ok (Char.ofNat 12), rest)
  | 'n' :: rest => .ok (.ok '\n', rest)
  | 'r' :: rest => .ok (.ok '\r', rest)
  | 't' :: rest => .ok (.ok '\t', rest)
  | 'u' :: rest => do
    let (n, rest) ← readHex rest
    if isLowSurrogate n then return (.error .loneSurrogate, rest)
    if !isHighSurrogate n then return (.ok (Char.ofNat n), rest)
    match rest with
    | '\\' :: 'u' :: more =>
      let (m, more) ← readHex more
      if isLowSurrogate m then
        return (.ok (Char.ofNat (0x10000 + (n - 0xD800) * 0x400 + (m - 0xDC00))), more)
      else return (.error .loneSurrogate, more)
    | [] => throw .endInString
    | rest => return (.error .endOfHexEscape, rest)
  | c :: rest => if c = '"' ∨ c = '\\' ∨ c = '/' then .ok (.ok c, rest) else .error .invalidEscape

/-- A string read up to its closing quote: its characters, the first code unit in it that is no
character, and either the text after it or the fault that ended it. -/
structure ReadString where
  text : List Char
  bad : Option Fault
  rest : Except Fault (List Char)

/-- Reads a string after its opening quote. The fuel is the length of the text. -/
def readString : Nat → List Char → Option Fault → List Char → ReadString
  | _, acc, bad, [] => ⟨acc.reverse, bad, .error .endInString⟩
  | 0, acc, bad, _ => ⟨acc.reverse, bad, .error .endInString⟩
  | fuel + 1, acc, bad, c :: cs =>
    if c = '"' then ⟨acc.reverse, bad, .ok cs⟩
    else if c = '\\' then
      match readEscape cs with
      | .error f => ⟨acc.reverse, bad, .error f⟩
      | .ok (.ok d, rest) => readString fuel (d :: acc) bad rest
      | .ok (.error f, rest) => readString fuel acc (bad.or (some f)) rest
    else if c.toNat < 32 then ⟨acc.reverse, bad, .error .controlCharacter⟩
    else readString fuel (c :: acc) bad cs

/-! ## Values -/

/-- What was read, and the text after it; no text when a fault ended the reading. -/
abbrev Reading (α : Type) := α × Option (List Char)

/-- Nothing could be read. -/
def stuck (f : Fault) : Reading Doc := (.fault f, none)

/-- Reads the rest of one of the three words of JSON. -/
def readWord (word : List Char) (v : Json) (cs : List Char) : Reading Doc :=
  match word, cs with
  | [], rest => (.value v, some rest)
  | _ :: _, [] => stuck .endInValue
  | w :: ws, c :: rest => if c = w then readWord ws v rest else stuck .expectedIdent

/-- Marks a document that is nested too deeply to be represented. -/
def limitDepth (depth : Nat) (r : Reading Doc) : Reading Doc :=
  if depth = 0 then (.suspect .tooDeep r.1, r.2) else r

/-- How many arrays and objects may be open at once. -/
def depthLimit : Nat := 127

mutual

/-- Reads one value. `depth` is how many more arrays and objects may be opened. -/
def readValue : Nat → Nat → List Char → Reading Doc
  | 0, _, _ => stuck .endInValue
  | fuel + 1, depth, cs =>
    match skipBlanks cs with
    | [] => stuck .endInValue
    | 'n' :: rest => readWord "ull".toList .null rest
    | 't' :: rest => readWord "rue".toList (.bool true) rest
    | 'f' :: rest => readWord "alse".toList (.bool false) rest
    | '"' :: rest =>
      let r := readString rest.length [] none rest
      let doc := match r.rest with
        | .ok _ => Doc.value (.str (String.ofList r.text))
        | .error f => .fault f
      (match r.bad with | some f => .suspect f doc | none => doc, r.rest.toOption)
    | '[' :: rest => limitDepth depth (readItems fuel (depth - 1) true [] rest)
    | '\x7b' :: rest => limitDepth depth (readFields fuel (depth - 1) true [] rest)
    | c :: rest =>
      if c = '-' ∨ isDigit c then
        match readLiteral (c :: rest) with
        | .error f => stuck f
        | .ok (l, rest) =>
          match l.number? with
          | some n => (.value (.num n), some rest)
          | none => (.suspect .numberOutOfRange (.value .null), some rest)
      else stuck .expectedValue

/-- Reads the items of an array up to its bracket. -/
def readItems : Nat → Nat → Bool → List Doc → List Char → Reading Doc
  | 0, _, _, acc, _ => (.arr acc.reverse (some .endInList), none)
  | fuel + 1, depth, first, acc, cs =>
    let stop (f : Fault) : Reading Doc := (.arr acc.reverse (some f), none)
    let next (cs : List Char) : Reading Doc :=
      match readValue fuel depth cs with
      | (d, some rest) => readItems fuel depth false (d :: acc) rest
      | (d, none) => (.arr (d :: acc).reverse none, none)
    match skipBlanks cs with
    | [] => stop .endInList
    | ']' :: rest => (.arr acc.reverse none, some rest)
    | c :: rest =>
      if first then next (c :: rest)
      else if c = ',' then
        match skipBlanks rest with
        | [] => stop .endInValue
        | ']' :: _ => stop .trailingComma
        | rest => next rest
      else stop .expectedListEnd

/-- Reads the fields of an object up to its brace. -/
def readFields : Nat → Nat → Bool → List (String × Option Fault × Doc) → List Char → Reading Doc
  | 0, _, _, acc, _ => (.obj acc.reverse (some .endInObject), none)
  | fuel + 1, depth, first, acc, cs =>
    let stop (f : Fault) : Reading Doc := (.obj acc.reverse (some f), none)
    let next (cs : List Char) : Reading Doc :=
      let name := readString cs.length [] none cs
      let key := String.ofList name.text
      match name.rest with
      | .error f => match name.bad with
        | none => stop f
        | some bad => (.obj (("", some bad, .fault f) :: acc).reverse none, none)
      | .ok rest =>
        match skipBlanks rest with
        | ':' :: rest =>
          match readValue fuel depth rest with
          | (d, some rest) => readFields fuel depth false ((key, name.bad, d) :: acc) rest
          | (d, none) => (.obj ((key, name.bad, d) :: acc).reverse none, none)
        | [] => (.obj ((key, name.bad, .fault .endInObject) :: acc).reverse none, none)
        | _ => (.obj ((key, name.bad, .fault .expectedColon) :: acc).reverse none, none)
    match skipBlanks cs with
    | [] => stop .endInObject
    | '\x7d' :: rest => (.obj acc.reverse none, some rest)
    | c :: rest =>
      if first then if c = '"' then next rest else stop .keyNotString
      else if c = ',' then
        match skipBlanks rest with
        | [] => stop .endInValue
        | '"' :: rest => next rest
        | '\x7d' :: _ => stop .trailingComma
        | _ => stop .keyNotString
      else stop .expectedObjectEnd

end

end Json

/-- The document at the start of a text, and the text after it. -/
def Doc.read (text : String) : Doc × Option (List Char) :=
  Json.readValue (2 * text.length + 2) Json.depthLimit text.toList

/-- The document of a text and the fault of anything that follows it. -/
def Doc.ofText (text : String) : Doc × Option Fault :=
  let (d, rest) := Doc.read text
  match rest.map Json.skipBlanks with
  | some (_ :: _) => (d, some .trailingCharacters)
  | _ => (d, none)

/-- The value of a text, or what is wrong with it first. -/
def Json.parse (text : String) : Except Fault Json :=
  let (d, trailing) := Doc.ofText text
  match (d.firstFault true).or trailing with
  | some f => .error f
  | none => .ok d.toJson

end ScatterSearch
