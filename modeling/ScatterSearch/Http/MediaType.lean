/-!
# Media types

A media type is `type/subtype`, perhaps with a suffix after a plus sign, and with parameters after a
semicolon or a blank. Case does not matter. A body is taken for JSON if its type is `application`
and its subtype or its suffix is `json`.
-/

namespace ScatterSearch.Http

/-- A media type, in small letters. -/
structure MediaType where
  type : String
  subtype : String
  suffix : Option String
  deriving DecidableEq, Repr

namespace MediaType

/-- Whether a character may stand in a name. -/
def isToken (c : Char) : Bool := c.isAlphanum || "!#$%&'*+-.^_`|~".contains c

/-- Whether a character may stand between quotes. -/
def isQuotable (c : Char) : Bool := c = '\t' || decide (' ' ≤ c ∧ c.val ≠ 127)

/-- What stands after a quoted value, if the quotes close. -/
def afterQuoted : List Char → Option (List Char)
  | [] => none
  | '"' :: rest => some rest
  | ['\\'] => none
  | '\\' :: c :: rest => if isQuotable c then afterQuoted rest else none
  | c :: rest => if isQuotable c then afterQuoted rest else none

/-- What stands after the value of a parameter and the semicolon that ends it. -/
def afterValue (cs : List Char) : Option (List Char) :=
  match cs with
  | '"' :: quoted => do
    match (← afterQuoted quoted).dropWhile (· = ' ') with
    | [] => some []
    | ';' :: rest => some rest
    | _ => none
  | cs =>
    match cs.dropWhile isToken with
    | [] => some []
    | ';' :: rest => if cs.head? = some ';' then none else some rest
    | _ => none

/-- Whether these are parameters, no more than `fuel` of them. -/
def areParameters : Nat → List Char → Bool
  | 0, _ => false
  | fuel + 1, cs =>
    match cs.dropWhile (· = ' ') with
    | [] => true
    | cs =>
      match cs.dropWhile isToken with
      | '=' :: rest => cs.head? ≠ some '=' && (afterValue rest).any (areParameters fuel)
      | _ => false

/-- Splits a name at its last plus sign, unless that comes first. -/
def splitSuffix (name : List Char) : List Char × Option (List Char) :=
  let suffix := (name.reverse.takeWhile (· ≠ '+')).reverse
  let stem := name.take (name.length - suffix.length - 1)
  if suffix.length = name.length || stem.isEmpty then (name, none) else (stem, some suffix)

/-- The media type that a text stands for. -/
def parse? (text : String) : Option MediaType :=
  let cs := text.toList.map Char.toLower
  let type := cs.takeWhile isToken
  match cs.drop type.length with
  | '/' :: rest =>
    let name := rest.takeWhile isToken
    let ends := match rest.drop name.length with
      | [] => true
      | c :: parameters => (c = ';' || c = ' ') && areParameters (parameters.length + 1) parameters
    if type.isEmpty || (name.isEmpty && !rest.isEmpty) || !ends then none
    else
      let (subtype, suffix) := splitSuffix name
      some ⟨String.ofList type, String.ofList subtype, suffix.map String.ofList⟩
  | _ => none

/-- Whether a body of this type is taken for JSON. -/
def isJson (m : MediaType) : Bool :=
  m.type = "application" && (m.subtype = "json" || m.suffix = some "json")

end MediaType

/-- Whether a body with this header is taken for JSON. -/
def declaresJson (contentType : Option String) : Bool :=
  (contentType.bind MediaType.parse?).any MediaType.isJson

end ScatterSearch.Http
