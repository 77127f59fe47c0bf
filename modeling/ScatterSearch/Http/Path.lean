import ScatterSearch.Json.Reader

/-!
# Paths

A path is matched segment by segment, as it was sent. Where a pattern has a variable, the segment is
kept; it may be empty, but not at the end of the path. Only then are escapes such as `%20` resolved,
so an escaped slash does not divide. A segment whose bytes are no text is refused.
-/

namespace ScatterSearch.Http

/-- What a path is compared with. -/
inductive PathSegment where
  | fixed (text : String)
  | variable
  deriving DecidableEq, Repr

/-- Cuts a text at every slash. -/
def splitSlashes : List Char → List (List Char)
  | [] => [[]]
  | c :: rest =>
    if c = '/' then [] :: splitSlashes rest
    else match splitSlashes rest with
      | first :: more => (c :: first) :: more
      | [] => [[c]]

/-- The segments of a request's target up to its question mark; none if it does not start with a
slash. -/
def pathSegments (target : String) : Option (List String) :=
  match target.toList.takeWhile (· ≠ '?') with
  | '/' :: rest => some ((splitSlashes rest).map String.ofList)
  | _ => none

/-- What stands for the variables of a pattern, if it matches. -/
def matchSegments : List PathSegment → List String → Option (List String)
  | [], [] => some []
  | .fixed text :: pattern, s :: path => if text = s then matchSegments pattern path else none
  | [.variable], [s] => if s.isEmpty then none else some [s]
  | .variable :: pattern, s :: path => (matchSegments pattern path).map (s :: ·)
  | _, _ => none

/-- Resolves escapes in bytes. A percent sign without two hexadecimal digits after it stands for
itself. -/
def unescape : List UInt8 → List UInt8
  | [] => []
  | b :: rest =>
    if b = '%'.toUInt8 then
      match rest with
      | h :: l :: more =>
        match Json.hexValue? (Char.ofNat h.toNat), Json.hexValue? (Char.ofNat l.toNat) with
        | some x, some y => UInt8.ofNat (16 * x + y) :: unescape more
        | _, _ => b :: unescape (h :: l :: more)
      | rest => b :: unescape rest
    else b :: unescape rest

/-- The text that a segment stands for, if its bytes are one. -/
def unescapeText? (s : String) : Option String :=
  String.fromUTF8? ⟨(unescape s.toUTF8.toList).toArray⟩

end ScatterSearch.Http
