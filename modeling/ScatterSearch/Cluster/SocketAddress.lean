import ScatterSearch.Decode.Decoder

/-!
# Socket addresses

An address and port to listen on, in its two families. `SocketAddress.parse?` reads the usual
notations: four octets without leading zeros, or eight groups in brackets, of which one run of zeros
may be left out and the last two may be written as octets. `SocketAddress.text` writes the canonical
one.
-/

namespace ScatterSearch

/-- A socket address. -/
inductive SocketAddress where
  | v4 (octets : List Nat) (port : Nat)
  | v6 (groups : List Nat) (scope : Nat) (port : Nat)
  deriving DecidableEq, Repr

namespace SocketAddress

/-! ## Reading -/

/-- The value of a digit in a base up to sixteen. -/
def digit? (base : Nat) (c : Char) : Option Nat := (Json.hexValue? c).filter (· < base)

/-- Reads a number below `bound`: at least one digit, at most `digits` of them where that is
limited, and no leading zero unless `zeros` allows it. -/
def readNumber (base bound : Nat) (digits : Option Nat) (zeros : Bool) (cs : List Char) :
    Option (Nat × List Char) :=
  let ds := cs.takeWhile fun c => (digit? base c).isSome
  let n := ds.foldl (fun n c => n * base + (digit? base c).getD 0) 0
  if ds.isEmpty ∨ bound ≤ n ∨ digits.any (· < ds.length) then none
  else if !zeros && ds.head? = some '0' && 1 < ds.length then none
  else some (n, cs.drop ds.length)

/-- Reads one given character. -/
def readChar (c : Char) : List Char → Option (List Char)
  | d :: rest => if d = c then some rest else none
  | [] => none

/-- Reads four octets with points between them. -/
def readOctets (cs : List Char) : Option (List Nat × List Char) := do
  let octet := readNumber 10 256 (some 3) false
  let (a, cs) ← octet cs
  let (b, cs) ← octet (← readChar '.' cs)
  let (c, cs) ← octet (← readChar '.' cs)
  let (d, cs) ← octet (← readChar '.' cs)
  return ([a, b, c, d], cs)

/-- Reads a colon before every group but the first. -/
def separator (first : Bool) (cs : List Char) : Option (List Char) :=
  if first then some cs else readChar ':' cs

/-- Reads at most `limit` groups, of which the last two may be octets. The answer tells whether they
were. -/
def readGroups (first : Bool) : Nat → List Char → List Nat × Bool × List Char
  | 0, cs => ([], false, cs)
  | limit + 1, cs =>
    let octets := if limit = 0 then none else (separator first cs).bind readOctets
    match octets with
    | some ([a, b, c, d], rest) => ([a * 256 + b, c * 256 + d], true, rest)
    | _ =>
      match (separator first cs).bind (readNumber 16 65536 (some 4) true) with
      | some (g, rest) =>
        let (groups, isV4, rest) := readGroups false limit rest
        (g :: groups, isV4, rest)
      | none => ([], false, cs)

/-- Reads eight groups, or fewer around a double colon. -/
def readV6 (cs : List Char) : Option (List Nat × List Char) := do
  let (head, isV4, rest) := readGroups true 8 cs
  if head.length = 8 then return (head, rest)
  if isV4 then none
  let rest ← readChar ':' (← readChar ':' rest)
  let (tail, _, rest) := readGroups true (7 - head.length) rest
  return (head ++ List.replicate (8 - head.length - tail.length) 0 ++ tail, rest)

/-- Reads a port after a colon. -/
def readPort (cs : List Char) : Option (Nat × List Char) := do
  readNumber 10 65536 none true (← readChar ':' cs)

/-- Reads a zone after a percent sign, if there is one. -/
def readScope (cs : List Char) : Nat × List Char :=
  ((readChar '%' cs).bind (readNumber 10 UInt32.size none true)).getD (0, cs)

/-- Reads an address of the first family. -/
def parseV4? (cs : List Char) : Option SocketAddress := do
  let (octets, cs) ← readOctets cs
  let (port, rest) ← readPort cs
  if rest.isEmpty then return .v4 octets port else none

/-- Reads an address of the second family. -/
def parseV6? (cs : List Char) : Option SocketAddress := do
  let (groups, cs) ← readV6 (← readChar '[' cs)
  let (scope, cs) := readScope cs
  let (port, rest) ← readPort (← readChar ']' cs)
  if rest.isEmpty then return .v6 groups scope port else none

/-- The address a text stands for. -/
def parse? (text : String) : Option SocketAddress :=
  (parseV4? text.toList).orElse fun _ => parseV6? text.toList

/-! ## Writing -/

/-- Octets with points between them. -/
def octetsText (octets : List Nat) : String := ".".intercalate (octets.map Nat.repr)

/-- Groups in hexadecimal with colons between them. -/
def groupsText (groups : List Nat) : String :=
  ":".intercalate (groups.map fun g => String.ofList (Nat.toDigits 16 g))

/-- The start and length of the first longest run of zeros. `here` is the run that is open at
`index`, and `best` the longest so far. -/
def longestZeros (index : Nat) (here best : Nat × Nat) : List Nat → Nat × Nat
  | [] => best
  | g :: rest =>
    if g = 0 then
      let here := if here.2 = 0 then (index, 1) else (here.1, here.2 + 1)
      longestZeros (index + 1) here (if best.2 < here.2 then here else best) rest
    else longestZeros (index + 1) (0, 0) best rest

/-- An address of eight groups: octets inside it as such, else the longest run of several zeros left
out. -/
def v6Text (groups : List Nat) : String :=
  match groups with
  | [0, 0, 0, 0, 0, 0xffff, a, b] => "::ffff:" ++ octetsText [a / 256, a % 256, b / 256, b % 256]
  | _ =>
    let (start, length) := longestZeros 0 (0, 0) (0, 0) groups
    if 1 < length then
      groupsText (groups.take start) ++ "::" ++ groupsText (groups.drop (start + length))
    else groupsText groups

/-- The canonical text of an address. -/
def text : SocketAddress → String
  | .v4 octets port => octetsText octets ++ ":" ++ Nat.repr port
  | .v6 groups scope port =>
    let zone := if scope = 0 then "" else "%" ++ Nat.repr scope
    "[" ++ v6Text groups ++ zone ++ "]:" ++ Nat.repr port

/-- An address given as text. -/
def decode : Decoder SocketAddress := fun _ doc =>
  match Shape.of doc with
  | .leaf (.str s) =>
    match parse? s with
    | some a => .ok a
    | none => .error .badSocketAddress
  | s => .error (s.mismatch "socket address")

instance : Wire SocketAddress := ⟨fun a => .str a.text, decode⟩

end SocketAddress

end ScatterSearch
