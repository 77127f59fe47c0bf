/-!
# Fresh names

Executions and nameless queries get a name that nobody else has: a uuid of version 4, made of the
supply's own number and the number of names it has given out.
-/

namespace ScatterSearch

/-- Gives out names. Two supplies of different origins give out different names. -/
structure IdSupply where
  origin : Nat
  given : Nat
  deriving DecidableEq, Repr

namespace IdSupply

/-- A supply that has given out nothing. -/
def new (origin : Nat) : IdSupply := ⟨origin, 0⟩

/-- A number in hexadecimal, with zeros before it up to the given width. -/
def hex (width n : Nat) : List Char :=
  let ds := Nat.toDigits 16 n
  List.replicate (width - ds.length) '0' ++ ds

/-- The name with a number. -/
def name (origin n : Nat) : String :=
  String.ofList (hex 8 origin ++ "-0000-4000-8000-".toList ++ hex 12 n)

/-- Gives out a name. -/
def draw (s : IdSupply) : String × IdSupply :=
  (name s.origin s.given, { s with given := s.given + 1 })

end IdSupply

end ScatterSearch
