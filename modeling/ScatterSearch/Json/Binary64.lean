/-!
# Binary floating-point numbers

The finite doubles, as sign, significand and scale, with exact natural-number arithmetic:

* `Magnitude.ofRatio` rounds a quotient of naturals to the nearest representable magnitude, ties to
  the even significand, and says `none` where the quotient is too large;
* `Binary64.div`, `Binary64.mul` and `Binary64.lt` are the arithmetic the rest of the library needs,
  each one exact followed by one rounding;
* `Magnitude.shortest` finds the decimal with the fewest digits that rounds back to a magnitude, and
  of those the nearest.

A magnitude is `significand · 2 ^ scale` with `significand < 2 ^ 53`, `-1074 ≤ scale ≤ 971`, and the
significand at least `2 ^ 52` unless the scale is the least one. No operation of the library yields
an infinity or what is no number, and JSON has no numbers for them; but a setting may be one, and so
`Double` has them too.
-/

namespace ScatterSearch

/-- The absolute value `significand · 2 ^ scale` of a finite double. -/
structure Magnitude where
  significand : Nat
  scale : Int
  deriving DecidableEq, Repr

namespace Magnitude

/-- The scale of the numbers nearest zero. -/
def leastScale : Int := -1074

/-- The scale of the largest numbers. -/
def greatestScale : Int := 971

/-- Zero is written with the least scale, so that each magnitude has one form. -/
def zero : Magnitude := ⟨0, leastScale⟩

/-- A magnitude as an exact quotient of naturals, the denominator positive. -/
def ratio (x : Magnitude) : Nat × Nat :=
  if 0 ≤ x.scale then (x.significand <<< x.scale.toNat, 1)
  else (x.significand, 1 <<< (-x.scale).toNat)

/-- The quotient `num / den` rounded to a natural, a half going to the even neighbour. -/
def roundHalfEven (num den : Nat) : Nat :=
  let q := num / den
  let r := num % den
  if 2 * r < den then q
  else if den < 2 * r then q + 1
  else if q % 2 = 0 then q else q + 1

/-- The `e` with `2 ^ e ≤ num / den < 2 ^ (e + 1)`, for positive arguments. -/
def floorLog2 (num den : Nat) : Int :=
  let e : Int := (num.log2 : Int) - (den.log2 : Int)
  let below := if 0 ≤ e then num < den <<< e.toNat else num <<< (-e).toNat < den
  if below then e - 1 else e

/-- The representable magnitude nearest `num / den`, or `none` beyond the largest one. -/
def ofRatio (num den : Nat) : Option Magnitude :=
  if num = 0 then some zero
  else
    let scale := max (floorLog2 num den - 52) leastScale
    let m := if 0 ≤ scale then roundHalfEven num (den <<< scale.toNat)
      else roundHalfEven (num <<< (-scale).toNat) den
    let x : Magnitude := if m = 1 <<< 53 then ⟨1 <<< 52, scale + 1⟩ else ⟨m, scale⟩
    if x.scale ≤ greatestScale then some x else none

/-- A decimal `digits · 10 ^ exponent`. -/
structure Decimal where
  digits : Nat
  exponent : Int
  deriving DecidableEq, Repr

/-- Four times the magnitude and the ends of the interval of reals that round to it, all in units of
a quarter of `2 ^ scale`. The gap below a power of two is half as wide as the gap above it. -/
def interval (x : Magnitude) : Nat × Nat × Nat :=
  let v := 4 * x.significand
  let lower := if x.significand = 1 <<< 52 ∧ leastScale < x.scale then v - 1 else v - 2
  (lower, v, v + 2)

/-- The multiple of `10 ^ k` nearest to a positive magnitude among those that round to it, if there
is one; a tie goes to the even multiple. -/
def onGrid (x : Magnitude) (k : Int) : Option Decimal :=
  let (lower, v, upper) := x.interval
  -- One grid unit and one quarter of the scale, over a common denominator.
  let s := x.scale - 2
  let unit := Nat.pow 10 k.toNat <<< (-s).toNat
  let quarter := Nat.pow 10 (-k).toNat <<< s.toNat
  let inside (d : Nat) : Bool :=
    if x.significand % 2 = 0 then decide (lower * quarter ≤ d * unit ∧ d * unit ≤ upper * quarter)
    else decide (lower * quarter < d * unit ∧ d * unit < upper * quarter)
  let down := v * quarter / unit
  let rest := v * quarter % unit
  let up := down + 1
  match inside down, inside up with
  | true, true =>
    if 2 * rest < unit ∨ (2 * rest = unit ∧ down % 2 = 0) then some ⟨down, k⟩ else some ⟨up, k⟩
  | true, false => some ⟨down, k⟩
  | false, true => some ⟨up, k⟩
  | false, false => none

/-- Tries the grids `10 ^ k`, `10 ^ (k - 1)`, …, and takes the first with a hit. -/
def firstGrid (x : Magnitude) : Nat → Int → Decimal
  | 0, k => ⟨0, k⟩
  | n + 1, k => (x.onGrid k).getD (x.firstGrid n (k - 1))

/-- The decimal with the fewest digits that rounds to `x`, nearest among those. Seventeen digits
always suffice, and the first grid tried lies above the leading digit. -/
def shortest (x : Magnitude) : Decimal :=
  if x.significand = 0 then ⟨0, 0⟩
  else
    let bits : Int := (x.significand.log2 : Int) + x.scale
    x.firstGrid 24 (bits * 30103 / 100000 + 2)

end Magnitude

/-- A finite double: the two zeros differ. -/
structure Binary64 where
  negative : Bool
  magnitude : Magnitude
  deriving DecidableEq, Repr

namespace Binary64

/-- Positive zero. -/
def zero : Binary64 := ⟨false, .zero⟩

/-- The double nearest a natural number below `2 ^ 1024`. -/
def ofNat? (n : Nat) : Option Binary64 := (Magnitude.ofRatio n 1).map (⟨false, ·⟩)

/-- The double nearest a 64-bit integer, which is always in range. -/
def ofInt (i : Int) : Binary64 :=
  ⟨decide (i < 0), (Magnitude.ofRatio i.natAbs 1).getD .zero⟩

/-- The rounded product, or `none` where it is too large. -/
def mul (x y : Binary64) : Option Binary64 :=
  let (a, b) := x.magnitude.ratio
  let (c, d) := y.magnitude.ratio
  (Magnitude.ofRatio (a * c) (b * d)).map (⟨x.negative != y.negative, ·⟩)

/-- The rounded quotient by a number other than zero, or `none` where it is too large. -/
def div (x y : Binary64) : Option Binary64 :=
  let (a, b) := x.magnitude.ratio
  let (c, d) := y.magnitude.ratio
  (Magnitude.ofRatio (a * d) (b * c)).map (⟨x.negative != y.negative, ·⟩)

/-- The order of the numbers; the two zeros are not apart. -/
def lt (x y : Binary64) : Bool :=
  let (a, b) := x.magnitude.ratio
  let (c, d) := y.magnitude.ratio
  let signed (neg : Bool) (n : Nat) : Int := if neg then -(n : Int) else n
  decide (signed x.negative (a * d) < signed y.negative (c * b))

/-- A power of ten, as the double nearest it. -/
def powerOfTen (e : Nat) : Binary64 := (ofNat? (Nat.pow 10 e)).getD zero

/-- The greatest power of ten that a double holds. -/
def greatestPowerOfTen : Nat := 308

/-- Divides by `10 ^ 308` until the remaining negative exponent is within one division. -/
def divideDown (f : Binary64) : Nat → Nat → Option Binary64
  | 0, _ => some f
  | fuel + 1, e =>
    if e ≤ greatestPowerOfTen then f.div (powerOfTen e)
    else if f.magnitude.significand = 0 then some f
    else do
      let g ← f.div (powerOfTen greatestPowerOfTen)
      divideDown g fuel (e - greatestPowerOfTen)

/-- The double read from `significand · 10 ^ exponent`: the significand is rounded first, then
multiplied or divided by the rounded power of ten, so the result may be one unit off the nearest.
`none` where the number is too large. -/
def ofDecimal (negative : Bool) (significand : Nat) (exponent : Int) : Option Binary64 := do
  let f ← ofNat? significand
  let x ←
    if 0 ≤ exponent then
      if exponent ≤ greatestPowerOfTen then f.mul (powerOfTen exponent.toNat)
      else if significand = 0 then some f
      else none
    else f.divideDown (exponent.natAbs / greatestPowerOfTen + 1) exponent.natAbs
  return ⟨negative, x.magnitude⟩

/-- How decimal digits with the point after `point` of them are laid out: positionally from `1e-5`
to below `1e16`, always with a fraction; otherwise with an exponent that carries its sign. -/
def layout (digits : List Char) (point : Int) : List Char :=
  let n : Int := digits.length
  if n ≤ point ∧ point ≤ 16 then
    digits ++ List.replicate (point - n).toNat '0' ++ ['.', '0']
  else if 0 < point ∧ point ≤ 16 then
    digits.take point.toNat ++ '.' :: digits.drop point.toNat
  else if -5 < point ∧ point ≤ 0 then
    '0' :: '.' :: List.replicate (-point).toNat '0' ++ digits
  else
    let e := point - 1
    let mark := if e < 0 then ['e', '-'] else ['e', '+']
    let mantissa := match digits with
      | [] => ['0']
      | [d] => [d]
      | d :: rest => d :: '.' :: rest
    mantissa ++ mark ++ Nat.toDigits 10 e.natAbs

/-- The shortest text that reads back as the number. -/
def text (x : Binary64) : String :=
  let d := x.magnitude.shortest
  let digits := Nat.toDigits 10 d.digits
  let body := if d.digits = 0 then ['0', '.', '0'] else layout digits (digits.length + d.exponent)
  String.ofList (if x.negative then '-' :: body else body)

end Binary64

/-- Any double. -/
inductive Double where
  | finite (x : Binary64)
  | infinite (negative : Bool)
  | nan
  deriving DecidableEq, Repr

/-- Whether a finite double is less than any double. Nothing is less than what is no number. -/
def Binary64.below (x : Binary64) : Double → Bool
  | .finite y => x.lt y
  | .infinite negative => !negative
  | .nan => false

end ScatterSearch
