import LineLint.Number.Binary64

/-!
# The fewest digits that read back

A finite value is written with the fewest significant decimal digits that still round to it, the
nearest such decimal if there are several. All comparisons are on whole numbers.

* `Decimal` — digits and a power of ten.
* `shortest` — the shortest decimal of a value.
* `FloatFormat`, `FloatFormat.write` — where positional notation ends and how an exponent is
  written.
-/

namespace LineLint.Number

/-- The decimal `digits · 10 ^ exponent`. -/
structure Decimal where
  digits : Nat
  exponent : Int
  deriving DecidableEq, Repr

/-- Ten to a power, as a numerator and a denominator. -/
def tenPower (e : Int) : Nat × Nat := (Nat.pow 10 e.toNat, Nat.pow 10 (-e).toNat)

/-- The interval of numbers that round to a value: numerators of its ends over one denominator, and
whether the ends belong to it. -/
structure Interval where
  low : Nat
  value : Nat
  high : Nat
  den : Nat
  closed : Bool

/-- The numbers that round to `m · 2 ^ e`. Below a power of two the gap to the next value is half as
wide, unless the exponent is the least one already. An even significand wins ties at both ends. -/
def intervalOf (x : Binary64) : Interval :=
  let m := x.significand
  let narrow := m == Nat.pow 2 52 && Binary64.minExponent < x.exponent
  let scale := Nat.pow 2 x.exponent.toNat
  { low := (if narrow then 4 * m - 1 else 4 * m - 2) * scale
    value := 4 * m * scale
    high := (4 * m + 2) * scale
    den := 4 * Nat.pow 2 (-x.exponent).toNat
    closed := m % 2 == 0 }

/-- Whether `d · 10 ^ e` lies in the interval. -/
def Interval.holds (i : Interval) (d : Nat) (e : Int) : Bool :=
  let (p, q) := tenPower e
  let num := d * p * i.den
  let low := i.low * q
  let high := i.high * q
  if i.closed then low ≤ num && num ≤ high else low < num && num < high

/-- The point of the grid `10 ^ e` in the interval that is nearest to the value, if the value's two
neighbours on that grid include one. A tie goes to the even digit. -/
def Interval.nearest? (i : Interval) (e : Int) : Option Nat :=
  let (p, q) := tenPower e
  let num := i.value * q
  let den := i.den * p
  let below := num / den
  let first := Binary64.roundHalfEven num den
  let second := if first = below then below + 1 else below
  if i.holds first e then some first
  else if i.holds second e then some second
  else none

/-- The first grid, from coarse to fine, with a point in the interval. -/
def Interval.coarsest (i : Interval) : Nat → Int → Decimal
  | 0, e => ⟨(i.nearest? e).getD 0, e⟩
  | n + 1, e =>
    match i.nearest? e with
    | some d => ⟨d, e⟩
    | none => i.coarsest n (e - 1)

/-- A decimal without trailing zeros in its digits; the first argument bounds their number. -/
def Decimal.trimmed : Nat → Decimal → Decimal
  | 0, d => d
  | n + 1, d =>
    if d.digits != 0 && d.digits % 10 == 0 then Decimal.trimmed n ⟨d.digits / 10, d.exponent + 1⟩
    else d

/-- An exponent of ten that is past the leading digit of a value with this power of two. -/
def leadingBound (x : Binary64) : Int :=
  ((x.significand.log2 : Int) + 1 + x.exponent) * 30103 / 100000 + 1

/-- The shortest decimal that rounds to the value, of several the nearest. -/
def shortest (x : Binary64) : Decimal :=
  if x.isZero then ⟨0, 0⟩
  else ((intervalOf x).coarsest 20 (leadingBound x)).trimmed 20

/-- The choices of a notation for floating point numbers. -/
structure FloatFormat where
  /-- The least power of ten of a leading digit that is written positionally. -/
  positionalFrom : Int
  /-- The greatest power of ten of a leading digit that is written positionally. -/
  positionalTo : Int
  /-- What follows a whole number in positional notation. -/
  wholeMark : String
  /-- What stands between digits and a positive exponent. -/
  positiveMark : String
  /-- What stands between digits and a negative exponent. -/
  negativeMark : String

/-- Digits with a point after the first one, if more follow. -/
def pointed : List Char → List Char
  | [] => []
  | [d] => [d]
  | d :: more => d :: '.' :: more

/-- The text of a value in a notation. -/
def FloatFormat.write (f : FloatFormat) (x : Binary64) : String :=
  let d := shortest x
  let digits := Nat.toDigits 10 d.digits
  let leading : Int := digits.length - 1 + d.exponent
  let body :=
    if f.positionalFrom ≤ leading ∧ leading ≤ f.positionalTo then
      if 0 ≤ d.exponent then
        digits ++ List.replicate d.exponent.toNat '0' ++ f.wholeMark.toList
      else if 0 ≤ leading then
        digits.take (leading.toNat + 1) ++ '.' :: digits.drop (leading.toNat + 1)
      else '0' :: '.' :: (List.replicate ((-leading).toNat - 1) '0' ++ digits)
    else if 0 ≤ leading then
      pointed digits ++ f.positiveMark.toList ++ Nat.toDigits 10 leading.toNat
    else pointed digits ++ f.negativeMark.toList ++ Nat.toDigits 10 (-leading).toNat
  String.ofList (if x.negative then '-' :: body else body)

end LineLint.Number
