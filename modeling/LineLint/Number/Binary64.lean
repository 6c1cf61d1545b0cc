/-!
# Binary floating point with 53 bits

The finite values of the 64-bit binary format, held exactly as a sign, a significand and a power of
two. Rounding is to the nearest value, a tie to the even significand, done on whole numbers.

* `Binary64` — a finite value `± significand · 2 ^ exponent`.
* `Binary64.ofRatio?` — the value nearest to a ratio, unless it is past the largest one.
* `mul?`, `div?` — the correctly rounded product and quotient.
-/

namespace LineLint.Number

/-- A finite value of the format: `significand · 2 ^ exponent`, negated if `negative`. The
significand is below `2 ^ 53`, and at least `2 ^ 52` unless the exponent is the least one. -/
structure Binary64 where
  negative : Bool
  significand : Nat
  exponent : Int
  deriving DecidableEq, Repr

namespace Binary64

/-- The exponent of the subnormal values and of the least normal ones. -/
def minExponent : Int := -1074

/-- The exponent of the largest values. -/
def maxExponent : Int := 971

/-- Zero, with a sign. -/
def zero (negative : Bool) : Binary64 := ⟨negative, 0, minExponent⟩

/-- Whether the value is zero of either sign. -/
def isZero (x : Binary64) : Bool := x.significand == 0

/-- A ratio rounded to the nearest whole number, a tie to the even one. -/
def roundHalfEven (num den : Nat) : Nat :=
  let q := num / den
  let twice := 2 * (num % den)
  if twice < den then q
  else if den < twice then q + 1
  else if q % 2 = 0 then q else q + 1

/-- The exponent at which `num / den` is rounded: the one that leaves a significand of 53 bits, or
the least one. `Nat.log2` of the two parts gives it up to one, and the comparison settles it. -/
def exponentFor (num den : Nat) : Int :=
  let estimate : Int := (num.log2 : Int) - (den.log2 : Int)
  -- `2 ^ estimate ≤ num / den` or one binade below.
  let floorLog :=
    if num * Nat.pow 2 (-estimate).toNat < den * Nat.pow 2 estimate.toNat then estimate - 1
    else estimate
  max minExponent (floorLog - 52)

/-- The value nearest to `num / den` with the given sign, or `none` if it is past the largest one.
The denominator is taken to be positive. -/
def ofRatio? (negative : Bool) (num den : Nat) : Option Binary64 :=
  if num = 0 then some (zero negative)
  else
    let e := exponentFor num den
    let m := roundHalfEven (num * Nat.pow 2 (-e).toNat) (den * Nat.pow 2 e.toNat)
    -- Rounding up may carry into the next binade.
    let (m, e) := if m = Nat.pow 2 53 then (Nat.pow 2 52, e + 1) else (m, e)
    if maxExponent < e then none else some ⟨negative, m, e⟩

/-- The numerator and denominator of the value's magnitude. -/
def ratio (x : Binary64) : Nat × Nat :=
  (x.significand * Nat.pow 2 x.exponent.toNat, Nat.pow 2 (-x.exponent).toNat)

/-- The rounded product, `none` past the largest value. -/
def mul? (x y : Binary64) : Option Binary64 :=
  let (a, b) := x.ratio
  let (c, d) := y.ratio
  ofRatio? (x.negative != y.negative) (a * c) (b * d)

/-- The rounded quotient by a value that is not zero, `none` past the largest value. -/
def div? (x y : Binary64) : Option Binary64 :=
  let (a, b) := x.ratio
  let (c, d) := y.ratio
  ofRatio? (x.negative != y.negative) (a * d) (b * c)

/-- The value nearest to a whole number below `2 ^ 1024`. -/
def ofNat? (n : Nat) : Option Binary64 := ofRatio? false n 1

/-- The value with the sign turned. -/
def neg (x : Binary64) : Binary64 := { x with negative := !x.negative }

end Binary64

end LineLint.Number
