/-!
# Binary floating point numbers of 64 bits

A finite number is a sign, a significand below `2 ^ 53` and a power of two. Every operation here
is the exact one on fractions followed by rounding to the nearest such number, ties to the even
significand.

## Main definitions

* `Binary64`: the finite numbers
* `Binary64.ofRatio?`: the number nearest to a fraction
* `Binary64.ofInt?`, `Binary64.add?`, `Binary64.mul?`, `Binary64.div?`: integers, sums, products
  and quotients
* `Binary64.toInt?`: the integer that a number is
-/

namespace SfcBundler

/-- A finite number `± significand * 2 ^ exponent`. Numbers are kept with the largest significand
below `2 ^ 53` that an exponent of at least `-1074` allows; zero has exponent `0`. -/
structure Binary64 where
  negative : Bool
  significand : Nat
  exponent : Int
deriving Repr, DecidableEq

namespace Binary64

/-- Zero with a sign. -/
def zero (negative : Bool) : Binary64 := ⟨negative, 0, 0⟩

/-- The least exponent. -/
def minExponent : Int := -1074

/-- The greatest exponent. -/
def maxExponent : Int := 971

/-- The integer nearest to a fraction, an even one if two are. -/
def roundEven (numerator denominator : Nat) : Nat :=
  let quotient := numerator / denominator
  let twice := 2 * (numerator % denominator)
  if twice < denominator || (twice = denominator && quotient % 2 = 0) then quotient
  else quotient + 1

/-- A fraction divided by a power of two. -/
def scale (numerator denominator : Nat) (exponent : Int) : Nat × Nat :=
  if exponent ≥ 0 then (numerator, denominator * Nat.pow 2 exponent.toNat)
  else (numerator * Nat.pow 2 (-exponent).toNat, denominator)

/-- The number nearest to `± numerator / denominator`; none when that lies beyond all of them. -/
def ofRatio? (negative : Bool) (numerator denominator : Nat) : Option Binary64 :=
  if numerator = 0 || denominator = 0 then some (zero negative)
  else
    let low : Int := (numerator.log2 : Int) - denominator.log2 - 53
    let (n, d) := scale numerator denominator low
    let exponent := max (if n / d ≥ Nat.pow 2 53 then low + 1 else low) minExponent
    let (n, d) := scale numerator denominator exponent
    let rounded := roundEven n d
    let (significand, exponent) : Nat × Int :=
      if rounded = Nat.pow 2 53 then (Nat.pow 2 52, exponent + 1) else (rounded, exponent)
    if significand = 0 then some (zero negative)
    else if exponent > maxExponent then none
    else some ⟨negative, significand, exponent⟩

/-- The number nearest to an integer. -/
def ofInt? (value : Int) : Option Binary64 := ofRatio? (value < 0) value.natAbs 1

/-- The absolute value as a fraction. -/
def ratio (x : Binary64) : Nat × Nat :=
  if x.exponent ≥ 0 then (x.significand * Nat.pow 2 x.exponent.toNat, 1)
  else (x.significand, Nat.pow 2 (-x.exponent).toNat)

/-- The number nearest to a product. -/
def mul? (x y : Binary64) : Option Binary64 :=
  ofRatio? (x.negative != y.negative) (x.ratio.1 * y.ratio.1) (x.ratio.2 * y.ratio.2)

/-- The signed numerator of a number over a denominator that its own divides. -/
def numeratorOver (x : Binary64) (denominator : Nat) : Int :=
  let numerator : Int := x.ratio.1 * (denominator / x.ratio.2)
  if x.negative then -numerator else numerator

/-- The number nearest to a sum. -/
def add? (x y : Binary64) : Option Binary64 :=
  let denominator := max x.ratio.2 y.ratio.2
  let sum := x.numeratorOver denominator + y.numeratorOver denominator
  if sum = 0 then some (zero (x.negative && y.negative))
  else ofRatio? (sum < 0) sum.natAbs denominator

/-- The number nearest to a quotient by a number other than zero. -/
def div? (x y : Binary64) : Option Binary64 :=
  ofRatio? (x.negative != y.negative) (x.ratio.1 * y.ratio.2) (x.ratio.2 * y.ratio.1)

/-- The number with the other sign. -/
def neg (x : Binary64) : Binary64 := { x with negative := !x.negative }

/-- The integer that a number is, if it is one. -/
def toInt? (x : Binary64) : Option Int :=
  let (n, d) := x.ratio
  if n % d = 0 then some (if x.negative then -(n / d : Int) else (n / d : Int)) else none

end Binary64

end SfcBundler
