import SfcBundler.Number.Binary64

/-!
# The shortest decimal of a number

Among the decimals that round to a given number, those with the fewest digits are wanted, and of
those the one nearest to the number. How the digits are then laid out is a matter of the format.

## Main definitions

* `Decimal`: digits and the place of the decimal point
* `Binary64.shortest`: the shortest decimal of a number
* `DecimalLayout`, `Decimal.write`: where positional notation ends, and the text of a decimal
-/

namespace SfcBundler

/-- The decimal `0.d₁d₂… * 10 ^ point`, its first digit not zero. -/
structure Decimal where
  digits : List Char
  point : Int
deriving Repr, DecidableEq

namespace Binary64

/-- Twice the bounds of the interval that rounds to `x`, over the denominator of `x`, and whether
the bounds themselves belong to it. Below a power of two the numbers lie twice as dense. -/
def roundingInterval (x : Binary64) : Nat × Nat × Nat × Bool :=
  let unit : Nat := if x.exponent ≥ 0 then Nat.pow 2 x.exponent.toNat else 1
  let (n, d) := x.ratio
  let below := if x.significand = Nat.pow 2 52 && x.exponent > minExponent then 1 else 2
  (4 * n - below * unit, 4 * n + 2 * unit, 4 * d, x.significand % 2 = 0)

/-- A power of ten as a fraction. -/
def tenTo (exponent : Int) : Nat × Nat :=
  if exponent ≥ 0 then (Nat.pow 10 exponent.toNat, 1) else (1, Nat.pow 10 (-exponent).toNat)

/-- The decimal place right behind the first digit of `n / d`: the least `p` from `start` on, at
most `fuel` later, with `n / d < 10 ^ p`. -/
def pointFrom (n d : Nat) (start : Int) : Nat → Int
  | 0 => start
  | fuel + 1 =>
    let (a, b) := tenTo start
    if n * b < d * a then start else pointFrom n d (start + 1) fuel

/-- The nearest decimal with `count` digits that rounds to `x`, if there is one. -/
def nearestWith (x : Binary64) (point : Int) (count : Nat) : Option Nat :=
  let (n, d) := x.ratio
  let (low, high, den, closed) := x.roundingInterval
  let (a, b) := tenTo (point - count)
  let floor := n * b / (d * a)
  let inside (candidate : Nat) : Bool :=
    let value := candidate * a * den
    if closed then low * b ≤ value && value ≤ high * b else low * b < value && value < high * b
  let rest := n * b - floor * (d * a)
  let upFirst := 2 * rest > d * a || (2 * rest = d * a && floor % 2 = 1)
  let (near, far) := if upFirst then (floor + 1, floor) else (floor, floor + 1)
  if inside near then some near else if inside far then some far else none

/-- The shortest decimal of `x`, trying more and more digits from `count` on. -/
def shortestFrom (x : Binary64) (point : Int) (count : Nat) : Nat → Decimal
  | 0 => ⟨['0'], 1⟩
  | fuel + 1 =>
    match x.nearestWith point count with
    | some digits =>
      let text := Nat.toDigits 10 digits
      ⟨(text.reverse.dropWhile (· == '0')).reverse, point + (text.length - count : Int)⟩
    | none => x.shortestFrom point (count + 1) fuel

/-- The shortest decimal that rounds to a number, of several the nearest. -/
def shortest (x : Binary64) : Decimal :=
  if x.significand = 0 then ⟨['0'], 1⟩
  else
    let (n, d) := x.ratio
    let guess : Int := ((n.log2 : Int) - d.log2) * 30103 / 100000 - 1
    x.shortestFrom (pointFrom n d guess 6) 1 17

end Binary64

/-- How a decimal is laid out: the least and the greatest place of the point for which the digits
are written without an exponent, and whether whole numbers get a fraction `.0`. -/
structure DecimalLayout where
  leastPoint : Int
  greatestPoint : Int
  wholeFraction : Bool
deriving Repr, DecidableEq

/-- The text of a decimal. An exponent has a sign and no leading zeros. -/
def Decimal.write (layout : DecimalLayout) (decimal : Decimal) : List Char :=
  let digits := decimal.digits
  let count : Int := digits.length
  let point := decimal.point
  if layout.leastPoint ≤ point && point ≤ layout.greatestPoint then
    if point ≤ 0 then ['0', '.'] ++ List.replicate (-point).toNat '0' ++ digits
    else if count ≤ point then
      digits ++ List.replicate (point - count).toNat '0' ++
        (if layout.wholeFraction then ['.', '0'] else [])
    else digits.take point.toNat ++ '.' :: digits.drop point.toNat
  else
    let exponent := point - 1
    let fraction := if digits.length ≤ 1 then [] else '.' :: digits.drop 1
    digits.take 1 ++ fraction ++ 'e' :: (if exponent < 0 then '-' else '+') ::
      Nat.toDigits 10 exponent.natAbs

/-- The text of a number under a layout. -/
def Binary64.write (layout : DecimalLayout) (x : Binary64) : List Char :=
  (if x.negative then ['-'] else []) ++ x.shortest.write layout

end SfcBundler
