import SfcBundler.Json.Basic

/-!
# Numerals in JSON

A numeral without fraction and exponent is an integer as long as it fits. Otherwise its digits
are taken as long as they fit an integer of 64 bits; the number nearest to that integer is then
multiplied or divided by a power of ten, and rounded once more.

## Main definitions

* `Numeral`: the parts of a numeral
* `Numeral.nearest?`: the floating point number nearest to it
* `Numeral.toNumber?`: its number as JSON is read; none beyond the range of floating point numbers
-/

namespace SfcBundler

/-- The parts of a numeral: sign, digits before and after the point, and the signed exponent. -/
structure Numeral where
  negative : Bool
  whole : List Char
  fraction : Option (List Char)
  exponent : Option (Bool × List Char)
deriving Repr, DecidableEq

namespace Numeral

/-- The greatest significand. -/
def maxSignificand : Nat := Nat.pow 2 64 - 1

/-- The value of a digit. -/
def digitValue (c : Char) : Nat := c.toNat - '0'.toNat

/-- Take digits before the point: once one does not fit, it and all that follow only count for the
exponent. -/
def takeWhole (significand : Nat) : List Char → Nat × Nat
  | [] => (significand, 0)
  | c :: rest =>
    let next := significand * 10 + digitValue c
    if next > maxSignificand then (significand, rest.length + 1) else takeWhole next rest

/-- Take digits after the point, up to the first that does not fit; also how many were taken. -/
def takeFraction (significand : Nat) : List Char → Nat × Nat
  | [] => (significand, 0)
  | c :: rest =>
    let next := significand * 10 + digitValue c
    if next > maxSignificand then (significand, 0)
    else
      let (significand, taken) := takeFraction next rest
      (significand, taken + 1)

/-- The value of decimal digits. -/
def digitsValue (digits : List Char) : Nat :=
  digits.foldl (fun value c => value * 10 + digitValue c) 0

/-- A power of ten up to `10 ^ 308`. -/
def powerOfTen (exponent : Nat) : Option Binary64 := Binary64.ofRatio? false (Nat.pow 10 exponent) 1

/-- A number times a power of ten, in steps of at most `10 ^ 308`. -/
def scaleByTen (x : Binary64) (exponent : Int) : Nat → Option Binary64
  | 0 => some (Binary64.zero false)
  | fuel + 1 =>
    if exponent.natAbs ≤ 308 then do
      let power ← powerOfTen exponent.natAbs
      if exponent ≥ 0 then x.mul? power else x.div? power
    else if x.significand = 0 then some x
    else if exponent ≥ 0 then none
    else do
      let smaller ← x.div? (← powerOfTen 308)
      scaleByTen smaller (exponent + 308) fuel

/-- The number of a significand and a power of ten, with a sign. -/
def float? (negative : Bool) (significand : Nat) (exponent : Int) : Option JsonNumber := do
  let x ← scaleByTen (← Binary64.ofInt? significand) exponent 8
  return .float { x with negative }

/-- The greatest exponent that is read as written. -/
def maxExponent : Nat := Nat.pow 2 31 - 1

/-- The floating point number nearest to a numeral; none beyond their range. A numeral with more
than 400 places before or behind its point is not computed in full. -/
def nearest? (numeral : Numeral) : Option Binary64 :=
  let fraction := numeral.fraction.getD []
  let value := digitsValue (numeral.whole ++ fraction)
  let shift : Int := match numeral.exponent with
    | none => 0
    | some (down, digits) => if down then -(digitsValue digits : Int) else digitsValue digits
  let point : Int := shift - fraction.length
  let places : Int := (Nat.toDigits 10 value).length + point
  if value = 0 || places < -400 then some (Binary64.zero numeral.negative)
  else if places > 400 then none
  else if point ≥ 0 then Binary64.ofRatio? numeral.negative (value * Nat.pow 10 point.toNat) 1
  else Binary64.ofRatio? numeral.negative value (Nat.pow 10 (-point).toNat)

/-- The number of a numeral; none when it lies beyond the range of floating point numbers. -/
def toNumber? (numeral : Numeral) : Option JsonNumber :=
  let (significand, dropped) := takeWhole 0 numeral.whole
  match numeral.fraction, numeral.exponent with
  | none, none =>
    if dropped = 0 && (!numeral.negative || (0 < significand && significand ≤ Nat.pow 2 63)) then
      some (.integer (if numeral.negative then -(significand : Int) else significand))
    else float? numeral.negative significand dropped
  | fraction, exponent =>
    let (significand, taken) := takeFraction significand (fraction.getD [])
    let point : Int := (dropped : Int) - taken
    match exponent with
    | none => float? numeral.negative significand point
    | some (down, digits) =>
      let size := digitsValue digits
      if size > maxExponent then
        if significand ≠ 0 && !down then none
        else some (.float (Binary64.zero numeral.negative))
      else float? numeral.negative significand (if down then point - size else point + size)

end Numeral

end SfcBundler
