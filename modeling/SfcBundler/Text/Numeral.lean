/-!
# Natural numbers as text

## Main definitions

* `Text.decimal`: the decimal digits of a number
* `Text.readUnsigned?`: the number below a bound that a text spells
-/

namespace SfcBundler.Text

/-- The decimal digits of a number. -/
def decimal (value : Nat) : String := String.ofList (Nat.toDigits 10 value)

/-- The number below a bound that a text spells in decimal digits, perhaps with a plus sign in
front. -/
def readUnsigned? (bound : Nat) (text : String) : Option Nat :=
  let digits := match text.toList with
    | '+' :: rest => rest
    | all => all
  if digits.isEmpty || !digits.all Char.isDigit then none
  else
    let value := digits.foldl (fun value c => value * 10 + (c.toNat - '0'.toNat)) 0
    if value < bound then some value else none

end SfcBundler.Text
