import SfcBundler.Json.Printer
import SfcBundler.Json.Reader
import SfcBundler.Text.Cut

/-!
# JSON inside the guest

Inside a script every number is a floating point number, so an argument is rounded when it goes
in. A result comes out as JSON text in the script's own spelling.

## Main definitions

* `Marshal.numberText`: the spelling of a number inside a script
* `Marshal.jsonText`: the JSON text of a value inside a script
* `Marshal.textOf`: the text that a value is taken for where a text is wanted
* `Marshal.parse`: a JSON text read inside a script
-/

namespace SfcBundler.Marshal

/-- Numbers from `0.000001` up to `10 ^ 21` are written without an exponent, whole ones without a
fraction. -/
def layout : DecimalLayout := ⟨-5, 21, false⟩

/-- The floating point number that a number is inside a script. -/
def toBinary64 : JsonNumber → Binary64
  | .integer value => (Binary64.ofInt? value).getD (Binary64.zero false)
  | .float value => value

/-- The spelling of a number; zero has no sign. -/
def numberText (value : JsonNumber) : List Char :=
  let x := toBinary64 value
  if x.significand = 0 then ['0'] else x.write layout

/-- The array index that a field's name spells. -/
def arrayIndex? (name : String) : Option Nat :=
  let digits := name.toList
  if digits.isEmpty || !digits.all Char.isDigit || (digits.length > 1 && digits.head? == some '0')
  then none
  else
    let index := Numeral.digitsValue digits
    if index < Nat.pow 2 32 - 1 then some index else none

/-- Fields as a script lists them: those named by an array index first, in the order of the
indices. -/
def listFields (fields : List (String × Json)) : List (String × Json) :=
  let indexed := fields.filterMap fun field => (arrayIndex? field.1).map fun index => (index, field)
  let ordered := indexed.mergeSort fun one other => one.1 ≤ other.1
  ordered.map (·.2) ++ fields.filter fun field => (arrayIndex? field.1).isNone

mutual

/-- A value with the fields of its objects as a script lists them. -/
def listed : Json → Json
  | .array items => .array (listedItems items)
  | .object fields => .object (listFields (listedFields fields))
  | value => value

/-- Items with listed fields. -/
def listedItems : List Json → List Json
  | [] => []
  | item :: rest => listed item :: listedItems rest

/-- Fields whose values have listed fields. -/
def listedFields : List (String × Json) → List (String × Json)
  | [] => []
  | (name, value) :: rest => (name, listed value) :: listedFields rest

end

/-- The JSON text of a value inside a script. -/
def jsonText (value : Json) : String := String.ofList ((listed value).writeWith numberText)

mutual

/-- The text that a value is taken for where a text is wanted. -/
def textOf : Json → List Char
  | .null => ['n', 'u', 'l', 'l']
  | .bool true => ['t', 'r', 'u', 'e']
  | .bool false => ['f', 'a', 'l', 's', 'e']
  | .number value => numberText value
  | .string text => text.toList
  | .array items => Text.join [','] (textsOf items)
  | .object _ => "[object Object]".toList

/-- The texts of the items of an array; that of null is empty. -/
def textsOf : List Json → List (List Char)
  | [] => []
  | .null :: rest => [] :: textsOf rest
  | item :: rest => textOf item :: textsOf rest

end

/-- The value of a numeral inside a script; one beyond all numbers comes out as null. -/
def numeral (numeral : Numeral) : Except Json.ReadError Json :=
  .ok (match numeral.nearest? with
    | some value => .number (.float value)
    | none => .null)

/-- A JSON text read inside a script, where arrays and objects may be nested to any depth. -/
def parse (text : List Char) : Except Json.ReadError Json :=
  Json.parseWith ⟨text.length, numeral⟩ text

end SfcBundler.Marshal
