import SfcBundler.Json.Numeral

/-!
# Reading JSON

The strict grammar: blanks are space, tab, line feed and carriage return, controls inside quotes
are escaped, no comma stands before a closing bracket, and nothing follows the value.

## Main definitions

* `Json.ReadError`: why a text is refused
* `Json.ReadPolicy`: what readers of the grammar differ in
* `Json.readString`: the rest of a text between quotes
* `Json.parseWith`, `Json.parse`: the value of a text
-/

namespace SfcBundler

namespace Json

/-- Why a text is no JSON value that can be held. -/
inductive ReadError where
  | malformed
  | numberOutOfRange
  | loneSurrogate
  | tooDeep
deriving Repr, DecidableEq

/-- The wording of a refusal. -/
def ReadError.message : ReadError → String
  | malformed => "the text is not a JSON value"
  | numberOutOfRange => "number out of range"
  | loneSurrogate => "an escape stands for half a character"
  | tooDeep => "recursion limit exceeded"

/-- What readers of the same grammar differ in: how many arrays and objects may be open at one
place, and the value of a numeral. -/
structure ReadPolicy where
  maxDepth : Nat
  number : Numeral → Except ReadError Json

/-- The value of a numeral, which must lie in the range of numbers. -/
def numeralInRange (numeral : Numeral) : Except ReadError Json :=
  match numeral.toNumber? with
  | some value => .ok (number value)
  | none => .error .numberOutOfRange

/-- Up to 127 arrays and objects open at one place, all numbers in range. -/
def ReadPolicy.strict : ReadPolicy := ⟨127, numeralInRange⟩

/-- The text behind leading blanks. -/
def skipBlank (text : List Char) : List Char :=
  text.dropWhile fun c => c == ' ' || c == '\t' || c == '\n' || c == '\r'

/-- The value of a hexadecimal digit. -/
def hexValue? (c : Char) : Option Nat :=
  if '0' ≤ c && c ≤ '9' then some (c.toNat - '0'.toNat)
  else if 'a' ≤ c && c ≤ 'f' then some (c.toNat - 'a'.toNat + 10)
  else if 'A' ≤ c && c ≤ 'F' then some (c.toNat - 'A'.toNat + 10)
  else none

/-- The value of four hexadecimal digits. -/
def unit? (a b c d : Char) : Option Nat := do
  return (((← hexValue? a) * 16 + (← hexValue? b)) * 16 + (← hexValue? c)) * 16 + (← hexValue? d)

/-- Put a character in front of what the rest of a text reads as. -/
def consRead (c : Char) (read : Except ReadError (List Char × List Char)) :
    Except ReadError (List Char × List Char) :=
  read.map fun (text, rest) => (c :: text, rest)

/-- What a letter stands for behind a backslash. -/
def unescape? (c : Char) : Option Char :=
  if c = '\x22' || c = '\\' || c = '/' then some c
  else if c = 'b' then some '\x08'
  else if c = 'f' then some '\x0c'
  else if c = 'n' then some '\n'
  else if c = 'r' then some '\r'
  else if c = 't' then some '\t'
  else none

/-- The characters up to the closing quote, and what follows it. -/
def readString : List Char → Except ReadError (List Char × List Char)
  | [] => .error .malformed
  | '\\' :: 'u' :: a :: b :: c :: d :: rest =>
    match unit? a b c d with
    | none => .error .malformed
    | some high =>
      if 0xD800 ≤ high && high ≤ 0xDBFF then
        match rest with
        | '\\' :: 'u' :: e :: f :: g :: h :: rest =>
          match unit? e f g h with
          | none => .error .malformed
          | some low =>
            if 0xDC00 ≤ low && low ≤ 0xDFFF then
              let point := 0x10000 + (high - 0xD800) * 0x400 + (low - 0xDC00)
              consRead (Char.ofNat point) (readString rest)
            else .error .loneSurrogate
        | _ => .error .loneSurrogate
      else if 0xDC00 ≤ high && high ≤ 0xDFFF then .error .loneSurrogate
      else consRead (Char.ofNat high) (readString rest)
  | '\\' :: c :: rest =>
    match unescape? c with
    | none => .error .malformed
    | some d => consRead d (readString rest)
  | c :: rest =>
    if c = '\x22' then .ok ([], rest)
    else if c.toNat < 0x20 || c = '\\' then .error .malformed
    else consRead c (readString rest)

/-- Digits at the start of a text, at least one, and what follows. -/
def readDigits (text : List Char) : Except ReadError (List Char × List Char) :=
  match text.takeWhile Char.isDigit with
  | [] => .error .malformed
  | digits => .ok (digits, text.dropWhile Char.isDigit)

/-- The exponent of a numeral, if there is one: whether it is negative, and its digits. -/
def readExponent : List Char → Except ReadError (Option (Bool × List Char) × List Char)
  | mark :: rest =>
    if mark = 'e' || mark = 'E' then
      let (down, rest) := match rest with
        | '-' :: rest => (true, rest)
        | '+' :: rest => (false, rest)
        | _ => (false, rest)
      (readDigits rest).map fun (digits, rest) => (some (down, digits), rest)
    else .ok (none, mark :: rest)
  | [] => .ok (none, [])

/-- A number at the start of a text. -/
def readNumber (policy : ReadPolicy) (text : List Char) : Except ReadError (Json × List Char) := do
  let (negative, text) := match text with
    | '-' :: rest => (true, rest)
    | _ => (false, text)
  let (whole, text) ← readDigits text
  if whole.length > 1 && whole.head? == some '0' then throw .malformed
  let (fraction, text) ← match text with
    | '.' :: rest => (readDigits rest).map fun (digits, rest) => (some digits, rest)
    | _ => .ok (none, text)
  let (exponent, text) ← readExponent text
  return (← policy.number { negative, whole, fraction, exponent }, text)

mutual

/-- A value at the start of a text. `depth` more arrays and objects may be opened; `fuel` bounds
the steps. -/
def readValue (policy : ReadPolicy) : Nat → Nat → List Char → Except ReadError (Json × List Char)
  | 0, _, _ => .error .malformed
  | fuel + 1, depth, text =>
    match skipBlank text with
    | 'n' :: 'u' :: 'l' :: 'l' :: rest => .ok (null, rest)
    | 't' :: 'r' :: 'u' :: 'e' :: rest => .ok (bool true, rest)
    | 'f' :: 'a' :: 'l' :: 's' :: 'e' :: rest => .ok (bool false, rest)
    | '\x22' :: rest => (readString rest).map fun (text, rest) => (string (String.ofList text), rest)
    | '[' :: rest =>
      match depth with
      | 0 => .error .tooDeep
      | depth + 1 =>
        match skipBlank rest with
        | ']' :: rest => .ok (array [], rest)
        | rest => (readItems policy fuel depth rest).map fun (items, rest) => (array items, rest)
    | '\x7b' :: rest =>
      match depth with
      | 0 => .error .tooDeep
      | depth + 1 =>
        match skipBlank rest with
        | '\x7d' :: rest => .ok (object [], rest)
        | rest => (readFields policy fuel depth [] rest).map fun (fields, rest) => (object fields, rest)
    | text => readNumber policy text

/-- Items up to the closing bracket. -/
def readItems (policy : ReadPolicy) : Nat → Nat → List Char → Except ReadError (List Json × List Char)
  | 0, _, _ => .error .malformed
  | fuel + 1, depth, text => do
    let (item, rest) ← readValue policy fuel depth text
    match skipBlank rest with
    | ']' :: rest => return ([item], rest)
    | ',' :: rest => do
      let (items, rest) ← readItems policy fuel depth rest
      return (item :: items, rest)
    | _ => throw .malformed

/-- Fields up to the closing brace, put in among those already read. -/
def readFields (policy : ReadPolicy) : Nat → Nat → List (String × Json) → List Char →
    Except ReadError (List (String × Json) × List Char)
  | 0, _, _, _ => .error .malformed
  | fuel + 1, depth, fields, text =>
    match skipBlank text with
    | '\x22' :: rest => do
      let (name, rest) ← readString rest
      match skipBlank rest with
      | ':' :: rest => do
        let (value, rest) ← readValue policy fuel depth rest
        let fields := insertField (String.ofList name) value fields
        match skipBlank rest with
        | '\x7d' :: rest => return (fields, rest)
        | ',' :: rest => readFields policy fuel depth fields rest
        | _ => throw .malformed
      | _ => throw .malformed
    | _ => .error .malformed

end

/-- The value of the whole of a text under a policy. -/
def parseWith (policy : ReadPolicy) (text : List Char) : Except ReadError Json := do
  let (value, rest) ← readValue policy (2 * text.length + 2) policy.maxDepth text
  if (skipBlank rest).isEmpty then return value else throw .malformed

/-- The value of the whole of a text. -/
def parseText (text : List Char) : Except ReadError Json := parseWith .strict text

/-- The value of a text. -/
def parse (text : String) : Except ReadError Json := parseText text.toList

/-- The value of a text, if it has one. -/
def parse? (text : String) : Option Json := (parse text).toOption

end Json

end SfcBundler
