import SfcBundler.Text.Character

/-!
# Quoted texts in diagnostics

A text inside a diagnostic stands between double quotes. Quotes and backslashes are escaped, a
few controls have letters, and every other character that is not shown is written by its code
point in hexadecimal.

## Main definitions

* `Text.quoted`: the quoted form of a text
-/

namespace SfcBundler.Text

/-- The digits of a number in hexadecimal, small letters, without leading zeros. -/
def hex (n : Nat) : List Char := Nat.toDigits 16 n

/-- The form of one character between the quotes. -/
def quotedCharacter (c : Char) : List Char :=
  if c = '\x00' then ['\\', '0']
  else if c = '\t' then ['\\', 't']
  else if c = '\r' then ['\\', 'r']
  else if c = '\n' then ['\\', 'n']
  else if c = '\x22' || c = '\\' then ['\\', c]
  else if isShown c then [c]
  else ['\\', 'u', '\x7b'] ++ hex c.toNat ++ ['\x7d']

/-- A text between double quotes. -/
def quoted (text : String) : String :=
  String.ofList ('\x22' :: text.toList.flatMap quotedCharacter ++ ['\x22'])

end SfcBundler.Text
