/-!
# UTF-8

Bytes are read one at a time by a machine that stands either between characters or inside one.
A byte that cannot continue the character begun makes what came before it one malformed unit,
and is then read again as a first byte.

## Main definitions

* `Utf8.encode`: the bytes of a text
* `Utf8.State`, `Utf8.step`: the machine
* `Utf8.units`: bytes as characters and malformed units
* `Utf8.decode?`: the text of well-formed bytes
* `Utf8.decodeLossy`: the text of any bytes, with `U+FFFD` for each malformed unit
-/

namespace SfcBundler.Utf8

/-- The bytes of a text. -/
def encode (text : List Char) : List UInt8 := text.flatMap String.utf8EncodeChar

/-- Where the reader stands: between characters, or inside one with `owed` bytes to come, the next
of them from `low` to `high`, and the code point's bits so far. -/
inductive State where
  | start
  | inside (owed : Nat) (low high : UInt8) (bits : Nat)
deriving Repr, DecidableEq

/-- One piece of the input: a character, or `none` for a malformed sequence. -/
abbrev Piece := Option Char

/-- Read a first byte. -/
def first (byte : UInt8) : List Piece × State :=
  let n := byte.toNat
  if n < 0x80 then ([some (Char.ofNat n)], .start)
  else if 0xC2 ≤ n && n ≤ 0xDF then ([], .inside 1 0x80 0xBF (n - 0xC0))
  else if n = 0xE0 then ([], .inside 2 0xA0 0xBF 0)
  else if n = 0xED then ([], .inside 2 0x80 0x9F 0xD)
  else if 0xE1 ≤ n && n ≤ 0xEF then ([], .inside 2 0x80 0xBF (n - 0xE0))
  else if n = 0xF0 then ([], .inside 3 0x90 0xBF 0)
  else if n = 0xF4 then ([], .inside 3 0x80 0x8F 4)
  else if 0xF1 ≤ n && n ≤ 0xF3 then ([], .inside 3 0x80 0xBF (n - 0xF0))
  else ([none], .start)

/-- Read one byte: the units it completes and where the reader stands after it. -/
def step : State → UInt8 → List Piece × State
  | .start, byte => first byte
  | .inside owed low high bits, byte =>
    if low ≤ byte && byte ≤ high then
      let bits := bits * 64 + (byte.toNat - 0x80)
      if owed ≤ 1 then ([some (Char.ofNat bits)], .start)
      else ([], .inside (owed - 1) 0x80 0xBF bits)
    else
      let again := first byte
      (none :: again.1, again.2)

/-- The units of the bytes that follow a state; a character cut short by the end is malformed. -/
def unitsFrom : State → List UInt8 → List Piece
  | .start, [] => []
  | .inside .., [] => [none]
  | state, byte :: rest =>
    let next := step state byte
    next.1 ++ unitsFrom next.2 rest

/-- Bytes as a sequence of characters and malformed units. -/
def units (bytes : List UInt8) : List Piece := unitsFrom .start bytes

/-- The text of well-formed bytes; `none` when some unit is malformed. -/
def decode? (bytes : List UInt8) : Option (List Char) := (units bytes).mapM id

/-- The text of any bytes, each malformed unit read as `U+FFFD`. -/
def decodeLossy (bytes : List UInt8) : List Char :=
  (units bytes).map (·.getD (Char.ofNat 0xFFFD))

end SfcBundler.Utf8
