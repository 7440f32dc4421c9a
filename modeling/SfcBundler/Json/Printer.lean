import SfcBundler.Json.Basic
import SfcBundler.Number.Shortest

/-!
# Printing JSON

Values are printed without any blanks. Inside quotes only the quote, the backslash and the
controls are escaped.

## Main definitions

* `Json.quote`: a text between quotes
* `Json.IsEscape`: the forms of a character inside quotes
* `Json.IsPlain`: a text that stands between quotes as it is
* `Json.writeWith`, `Json.write`, `Json.print`: a value as characters and as a text

## Main results

* `Json.isEscape_escape`: how a character is escaped
* `Json.escape_head`: a quote or a control never stands for itself
* `Json.quote_of_isPlain`: a plain text is quoted without escapes
-/

namespace SfcBundler

/-- Floating point numbers from `0.00001` up to `10 ^ 16` are written without an exponent, whole
ones with `.0`. -/
def JsonNumber.layout : DecimalLayout := ⟨-4, 16, true⟩

/-- The text of an integer. -/
def writeInt (value : Int) : List Char :=
  (if value < 0 then ['-'] else []) ++ Nat.toDigits 10 value.natAbs

/-- The text of a number. -/
def JsonNumber.write : JsonNumber → List Char
  | integer value => writeInt value
  | float value => value.write layout

namespace Json

/-- The hexadecimal digit of a value below sixteen. -/
def hexDigit (value : Nat) : Char :=
  if value < 10 then Char.ofNat ('0'.toNat + value) else Char.ofNat ('a'.toNat + (value - 10))

/-- The form of one character inside quotes. -/
def escape (c : Char) : List Char :=
  if c = '\x22' then ['\\', '\x22']
  else if c = '\\' then ['\\', '\\']
  else if c = '\x08' then ['\\', 'b']
  else if c = '\t' then ['\\', 't']
  else if c = '\n' then ['\\', 'n']
  else if c = '\x0c' then ['\\', 'f']
  else if c = '\r' then ['\\', 'r']
  else if c.toNat < 0x20 then
    ['\\', 'u', '0', '0', hexDigit (c.toNat / 16), hexDigit (c.toNat % 16)]
  else [c]

/-- A text between quotes. -/
def quote (text : List Char) : List Char := '\x22' :: text.flatMap escape ++ ['\x22']

mutual

/-- The characters of a value whose numbers are written by `number`. -/
def writeWith (number : JsonNumber → List Char) : Json → List Char
  | null => ['n', 'u', 'l', 'l']
  | bool true => ['t', 'r', 'u', 'e']
  | bool false => ['f', 'a', 'l', 's', 'e']
  | .number value => number value
  | string text => quote text.toList
  | array items => '[' :: writeItems number items ++ [']']
  | object fields => '\x7b' :: writeFields number fields ++ ['\x7d']

/-- Items with commas between them. -/
def writeItems (number : JsonNumber → List Char) : List Json → List Char
  | [] => []
  | [item] => item.writeWith number
  | item :: next :: rest => item.writeWith number ++ ',' :: writeItems number (next :: rest)

/-- Fields with commas between them. -/
def writeFields (number : JsonNumber → List Char) : List (String × Json) → List Char
  | [] => []
  | [(name, value)] => quote name.toList ++ ':' :: value.writeWith number
  | (name, value) :: next :: rest =>
    quote name.toList ++ ':' :: value.writeWith number ++ ',' ::
      writeFields number (next :: rest)

end

/-- The characters of a value. -/
def write (value : Json) : List Char := value.writeWith JsonNumber.write

/-- The text of a value. -/
def print (value : Json) : String := String.ofList value.write

/-- A text as a JSON string. -/
def printText (text : String) : String := String.ofList (quote text.toList)

/-- The letters that stand for a character behind a backslash. -/
def escapeLetters : List (Char × Char) :=
  [('\x22', '\x22'), ('\\', '\\'), ('b', '\x08'), ('t', '\t'), ('n', '\n'), ('f', '\x0c'),
    ('r', '\r')]

/-- The forms of a character inside quotes: a letter behind a backslash, the four digits of a
control, or the character itself. -/
inductive IsEscape (c : Char) : List Char → Prop
  | letter {letter : Char} (h : (letter, c) ∈ escapeLetters) : IsEscape c ['\\', letter]
  | unit (hcontrol : c.toNat < 0x20) :
    IsEscape c ['\\', 'u', '0', '0', hexDigit (c.toNat / 16), hexDigit (c.toNat % 16)]
  | bare (hquote : c ≠ '\x22') (hback : c ≠ '\\') (hcontrol : 0x20 ≤ c.toNat) : IsEscape c [c]

theorem isEscape_escape (c : Char) : IsEscape c (escape c) := by
  unfold escape
  split
  · subst c
    exact .letter (by decide)
  split
  · subst c
    exact .letter (by decide)
  -- five controls have a letter of their own
  iterate 5
    split
    · subst c
      exact .letter (by decide)
  split
  · exact .unit ‹_›
  · exact .bare ‹_› ‹_› (Nat.le_of_not_lt ‹_›)

/-- An escaped character is never a bare quote and never a control. -/
theorem escape_head (c : Char) : ∃ d rest, escape c = d :: rest ∧ d ≠ '\x22' ∧ 0x20 ≤ d.toNat := by
  have hform := isEscape_escape c
  generalize escape c = form at hform ⊢
  cases hform with
  | letter => exact ⟨_, _, rfl, by decide, by decide⟩
  | unit => exact ⟨_, _, rfl, by decide, by decide⟩
  | bare hquote _ hcontrol => exact ⟨_, _, rfl, hquote, hcontrol⟩

/-- A text without quotes of either kind, backslashes and controls. -/
def IsPlain (text : List Char) : Prop :=
  ∀ c ∈ text, c ≠ '\x22' ∧ c ≠ '\x27' ∧ c ≠ '\\' ∧ 0x20 ≤ c.toNat

instance (text : List Char) : Decidable (IsPlain text) := List.decidableBAll _ text

@[simp]
theorem isPlain_append {front back : List Char} :
    IsPlain (front ++ back) ↔ IsPlain front ∧ IsPlain back := by
  simp only [IsPlain, List.mem_append]
  exact ⟨fun h => ⟨fun c hc => h c (.inl hc), fun c hc => h c (.inr hc)⟩,
    fun h c hc => hc.elim (h.1 c) (h.2 c)⟩

theorem escape_of_isPlain {c : Char} {text : List Char} (h : IsPlain text) (hc : c ∈ text) :
    escape c = [c] := by
  have hplain : IsPlain [c] := fun d hd => by
    rw [List.mem_singleton.1 hd]
    exact h c hc
  -- what has a letter of its own is not plain
  have hletters : ∀ entry ∈ escapeLetters, ¬ IsPlain [entry.2] := by decide
  have hform := isEscape_escape c
  generalize escape c = form at hform ⊢
  cases hform with
  | letter hletter => exact absurd hplain (hletters _ hletter)
  | unit hcontrol => exact absurd (h c hc).2.2.2 (Nat.not_le.2 hcontrol)
  | bare => rfl

theorem quote_of_isPlain {text : List Char} (h : IsPlain text) :
    quote text = '\x22' :: text ++ ['\x22'] := by
  have hflat : text.flatMap escape = text := by
    rw [List.flatMap_def, List.map_congr_left fun c hc => escape_of_isPlain h hc,
      ← List.flatMap_def, List.flatMap_singleton']
  rw [quote, hflat]

end Json

end SfcBundler
