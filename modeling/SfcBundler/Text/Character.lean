import SfcBundler.Text.WordRanges
import SfcBundler.Text.CombiningRanges
import SfcBundler.Text.HiddenRanges

/-!
# Classes of characters

## Main definitions

* `Text.isBlank`: the white space characters
* `Text.isWord`: letters, marks, digits, connectors and join controls
* `Text.isShown`: characters that a quoted text shows as they are
* `Text.trimEnd`: a text without the blanks at its end
-/

namespace SfcBundler.Text

/-- Whether a code point lies in one of the ranges. -/
def inRanges (ranges : List (Nat × Nat)) (point : Nat) : Bool :=
  ranges.any fun range => range.1 ≤ point && point ≤ range.2

/-- White space characters outside ASCII and the line ends inside it. -/
def blankRanges : List (Nat × Nat) := [
  (0x9, 0xD), (0x20, 0x20), (0x85, 0x85), (0xA0, 0xA0), (0x1680, 0x1680), (0x2000, 0x200A),
  (0x2028, 0x2029), (0x202F, 0x202F), (0x205F, 0x205F), (0x3000, 0x3000)]

/-- The white space characters. -/
def isBlank (c : Char) : Bool := inRanges blankRanges c.toNat

/-- The word characters: of ASCII the letters, digits and the underscore. -/
def isWord (c : Char) : Bool :=
  c.isAlphanum || c == '_' || (0x80 ≤ c.toNat && inRanges wordRanges c.toNat)

/-- Characters that stand for themselves in a quoted text: visible ones and the space. -/
def isShown (c : Char) : Bool :=
  !inRanges hiddenRanges c.toNat && !(0x80 ≤ c.toNat && inRanges combiningRanges c.toNat)

/-- A text without the white space at its end. -/
def trimEnd (text : List Char) : List Char := (text.reverse.dropWhile isBlank).reverse

/-- Core's white space is white space here. -/
theorem isBlank_of_isWhitespace {c : Char} (h : c.isWhitespace) : isBlank c := by
  simp only [Char.isWhitespace, Bool.or_eq_true, decide_eq_true_eq] at h
  rcases h with ((rfl | rfl) | rfl) | rfl <;> decide

end SfcBundler.Text
