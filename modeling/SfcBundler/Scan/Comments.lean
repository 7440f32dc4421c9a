/-!
# Blanking comments out

A text is read one character at a time, in a region: plain code, a literal between quotes, or a
comment. Each character is either kept or, inside a comment, written as a space, so that every
character stays in its place and every line end stays.

## Main definitions

* `Scan.Region`: where a character stands
* `Scan.Region.step`: what becomes of a character, and the region behind it
* `Scan.blankComments`: a text with its comments blanked out

## Main results

* `Scan.blankComments_length`: no character is lost or added
-/

namespace SfcBundler.Scan

/-- Where a character stands: in code, at the second character of a block comment's opening, in a
block comment (behind a star or not), in a line comment, in a literal, or behind a backslash in
one. -/
inductive Region where
  | code
  | opening
  | block (afterStar : Bool)
  | line
  | literal (quote : Char)
  | escaped (quote : Char)
deriving Repr, DecidableEq

/-- The quote of template literals, which may span lines. -/
def backtick : Char := '\x60'

/-- Whether a character opens a literal. -/
def opensLiteral (c : Char) : Bool := c == '\x22' || c == '\x27' || c == backtick

/-- A character inside a comment: line ends stay, all else is a space. -/
def blanked (c : Char) : Char := if c = '\n' then '\n' else ' '

/-- What is written for a character in a region, and the region behind it. `next` is the character
that follows; line comments are comments only where `lineComments` holds. -/
def Region.step (lineComments : Bool) (next : Option Char) (c : Char) : Region → Char × Region
  | code =>
    if opensLiteral c then (c, literal c)
    else if c = '/' && next = some '*' then (' ', opening)
    else if c = '/' && lineComments && next = some '/' then (' ', line)
    else (c, code)
  | opening => (' ', block false)
  | block afterStar =>
    (blanked c, if afterStar && c = '/' then code else block (c = '*'))
  | line => (blanked c, if c = '\n' then code else line)
  | literal quote =>
    (c, if c = '\\' then escaped quote
      else if c = quote || (c = '\n' && quote ≠ backtick) then code
      else literal quote)
  | escaped quote => (c, literal quote)

/-- A text with its comments blanked out, from a region on. -/
def blankFrom (lineComments : Bool) (region : Region) : List Char → List Char
  | [] => []
  | c :: rest =>
    let next := region.step lineComments rest.head? c
    next.1 :: blankFrom lineComments next.2 rest

/-- A text with its comments blanked out. -/
def blankComments (lineComments : Bool) (text : List Char) : List Char :=
  blankFrom lineComments .code text

theorem blankFrom_length (lineComments : Bool) (region : Region) (text : List Char) :
    (blankFrom lineComments region text).length = text.length := by
  induction text generalizing region with
  | nil => rfl
  | cons c rest ih => simp [blankFrom, ih]

theorem blankComments_length (lineComments : Bool) (text : List Char) :
    (blankComments lineComments text).length = text.length :=
  blankFrom_length lineComments .code text

end SfcBundler.Scan
