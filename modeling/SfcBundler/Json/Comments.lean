/-!
# JSON with comments

Configuration files are JSON in which comments may stand outside of quotes. They are taken out
before the text is read; a line comment leaves its line end behind, a block comment nothing.

## Main definitions

* `Json.CommentRegion`: where a character stands
* `Json.CommentRegion.step`: what is kept of a character, and the region behind it
* `Json.stripComments`: a text without its comments
-/

namespace SfcBundler.Json

/-- Where a character stands: between the quotes of a literal (behind a backslash or not), in a
line comment, at the second character of a block comment's opening, in a block comment (behind a
star or not), or in none of these. -/
inductive CommentRegion where
  | plain
  | literal (escaped : Bool)
  | line
  | opening
  | block (afterStar : Bool)
deriving Repr, DecidableEq

/-- What is kept of a character in a region, and the region behind it. `next` is the character
that follows. -/
def CommentRegion.step (next : Option Char) (c : Char) : CommentRegion → Option Char × CommentRegion
  | plain =>
    if c = '\x22' then (some c, literal false)
    else if c = '/' && next = some '/' then (none, line)
    else if c = '/' && next = some '*' then (none, opening)
    else (some c, plain)
  | literal escaped =>
    (some c,
      if escaped then literal false
      else if c = '\\' then literal true
      else if c = '\x22' then plain
      else literal false)
  | line => if c = '\n' then (some c, plain) else (none, line)
  | opening => (none, block false)
  | block afterStar => (none, if afterStar && c = '/' then plain else block (c = '*'))

/-- A text without its comments, from a region on. -/
def stripFrom (region : CommentRegion) : List Char → List Char
  | [] => []
  | c :: rest =>
    let (kept, region) := region.step rest.head? c
    kept.toList ++ stripFrom region rest

/-- A text without its comments. -/
def stripComments (text : List Char) : List Char := stripFrom .plain text

/-- A text without slashes has no comments. -/
theorem stripFrom_of_no_slash {text : List Char} (h : '/' ∉ text) (escaped : Bool) :
    stripFrom .plain text = text ∧ stripFrom (.literal escaped) text = text := by
  induction text generalizing escaped with
  | nil => simp [stripFrom]
  | cons c rest ih =>
    simp only [List.mem_cons, not_or] at h
    have hc : c ≠ '/' := fun e => h.1 e.symm
    have ih := ih h.2
    constructor
    · by_cases hq : c = '\x22'
      · simp [stripFrom, CommentRegion.step, hq, (ih false).2]
      · simp [stripFrom, CommentRegion.step, hq, hc, (ih false).1]
    · cases escaped with
      | true => simp [stripFrom, CommentRegion.step, (ih false).2]
      | false =>
        by_cases hb : c = '\\'
        · simp [stripFrom, CommentRegion.step, hb, (ih true).2]
        · by_cases hq : c = '\x22'
          · simp [stripFrom, CommentRegion.step, hq, (ih false).1]
          · simp [stripFrom, CommentRegion.step, hb, hq, (ih false).2]

end SfcBundler.Json
