import SfcBundler.Text.Cut
import SfcBundler.Text.Utf8

/-!
# Glob patterns

A pattern stands for the paths that it matches as a whole. A question mark stands for one byte, a
star for any bytes, slashes included; two stars between slashes, or at either end, stand for any
number of whole segments. Classes, alternatives in braces and escapes work as usual.

## Main definitions

* `GlobToken`, `Glob`: the pieces of a pattern
* `Glob.parse`: the pattern of a text
* `Glob.ends`: where a match that starts at the front of a text may end
* `Glob.isMatch`: whether a pattern matches a path
-/

namespace SfcBundler

/-- A piece of a pattern. -/
inductive GlobToken where
  /-- The given character. -/
  | literal (c : Char)
  /-- Any byte. -/
  | any
  /-- Any bytes. -/
  | star
  /-- One byte in one of the ranges, or in none of them. -/
  | oneOf (negated : Bool) (ranges : List (Char × Char))
  /-- Whole segments at the front, perhaps none. -/
  | leadingSegments
  /-- A slash and something behind it. -/
  | trailingSegments
  /-- A slash, whole segments, perhaps none, and a slash. -/
  | innerSegments
  /-- One of several patterns. -/
  | alternatives (branches : List (List GlobToken))
deriving Repr

/-- A pattern. -/
abbrev Glob := List GlobToken

/-- Why a text is no pattern. -/
inductive GlobError where
  | unclosedClass
  | reversedRange
  | unopenedAlternatives
  | unclosedAlternatives
  | danglingEscape
deriving Repr, DecidableEq

namespace Glob

/-- The ranges of a class behind its opening bracket, and what follows the class. `inRange` says
that a hyphen waits for the end of a range, `first` that no character was read yet. -/
def readClass (first inRange : Bool) (ranges : List (Char × Char)) :
    List Char → Except GlobError (List (Char × Char) × List Char)
  | [] => .error .unclosedClass
  | c :: rest =>
    if c = ']' && !first then
      .ok (ranges.reverse ++ (if inRange then [('-', '-')] else []), rest)
    else if c = '-' && !first && !inRange then readClass false true ranges rest
    else if inRange then
      match ranges with
      | [] => .error .unclosedClass
      | (low, _) :: before =>
        if c < low then .error .reversedRange
        else readClass false false ((low, c) :: before) rest
    else readClass false false ((c, c) :: ranges) rest

/-- A class behind its opening bracket, and what follows it. -/
def takeClass (text : List Char) : Except GlobError (GlobToken × List Char) :=
  let (negated, text) := match text with
    | '!' :: rest => (true, rest)
    | '^' :: rest => (true, rest)
    | _ => (false, text)
  (readClass true false [] text).map fun (ranges, rest) => (.oneOf negated ranges, rest)

/-- A parser's state: the finished branches and the current one of each open group of
alternatives, the innermost first, and the tokens outside of all groups. Tokens stand in
reverse. -/
structure ParseState where
  groups : List (List Glob × Glob) := []
  outer : Glob := []

namespace ParseState

/-- The tokens of the branch that is being read, in reverse. -/
def current (state : ParseState) : Glob :=
  match state.groups with
  | (_, branch) :: _ => branch
  | [] => state.outer

/-- The state with another current branch. -/
def withCurrent (state : ParseState) (tokens : Glob) : ParseState :=
  match state.groups with
  | (finished, _) :: rest => { state with groups := (finished, tokens) :: rest }
  | [] => { state with outer := tokens }

/-- The state with one more token. -/
def push (state : ParseState) (token : GlobToken) : ParseState :=
  state.withCurrent (token :: state.current)

/-- The state with another last token. -/
def replaceLast (state : ParseState) (change : GlobToken → GlobToken) : ParseState :=
  match state.current with
  | last :: before => state.withCurrent (change last :: before)
  | [] => state

/-- Whether no group is open. -/
def isOuter (state : ParseState) : Bool := state.groups.isEmpty

/-- Open a group. -/
def openGroup (state : ParseState) : ParseState :=
  { state with groups := ([], []) :: state.groups }

/-- Start the next branch of a group. -/
def nextBranch (state : ParseState) : ParseState :=
  match state.groups with
  | (finished, branch) :: rest =>
    { state with groups := (branch.reverse :: finished, []) :: rest }
  | [] => state

/-- Close a group. -/
def closeGroup (state : ParseState) : Except GlobError ParseState :=
  match state.groups with
  | (finished, branch) :: rest =>
    let group := GlobToken.alternatives (branch.reverse :: finished).reverse
    .ok (({ state with groups := rest } : ParseState).push group)
  | [] => .error .unopenedAlternatives

/-- Two stars that count as one, twice. -/
def pushStars (state : ParseState) : ParseState := (state.push .star).push .star

/-- What two stars behind a slash make of the token before them. -/
def spanSegments (atEnd : Bool) : GlobToken → GlobToken
  | .leadingSegments => .leadingSegments
  | .trailingSegments => .trailingSegments
  | _ => if atEnd then .trailingSegments else .innerSegments

/-- Whether two stars behind a character may stand for whole segments: behind a slash, and within
alternatives also behind an escaped comma or opening brace. -/
def opensSegments (state : ParseState) (previous : Option Char) : Bool :=
  previous = some '/' || (!state.isOuter && (previous = some ',' || previous = some '\x7b'))

/-- Take in two stars. `previous` is the character before them, `text` what follows; the text
left over is given back. Where whole segments are meant, a slash behind the stars belongs to
them. -/
def takeStars (state : ParseState) (previous : Option Char) (text : List Char) :
    ParseState × List Char :=
  if state.current.isEmpty then
    match text with
    | [] => (state.push .leadingSegments, [])
    | '/' :: rest => (state.push .leadingSegments, rest)
    | _ => (state.pushStars, text)
  else if !state.opensSegments previous then (state.pushStars, text)
  else match text with
    | [] => (state.replaceLast (spanSegments true), [])
    | '/' :: rest => (state.replaceLast (spanSegments false), rest)
    | c :: _ =>
      if !state.isOuter && (c = ',' || c = '\x7d') then
        (state.replaceLast (spanSegments true), text)
      else (state.pushStars, text)

end ParseState

/-- Take in the rest of a pattern's text; at most `fuel` steps. -/
def read (state : ParseState) (previous : Option Char) :
    Nat → List Char → Except GlobError ParseState
  | 0, _ => .ok state
  | _, [] => .ok state
  | fuel + 1, c :: rest =>
    if c = '?' then read (state.push .any) c fuel rest
    else if c = '*' then
      match rest with
      | '*' :: rest =>
        let (state, left) := state.takeStars previous rest
        let previous := if left.length < rest.length then '/' else '*'
        read state previous fuel left
      | _ => read (state.push .star) c fuel rest
    else if c = '[' then do
      let (token, rest) ← takeClass rest
      read (state.push token) ']' fuel rest
    else if c = '\x7b' then read state.openGroup c fuel rest
    else if c = '\x7d' then do read (← state.closeGroup) c fuel rest
    else if c = ',' && !state.isOuter then read state.nextBranch c fuel rest
    else if c = '\\' then
      match rest with
      | [] => .error .danglingEscape
      | c :: rest => read (state.push (.literal c)) c fuel rest
    else read (state.push (.literal c)) c fuel rest

/-- The pattern of a text. -/
def parse (text : String) : Except GlobError Glob := do
  let state ← read {} none (text.length + 1) text.toList
  if state.isOuter then return state.outer.reverse else throw .unclosedAlternatives

/-- The texts behind each slash of a text. -/
def afterSlashes : List UInt8 → List (List UInt8)
  | [] => []
  | byte :: rest => (if byte = 0x2F then [rest] else []) ++ afterSlashes rest

/-- A text and all texts behind one of its bytes. -/
def suffixes : List UInt8 → List (List UInt8)
  | [] => [[]]
  | byte :: rest => (byte :: rest) :: suffixes rest

/-- The ranges of bytes that a range of characters stands for. The bytes of its ends count one by
one, and so do all bytes from the last of the low end to the first of the high end. -/
def byteRanges (low high : Char) : List (UInt8 × UInt8) :=
  let single (byte : UInt8) : UInt8 × UInt8 := (byte, byte)
  let lows := String.utf8EncodeChar low
  let highs := String.utf8EncodeChar high
  if low = high then lows.map single
  else
    lows.dropLast.map single ++ [(lows.getLastD 0, highs.headD 0)] ++ (highs.drop 1).map single

/-- Whether a class holds a byte. -/
def classHolds (negated : Bool) (ranges : List (Char × Char)) (byte : UInt8) : Bool :=
  negated != ranges.any fun (low, high) =>
    (byteRanges low high).any fun range => range.1 ≤ byte && byte ≤ range.2

mutual

/-- Whether a token stands for nothing at all: alternatives that are all without tokens. -/
def isVoid : GlobToken → Bool
  | .alternatives branches => areVoid branches
  | _ => false

/-- Whether branches are all void. -/
def areVoid : List (List GlobToken) → Bool
  | [] => true
  | branch :: rest => isVoidBranch branch && areVoid rest

/-- Whether a branch has only void tokens. -/
def isVoidBranch : List GlobToken → Bool
  | [] => true
  | token :: rest => isVoid token && isVoidBranch rest

end

mutual

/-- The texts that may be left when a token has matched at the front of a text. -/
def tokenEnds : GlobToken → List UInt8 → List (List UInt8)
  | .literal c, text => ((String.utf8EncodeChar c).isPrefixOf? text).toList
  | .any, text => text.tail?.toList
  | .star, text => suffixes text
  | .oneOf negated ranges, text =>
    match text with
    | byte :: rest => if classHolds negated ranges byte then [rest] else []
    | [] => []
  | .leadingSegments, text => text :: afterSlashes text
  | .trailingSegments, text =>
    match text with
    | 0x2F :: rest => suffixes rest
    | _ => []
  | .innerSegments, text =>
    match text with
    | 0x2F :: rest => rest :: afterSlashes rest
    | _ => []
  | .alternatives branches, text => if areVoid branches then [text] else branchEnds branches text

/-- The texts that may be left when one of the branches has matched; void branches are left
out. -/
def branchEnds : List (List GlobToken) → List UInt8 → List (List UInt8)
  | [], _ => []
  | branch :: rest, text =>
    (if isVoidBranch branch then [] else sequenceEnds branch [text]) ++ branchEnds rest text

/-- The texts that may be left when tokens have matched one after the other, from any of the given
texts. -/
def sequenceEnds : List GlobToken → List (List UInt8) → List (List UInt8)
  | [], texts => texts
  | token :: rest, texts => sequenceEnds rest (texts.flatMap fun text => tokenEnds token text).eraseDups

end

/-- The texts that may be left when a pattern has matched at the front of a text. -/
def ends (glob : Glob) (text : List UInt8) : List (List UInt8) := sequenceEnds glob [text]

/-- Whether a pattern matches a path. Two stars alone match every path. -/
def isMatch (glob : Glob) (path : String) : Bool :=
  match glob with
  | [.leadingSegments] => true
  | _ => (glob.ends (Utf8.encode path.toList)).contains []

end Glob

end SfcBundler
