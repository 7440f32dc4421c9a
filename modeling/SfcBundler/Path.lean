import SfcBundler.Text.Cut

/-!
# Paths as texts

A path is a text whose segments are divided by slashes. Nothing here looks at a file system: a
path is cleaned, joined and related to another by its segments alone.

## Main definitions

* `Path.Normal`: a path without superfluous segments
* `Path.clean`: the text of a path's normal form
* `Path.join`, `Path.absolutize`: a path seen from a base directory
* `Path.relativeTo?`: the way from a base directory to a path
* `Path.parent?`, `Path.fileName?`, `Path.extension?`: parts of a path, as written
* `Path.toPosix`: a path with forward slashes only

## Main results

* `Path.Normal.push_root_up`: a parent step at the root of an absolute path changes nothing
* `Path.Normal.push_of_isTrivial`: a trivial segment changes nothing
-/

namespace SfcBundler.Path

/-- A segment that stands for the parent directory. -/
def up : List Char := ['.', '.']

/-- Whether a segment names no step: it is empty or a single dot. -/
def isTrivial (segment : List Char) : Bool := segment == [] || segment == ['.']

/-- A path in normal form: absolute or not, with the steps to take in order. -/
structure Normal where
  absolute : Bool
  segments : List (List Char)
deriving Repr, DecidableEq

namespace Normal

/-- Take one more step, on the reversed segments: a parent step takes back the step before it,
is dropped at the root, and otherwise stays. -/
def push (absolute : Bool) (taken : List (List Char)) (segment : List Char) : List (List Char) :=
  if isTrivial segment then taken
  else if segment = up then
    match taken with
    | [] => if absolute then [] else [up]
    | last :: before => if last = up then up :: taken else before
  else segment :: taken

theorem push_root_up : push true [] up = [] := by
  simp [push, isTrivial, up]

theorem push_of_isTrivial {segment : List Char} (h : isTrivial segment) (absolute : Bool)
    (taken : List (List Char)) : push absolute taken segment = taken := by
  simp [push, h]

/-- The normal form of segments in order. -/
def ofSegments (absolute : Bool) (segments : List (List Char)) : Normal :=
  ⟨absolute, (segments.foldl (push absolute) []).reverse⟩

/-- The text of a normal path; the empty relative path is a single dot. -/
def toText (path : Normal) : List Char :=
  if path.absolute then '/' :: Text.join ['/'] path.segments
  else if path.segments.isEmpty then ['.']
  else Text.join ['/'] path.segments

end Normal

/-- Whether a text begins at the root. -/
def isAbsoluteText (text : List Char) : Bool := text.head? == some '/'

/-- The normal form of a path's text. -/
def normalize (text : List Char) : Normal :=
  .ofSegments (isAbsoluteText text) (Text.fields '/' text)

/-- The base text with another text below it; an absolute text stands alone. -/
def joinText (base text : List Char) : List Char :=
  if isAbsoluteText text || base.isEmpty then text
  else if base.getLast? == some '/' then base ++ text
  else base ++ '/' :: text

/-- The normal form of `path` seen from `base`; none unless both are absolute. The way climbs
out of the segments of `base` that the two do not share. -/
def Normal.relativeTo? (path base : Normal) : Option Normal :=
  if path.absolute && base.absolute then
    let shared := ((path.segments.zip base.segments).takeWhile fun pair => pair.1 == pair.2).length
    some ⟨false, (base.segments.drop shared).map (fun _ => up) ++ path.segments.drop shared⟩
  else none

/-- Whether a path begins at the root. -/
def isAbsolute (path : String) : Bool := isAbsoluteText path.toList

/-- A path without superfluous segments. -/
def clean (path : String) : String := String.ofList (normalize path.toList).toText

/-- A path below a base directory, as written. -/
def join (base path : String) : String := String.ofList (joinText base.toList path.toList)

/-- A path seen from a base directory, cleaned. -/
def absolutize (path base : String) : String := clean (join base path)

/-- The way from `base` to `path`; none unless both are absolute. -/
def relativeTo? (path base : String) : Option String :=
  ((normalize path.toList).relativeTo? (normalize base.toList)).map fun way =>
    String.ofList way.toText

/-- A path with forward slashes in place of backslashes. -/
def toPosix (path : String) : String :=
  String.ofList (path.toList.map fun c => if c = '\\' then '/' else c)

/-- A path's text as the part in front of its segments (the root, or a leading dot segment) and
the segments in reverse, without trivial ones at the end. -/
def split (text : List Char) : List Char × List (List Char) :=
  let (front, body) : List Char × List Char := match text with
    | '/' :: rest => (['/'], rest)
    | ['.'] => (['.'], [])
    | '.' :: '/' :: rest => (['.'], '/' :: rest)
    | _ => ([], text)
  (front, (Text.fields '/' body).reverse.dropWhile isTrivial)

/-- The path without its last segment, as written; none for the root and the empty path. -/
def parent? (path : String) : Option String :=
  match split path.toList with
  | (front, []) => if front = ['.'] then some "" else none
  | (front, _ :: before) =>
    some (String.ofList (front ++ Text.join ['/'] (before.dropWhile isTrivial).reverse))

/-- The directory a path lies in, empty when there is none. -/
def parentDir (path : String) : String := (parent? path).getD ""

/-- The last segment of a path, unless it stands for the parent directory. -/
def fileName? (path : String) : Option String :=
  match (split path.toList).2 with
  | [] => none
  | last :: _ => if last = up then none else some (String.ofList last)

/-- The text behind the last dot of the file name; a dot in front of the name does not count. -/
def extension? (path : String) : Option String := do
  let name ← fileName? path
  let (after, before) ← Text.cut '.' name.toList.reverse
  if before.isEmpty then none else some (String.ofList after.reverse)

end SfcBundler.Path
