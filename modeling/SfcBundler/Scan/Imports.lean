import SfcBundler.Loader
import SfcBundler.Scan.Comments
import SfcBundler.Text.Character

/-!
# Finding imports

Imports are found by their look, without parsing: static `import` and `export … from` statements
in scripts, `@import` rules in style sheets. Comments are blanked out first; literals are not, so
a literal that looks like an import is taken for one.

## Main definitions

* `ImportKind`: how a module is imported
* `Scan.statementAt?`, `Scan.ruleAt?`: an import at a place of a text
* `Scan.specifiers`: the specifiers of all imports, from left to right, none overlapping another
* `Scan.imports`: the imports of a module, each specifier once
-/

namespace SfcBundler

/-- How a module is imported. -/
inductive ImportKind where
  | entry
  | statement
  | rule
deriving Repr, DecidableEq

/-- The name of an import kind. -/
def ImportKind.name : ImportKind → String
  | entry => "entry"
  | statement => "import"
  | rule => "rule"

namespace Scan

/-- Whether a character delimits a specifier. -/
def isQuote (c : Char) : Bool := c == '\x22' || c == '\x27'

/-- A specifier between quotes at the start of a text, and what follows: at least one character,
no line end, and no quote of either kind inside. -/
def quoted? (text : List Char) : Option (List Char × List Char) :=
  match text with
  | [] => none
  | c :: rest =>
    if isQuote c then
      let inside (d : Char) : Bool := !isQuote d && d != '\n'
      match rest.takeWhile inside, rest.dropWhile inside with
      | [], _ | _, [] => none
      | specifier, close :: after => if isQuote close then some (specifier, after) else none
    else none

/-- Whether a character may stand between the keyword and the specifier of a statement. -/
def isClause (c : Char) : Bool :=
  Text.isWord c || Text.isBlank c || c == '*' || c == '\x7b' || c == '\x7d' || c == ',' || c == '$'

/-- Whether a text between keyword and specifier is a clause: blank, or `from` and blanks at its
end. -/
def isFromClause (clause : List Char) : Bool :=
  let trimmed := Text.trimEnd clause
  trimmed.isEmpty || ['f', 'r', 'o', 'm'].isSuffixOf trimmed

/-- The text behind `import` or `export` at its start. -/
def afterKeyword? (text : List Char) : Option (List Char) :=
  match ['i', 'm', 'p', 'o', 'r', 't'].isPrefixOf? text with
  | some rest => some rest
  | none => ['e', 'x', 'p', 'o', 'r', 't'].isPrefixOf? text

/-- The specifier of a statement whose keyword starts a text, and what follows. -/
def keywordAt? (text : List Char) : Option (List Char × List Char) := do
  let rest ← afterKeyword? text
  if isFromClause (rest.takeWhile isClause) then quoted? (rest.dropWhile isClause) else none

/-- Whether a statement may start behind a character. -/
def opensStatement (c : Char) : Bool := c == ';' || c == '\x7d' || Text.isBlank c

/-- The specifier of a statement at the start of a text, or behind its first character if that
is an opener, and what follows. -/
def statementAt? (lineStart : Bool) (text : List Char) : Option (List Char × List Char) :=
  match if lineStart then keywordAt? text else none with
  | some found => some found
  | none =>
    match text with
    | c :: rest => if opensStatement c then keywordAt? rest else none
    | [] => none

/-- The specifier of an `@import` rule at the start of a text, and what follows. -/
def ruleAt? (text : List Char) : Option (List Char × List Char) := do
  let rest ← ['@', 'i', 'm', 'p', 'o', 'r', 't'].isPrefixOf? text
  if (rest.takeWhile Text.isBlank).isEmpty then none
  else
    let rest := rest.dropWhile Text.isBlank
    match ['u', 'r', 'l', '('].isPrefixOf? rest with
    | some inner => quoted? (inner.dropWhile Text.isBlank)
    | none => quoted? rest

/-- The specifiers that `at?` finds from left to right, each search starting behind the import
before. `at?` is told whether it stands at the start of a line. -/
def specifiers (at? : Bool → List Char → Option (List Char × List Char)) (lineStart : Bool)
    (text : List Char) : List (List Char) :=
  match text with
  | [] => []
  | c :: rest =>
    match at? lineStart (c :: rest) with
    | some (specifier, after) =>
      if after.length < (c :: rest).length then specifier :: specifiers at? false after
      else [specifier]
    | none => specifiers at? (c == '\n') rest
termination_by text.length
decreasing_by
  · assumption
  · simp

/-- The imports of a module in the order of their first occurrence, each specifier once. -/
def imports (contents : String) (loader : Loader) : List (String × ImportKind) :=
  if loader.isScript then
    (specifiers statementAt? true (blankComments true contents.toList)).eraseDups.map
      fun specifier => (String.ofList specifier, .statement)
  else if loader = .css then
    (specifiers (fun _ => ruleAt?) true (blankComments false contents.toList)).eraseDups.map
      fun specifier => (String.ofList specifier, .rule)
  else []

end Scan

end SfcBundler
