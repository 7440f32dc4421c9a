import SfcBundler.Text.Cut

/-!
# Scripts of the guest

The guest is a runtime to try the program out with: it knows one compiler and has a small language
of its own in the place of JavaScript. What is proved of engines and of runs is proved for every
runtime, and the guest is only one of them.

A script is a sequence of statements, one a line. It may load the compiler, define numbers and
functions without arguments in the global scope, and throw. Statements of any other form have no
effect. A statement that starts an unnamed function, and a script with a NUL in it, are refused
before anything is run.

## Main definitions

* `Statement`, `Program`: a script that was accepted
* `Program.ofSource`: the program of a text
* `Program.compilerSource`: the script that loads the compiler and does nothing else
-/

namespace SfcBundler

/-- A statement of a script. -/
inductive Statement where
  /-- Load the compiler. -/
  | loadCompiler
  /-- Set a global name to a number. -/
  | setNumber (name : String)
  /-- Define a global function that gives a number. -/
  | define (name : String) (result : Nat)
  /-- Throw. -/
  | throw (text : String)
  /-- Anything else. -/
  | other
deriving Repr, DecidableEq

/-- A script that was accepted. -/
abbrev Program := List Statement

/-- Why a script is refused. -/
inductive ScriptRefusal where
  | nul
  | unnamedFunction
deriving Repr, DecidableEq

/-- The wording of a refusal. -/
def ScriptRefusal.message : ScriptRefusal → String
  | nul => "the script holds a NUL"
  | unnamedFunction => "a function statement needs a name"

namespace Statement

/-- The statement that loads the compiler. -/
def compilerDirective : String := "\x22use compiler\x22;"

/-- A name at the start of a text, and what follows it. -/
def takeName (text : List Char) : List Char × List Char :=
  let isName (c : Char) : Bool := c.isAlphanum || c == '_' || c == '$'
  (text.takeWhile isName, text.dropWhile isName)

/-- The number at the start of a text, behind blanks. -/
def number? (text : List Char) : Option Nat :=
  let digits := (text.dropWhile (· == ' ')).takeWhile Char.isDigit
  if digits.isEmpty then none
  else some (digits.foldl (fun value c => value * 10 + (c.toNat - '0'.toNat)) 0)

/-- The statement `name = number`. -/
def assignment (text : List Char) : Statement :=
  let (name, rest) := takeName text
  match " = ".toList.isPrefixOf? rest with
  | some value =>
    if name.isEmpty || (number? value).isNone then other else setNumber (String.ofList name)
  | none => other

/-- The function whose name starts a text. -/
def function (text : List Char) : Except ScriptRefusal Statement :=
  let (name, rest) := takeName text
  if name.isEmpty then .error .unnamedFunction
  else .ok (match "() \x7b return ".toList.isPrefixOf? rest with
    | some value =>
      match number? value with
      | some result => define (String.ofList name) result
      | none => other
    | none => other)

/-- The statement on a line. -/
def ofLine (line : List Char) : Except ScriptRefusal Statement :=
  let line := line.dropWhile (· == ' ')
  if line = compilerDirective.toList then .ok loadCompiler
  else match "throw ".toList.isPrefixOf? line with
  | some thrown => .ok (throw (String.ofList thrown))
  | none =>
    match "function ".toList.isPrefixOf? line with
    | some rest => function rest
    | none =>
      match "var ".toList.isPrefixOf? line with
      | some rest => .ok (assignment rest)
      | none =>
        match "this.".toList.isPrefixOf? line with
        | some rest => .ok (assignment rest)
        | none => .ok other

end Statement

namespace Program

/-- The script that loads the compiler. -/
def compilerSource : String := Statement.compilerDirective ++ "\n"

/-- The program of a text, if it is accepted. -/
def ofSource (source : String) : Except ScriptRefusal Program :=
  if source.toList.contains '\x00' then .error .nul
  else (Text.fields '\n' source.toList).mapM Statement.ofLine

end Program

end SfcBundler
