import SfcBundler.Text.Cut
import SfcBundler.Text.Numeral

/-!
# The arguments of a command line

Flags stand alone; settings take a value, in the same argument or in the next one; everything
else is an entry. A value is not judged where it is read but when the next known argument is, so
of two faults the first one need not be the one that is reported.

## Main definitions

* `Arguments`: what a command line asks for
* `UsageStop`: why a command line is not carried out
* `Given`: what was read so far
* `ArgumentReader.take`: reading one more argument
* `Arguments.parse`: a whole command line

## Main results

* `ArgumentForm.of_plain`: an argument that starts with no hyphen is no option
* `ArgumentReader.take_onlyEntries`: behind the separator everything is an entry
-/

namespace SfcBundler

/-- How results are written. -/
inductive OutputFormat where
  | human
  | json
deriving Repr, DecidableEq

namespace OutputFormat

/-- The name of a format. -/
def name : OutputFormat → String
  | human => "human"
  | json => "json"

/-- The format with a name. -/
def ofName? (text : String) : Option OutputFormat := [human, json].find? (·.name = text)

theorem ofName?_name (format : OutputFormat) : ofName? format.name = some format := by
  cases format <;> decide

end OutputFormat

/-- What a command line asks for. -/
structure Arguments where
  entries : List String
  compiler : String
  serverRender : Bool := false
  development : Bool := false
  sourceMap : Bool := false
  tsconfig : Option String := none
  workers : Option Nat := none
  output : OutputFormat := .human
  printModules : Bool := false
  ignore : List String := []
  watch : Bool := false
  verbose : Bool := false
deriving Repr, DecidableEq

/-- Which events are logged. -/
def Arguments.logLevel (arguments : Arguments) : String :=
  if arguments.verbose then "debug" else "warn"

/-- Why a command line is not carried out. -/
inductive UsageStop where
  /-- It asks for help. -/
  | help
  /-- It asks for the version. -/
  | version
  /-- There are no entries, or there is no compiler. -/
  | missingArgument
  /-- An option is not known. -/
  | unknownArgument
  /-- A setting has no value or one out of its range. -/
  | invalidValue
  /-- A setting's value cannot be read. -/
  | unreadableValue
  /-- A flag has a value. -/
  | unexpectedValue
  /-- A flag or a setting that may be given once is given again. -/
  | repeatedArgument
deriving Repr, DecidableEq

/-- Options that stand alone. -/
inductive CommandFlag where
  | serverRender
  | development
  | sourceMap
  | printModules
  | watch
  | verbose
deriving Repr, DecidableEq

/-- Options that take a value. -/
inductive CommandSetting where
  | compiler
  | tsconfig
  | workers
  | output
  | ignore
deriving Repr, DecidableEq

/-- What an option's name means. -/
inductive CommandOption where
  | flag (flag : CommandFlag)
  | setting (setting : CommandSetting)
  | stop (reason : UsageStop)
deriving Repr, DecidableEq

namespace CommandOption

/-- The option with a long name. -/
def ofName? (name : List Char) : Option CommandOption :=
  match String.ofList name with
  | "compiler" => some (setting .compiler)
  | "ssr" => some (flag .serverRender)
  | "dev" => some (flag .development)
  | "sourcemap" => some (flag .sourceMap)
  | "tsconfig" => some (setting .tsconfig)
  | "workers" => some (setting .workers)
  | "output" => some (setting .output)
  | "print-modules" => some (flag .printModules)
  | "ignore" => some (setting .ignore)
  | "watch" => some (flag .watch)
  | "verbose" => some (flag .verbose)
  | "help" => some (stop .help)
  | "version" => some (stop .version)
  | _ => none

/-- The option with a letter. -/
def ofLetter? : Char → Option CommandOption
  | 'c' => some (setting .compiler)
  | 'p' => some (setting .tsconfig)
  | 'w' => some (flag .watch)
  | 'v' => some (flag .verbose)
  | 'h' => some (stop .help)
  | 'V' => some (stop .version)
  | _ => none

end CommandOption

/-- The form of an argument. -/
inductive ArgumentForm where
  /-- Behind two hyphens everything is an entry. -/
  | separator
  /-- A long name, with a value if there is an equals sign. -/
  | long (name : List Char) (value : Option (List Char))
  /-- Letters. -/
  | letters (letters : List Char)
  /-- No option. A single hyphen is none. -/
  | plain
deriving Repr, DecidableEq

namespace ArgumentForm

/-- The form of an argument's text. -/
def of : List Char → ArgumentForm
  | ['-', '-'] => separator
  | '-' :: '-' :: rest =>
    match Text.cut '=' rest with
    | some (name, value) => long name (some value)
    | none => long rest none
  | '-' :: c :: rest => letters (c :: rest)
  | _ => plain

theorem of_plain {text : List Char} (h : text.head? ≠ some '-') : of text = plain := by
  unfold of
  split <;> simp_all

end ArgumentForm

/-- What was read so far. -/
structure Given where
  entries : List String := []
  flags : List CommandFlag := []
  compiler : Option String := none
  tsconfig : Option String := none
  workers : Option Nat := none
  output : Option OutputFormat := none
  ignore : List String := []
deriving Repr, DecidableEq

namespace Given

/-- Numbers of workers are below this bound. -/
def workersBound : Nat := Nat.pow 2 64

/-- Take in a flag. -/
def setFlag (given : Given) (flag : CommandFlag) : Except UsageStop Given :=
  if given.flags.contains flag then .error .repeatedArgument
  else .ok { given with flags := flag :: given.flags }

/-- A path that was given, which is not empty. -/
def path (text : String) : Except UsageStop String :=
  if text = "" then .error .invalidValue else .ok text

/-- A value for a setting that may be given once. -/
def once {α : Type} (old : Option α) (value : Except UsageStop α) : Except UsageStop (Option α) :=
  if old.isSome then .error .repeatedArgument else value.map some

/-- Take in a setting's value. -/
def set (given : Given) (setting : CommandSetting) (text : String) : Except UsageStop Given := do
  match setting with
  | .compiler => return { given with compiler := ← once given.compiler (path text) }
  | .tsconfig => return { given with tsconfig := ← once given.tsconfig (path text) }
  | .workers =>
    let value := (Text.readUnsigned? workersBound text).elim (.error .unreadableValue) .ok
    return { given with workers := ← once given.workers value }
  | .output =>
    let value := (OutputFormat.ofName? text).elim (.error .invalidValue) .ok
    return { given with output := ← once given.output value }
  | .ignore => return { given with ignore := given.ignore ++ [text] }

/-- Take in entries. -/
def addEntries (given : Given) (entries : List String) : Except UsageStop Given := do
  return { given with entries := given.entries ++ (← entries.mapM path) }

/-- The arguments of all that was given. A compiler that is not given is the default one. -/
def finish (given : Given) (defaultCompiler : Option String) : Except UsageStop Arguments := do
  let compiler ← match given.compiler with
    | some compiler => pure (some compiler)
    | none => defaultCompiler.mapM path
  match compiler, given.entries with
  | some compiler, _ :: _ => return {
      compiler
      entries := given.entries
      serverRender := given.flags.contains .serverRender
      development := given.flags.contains .development
      sourceMap := given.flags.contains .sourceMap
      tsconfig := given.tsconfig
      workers := given.workers
      output := given.output.getD .human
      printModules := given.flags.contains .printModules
      ignore := given.ignore
      watch := given.flags.contains .watch
      verbose := given.flags.contains .verbose }
  | _, _ => throw .missingArgument

end Given

/-- What was read but not judged yet. -/
inductive PendingArgument where
  | nothing
  | setting (setting : CommandSetting) (value : Option String)
  | entries (texts : List String)
deriving Repr, DecidableEq

/-- How far a command line was read. -/
structure ArgumentReader where
  given : Given := {}
  pending : PendingArgument := .nothing
  onlyEntries : Bool := false
deriving Repr, DecidableEq

namespace ArgumentReader

/-- Judge what is pending. -/
def settle (reader : ArgumentReader) : Except UsageStop Given :=
  match reader.pending with
  | .nothing => .ok reader.given
  | .setting _ none => .error .invalidValue
  | .setting setting (some value) => reader.given.set setting value
  | .entries texts => reader.given.addEntries texts

/-- Judge what is pending and go on with the outcome. -/
def settled (reader : ArgumentReader) (next : Given → Except UsageStop Given) :
    Except UsageStop ArgumentReader := do
  return { reader with given := ← next (← reader.settle), pending := .nothing }

/-- Take in an entry. -/
def takeEntry (reader : ArgumentReader) (text : String) : Except UsageStop ArgumentReader := do
  match reader.pending with
  | .entries texts => return { reader with pending := .entries (texts ++ [text]) }
  | _ => return { reader with given := ← reader.settle, pending := .entries [text] }

/-- Take in an option with the value that was written with it, if any. -/
def takeOption (reader : ArgumentReader) (option : CommandOption) (value : Option (List Char)) :
    Except UsageStop ArgumentReader := do
  match option, value with
  | .setting setting, none =>
    return { reader with given := ← reader.settle, pending := .setting setting none }
  | .setting setting, some value => reader.settled (·.set setting (String.ofList value))
  | .flag flag, none => reader.settled (·.setFlag flag)
  | .stop reason, none => reader.settled fun _ => .error reason
  | _, some _ => throw .unexpectedValue

/-- The value that is written behind a setting's letter; an equals sign in front does not belong
to it. -/
def attached : List Char → Option (List Char)
  | [] => none
  | '=' :: value => some value
  | value => some value

/-- Take in letters. Behind a setting's letter stands its value. -/
def takeLetters (reader : ArgumentReader) : List Char → Except UsageStop ArgumentReader
  | [] => .ok reader
  | c :: rest =>
    match CommandOption.ofLetter? c with
    | none => .error .unknownArgument
    | some (.setting setting) => reader.takeOption (.setting setting) (attached rest)
    | some option => do (← reader.takeOption option none).takeLetters rest

/-- Take in one more argument. -/
def take (reader : ArgumentReader) (text : String) : Except UsageStop ArgumentReader :=
  if reader.onlyEntries then reader.takeEntry text
  else match ArgumentForm.of text.toList with
    | .separator => .ok { reader with onlyEntries := true }
    | .long name value =>
      match CommandOption.ofName? name with
      | some option => reader.takeOption option value
      | none => .error .unknownArgument
    | .letters letters => reader.takeLetters letters
    | .plain =>
      match reader.pending with
      | .setting setting none =>
        .ok { reader with pending := .setting setting (some text) }
      | _ => reader.takeEntry text

theorem take_onlyEntries {reader : ArgumentReader} (h : reader.onlyEntries) (text : String) :
    reader.take text = reader.takeEntry text := by
  simp [take, h]

end ArgumentReader

/-- What a command line asks for. -/
def Arguments.parse (texts : List String) (defaultCompiler : Option String) :
    Except UsageStop Arguments := do
  (← (← texts.foldlM ArgumentReader.take {}).settle).finish defaultCompiler

end SfcBundler
