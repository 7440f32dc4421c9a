import SfcBundler.Engine.Pool
import SfcBundler.Guest.Compiler

/-!
# The guest as a runtime

A context of the guest is a global scope and a count. The guest lends the functions for looking at
files, runs its scripts, and calls the functions that its scopes hold.

## Main definitions

* `Guest`: a context of the guest
* `Guest.call`: a call of a service
* `Engine`, `EngineSetup`, `ScriptCache`, `Pool`: engines of the guest, what makes them and what
  holds them
-/

namespace SfcBundler

/-- A count that arguments are added to. A text added to it makes it a text. -/
inductive Count where
  | number (value : Binary64)
  | notANumber
  | text (value : List Char)
deriving Repr, DecidableEq

namespace Count

/-- The count as a text. -/
def toText : Count → List Char
  | number value => Marshal.numberText (.float value)
  | notANumber => "NaN".toList
  | text value => value

/-- The count as a value. -/
def toJson : Count → Json
  | number value => .number (.float value)
  | notANumber => .null
  | text value => .string (String.ofList value)

/-- The count with a number added. -/
def addNumber (count : Count) (value : JsonNumber) : Count :=
  match count with
  | number old =>
    match Binary64.add? old (Marshal.toBinary64 value) with
    | some sum => number sum
    | none => notANumber
  | notANumber => notANumber
  | text old => text (old ++ Marshal.numberText value)

/-- The count with an argument added. -/
def add (count : Count) (argument : Option Json) : Count :=
  match count, argument with
  | count, some (.number value) => count.addNumber value
  | text old, some value => text (old ++ Marshal.textOf value)
  | text old, none => text (old ++ "undefined".toList)
  | count, some .null => count
  | count, some (.bool value) => count.addNumber (.integer (if value then 1 else 0))
  | _, none => notANumber
  | count, some value => text (count.toText ++ Marshal.textOf value)

end Count

/-- A context of the guest. -/
structure Guest where
  scope : Scope := []
  count : Count := .number (Binary64.zero false)

namespace Guest

section Limits

/-- The memory that a context needs before anything is run in it. -/
def leastMemory : Nat := 65536

/-- The stack that a context needs before anything is run in it. -/
def leastStack : Nat := 4096

/-- Whether a limit leaves room for a need. -/
def allows (limit : Option Nat) (need : Nat) : Bool :=
  match limit with
  | some bytes => bytes = 0 || need ≤ bytes
  | none => true

/-- Whether a context can be made under limits. -/
def hasRoom (limits : EngineLimits) : Bool :=
  allows limits.memory leastMemory && allows limits.stack leastStack

end Limits

instance : ScriptRuntime Guest where
  Bytecode := Program
  compile _ source := (Program.ofSource source).mapError ScriptRefusal.message
  newContext limits := if hasRoom limits then .ok {} else .error "out of memory"
  lendFiles guest := .ok { guest with scope := guest.scope.lendFiles }
  defineDispatch guest := .ok { guest with scope := guest.scope.defineDispatch }
  evaluate program guest := (guest.scope.run program).map fun scope => { guest with scope }

section Calls

variable {m : Type → Type} [Monad m] [MonadFiles m]

/-- How many calls may be nested in one. -/
def maxDepth : Nat := 128

/-- A look at a file, as a function with one argument. -/
def look (function : String) (read : String → m (Except IoFailure String)) (args : List Json) :
    m (Except Thrown GuestValue) := do
  match args with
  | [] =>
    return .error (.ofMessage "Error calling function with 0 argument(s) while 1 where expected")
  | argument :: _ =>
    let path := String.ofList (Marshal.textOf argument)
    return match ← read path with
      | .ok text => .ok (.plain (.string text))
      | .error cause => .error (.ofMessage (BridgeFailure.message ⟨function, path, cause⟩))

/-- What a service gives that leaves the guest as it is and calls no other. -/
def answer (service : Service) (args : List Json) : m (Except Thrown GuestValue) :=
  match service with
  | .echo => return .ok (.plain (.array args))
  | .constant value => return .ok (.plain value)
  | .throwError =>
    return .error (.ofMessage (((args.head?.map Marshal.textOf).map String.ofList).getD ""))
  | .throwValue =>
    return .error (.value ("Exception generated by quickjs: " ++
      String.ofList (((args.head?.map Marshal.textOf)).getD "undefined".toList)))
  | .unwritable => return .ok .unwritable
  | .never => return .ok .unkept
  | .compileComponent => return BundledCompiler.compile args
  | .renderStyle => BundledCompiler.render args
  | .fileExists => do
    match args with
    | [] => return .ok (.plain (.bool false))
    | argument :: _ =>
      let found ← Bridge.fileExists (String.ofList (Marshal.textOf argument))
      return .ok (.plain (.bool found))
  | .readFile => look "readFile" Bridge.readText args
  | .realPath => look "realpath" Bridge.realPath args
  | .first | .bump | .dispatch => return .ok (.plain (args.headD .null))

/-- Call a service; at most `depth` calls may be nested. -/
def call (guest : Guest) (depth : Nat) (service : Service) (args : List Json) :
    m (Except Thrown GuestValue × Guest) :=
  match service, depth with
  | .bump, _ =>
    let count := guest.count.add args.head?
    return (.ok (.plain count.toJson), { guest with count })
  | .dispatch, 0 => return (.error (.failure "too many nested calls"), guest)
  | .dispatch, depth + 1 =>
    match args with
    | .string path :: rest =>
      match guest.scope.resolve path with
      | .error error => return (.error (.ofMessage error.message), guest)
      | .ok service => guest.call depth service (((rest.headD .null).items?).getD [])
    | _ => return (.error (.ofMessage "not a function"), guest)
  | service, _ => do return (← answer service args, guest)

/-- The function under a global name. -/
def globalFunction (guest : Guest) (name : String) : Except String GuestValue :=
  match guest.scope.lookup name with
  | some (.service service) => .ok (.function service)
  | _ => .error (name ++ " is not a function")

/-- Call a function with a path and arguments. -/
def callFunction (guest : Guest) (path : String) :
    GuestValue → GuestValue → m (Except Thrown GuestValue × Guest)
  | .function service, .plain args => guest.call (maxDepth + 1) service [.string path, args]
  | _, _ => return (.error (.ofMessage "not a function"), guest)

/-- The value of a JSON text. -/
def parse (text : String) : Except Thrown GuestValue :=
  match Marshal.parse text.toList with
  | .ok value => .ok (.plain value)
  | .error error => .error (.ofMessage error.message)

/-- What a promise is kept with. -/
def settle : GuestValue → Except Thrown GuestValue
  | .unkept => .error (.failure "the promise is never kept")
  | value => .ok value

/-- The JSON text of a value. -/
def stringify : GuestValue → Except Thrown (Option GuestValue)
  | .plain value => .ok (some (.plain (.string (Marshal.jsonText value))))
  | .function _ | .unkept => .ok none
  | .unwritable => .error (.ofMessage "the result cannot become JSON")

/-- The text that a value is. -/
def textOf : GuestValue → Except String String
  | .plain (.string text) => .ok text
  | _ => .error "not a text"

instance : ScriptCalls m Guest where
  Value := GuestValue
  globalFunction name := fun guest => return (guest.globalFunction name, guest)
  parse text := fun guest => return (parse text, guest)
  call function path args := fun guest => guest.callFunction path function args
  settle value := fun guest => return (settle value, guest)
  stringify value := fun guest => return (stringify value, guest)
  textOf value := fun guest => return (textOf value, guest)

end Calls

end Guest

/-- An engine of the guest. -/
abbrev Engine := ScriptEngine Guest

/-- How engines of the guest are made. -/
abbrev EngineSetup := ScriptSetup Guest

namespace EngineSetup

/-- A new engine of the guest. -/
def create (setup : EngineSetup) (cache : CompilerCache Guest) :
    CompilerCache Guest × Except EngineError Engine :=
  ScriptSetup.create setup cache

end EngineSetup

/-- An init that sets a global name to a text. -/
def EngineInit.setText (name value : String) : EngineInit Guest :=
  ⟨fun guest => .ok { guest with scope := guest.scope.set name (.text value) }⟩

/-- A script for the guest with the outcome of its compilation. -/
abbrev ScriptCache := CompilerCache Guest

namespace ScriptCache

/-- The script in a file. -/
def ofFile {m : Type → Type} [Monad m] [MonadFiles m] (path : String) :
    m (Except IoFailure ScriptCache) := do
  return (← Script.ofFile path).map fun script => { script with }

/-- The compiled script. -/
def program (cache : ScriptCache) : ScriptCache × Except EngineError Program := cache.bytecode

end ScriptCache

/-- A pool of engines of the guest. -/
abbrev Pool := EnginePool Engine

namespace Pool

/-- The pool of the outcomes that workers report. -/
def gather (outcomes : List (Except EngineError Engine)) : Except EngineError Pool :=
  EnginePool.gather outcomes

/-- The pool of a script. -/
def start (setup : EngineSetup) (cache : ScriptCache) (workers : Nat) :
    ScriptCache × Except EngineError Pool :=
  EnginePool.start setup cache workers

/-- A pool in a cell as an executor. -/
def executor {m : Type → Type} [Monad m] [MonadFiles m] (cell : Cell m Pool) : Executor m :=
  EnginePool.executor cell

end Pool

end SfcBundler
