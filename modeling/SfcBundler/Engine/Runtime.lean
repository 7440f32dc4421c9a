import SfcBundler.Engine.Failure

/-!
# Script runtimes

Scripts are run by a runtime that is no part of the library. Here is what the library asks of one:
contexts, each with a global scope of its own, scripts that are compiled once and run in any of
them, and functions of a scope that are called with JSON texts. Nothing is said of what a runtime
answers, so whatever is said of engines holds for all runtimes.

## Main definitions

* `EngineLimits`: limits on a context
* `ScriptRuntime`: contexts, and scripts that are compiled and run
* `Thrown`: what comes out of a context in place of a value
* `Dialogue`, `ScriptCalls`: functions of a context that are called
-/

namespace SfcBundler

/-- Limits on a context in bytes; zero is none. -/
structure EngineLimits where
  memory : Option Nat := none
  stack : Option Nat := none
deriving Repr, DecidableEq

/-- Contexts, and scripts that are compiled and run in them. A failure is told in words. -/
class ScriptRuntime (Context : Type) where
  /-- A script that was compiled. -/
  Bytecode : Type
  /-- Compile a script under a name, without running it. -/
  compile (name source : String) : Except String Bytecode
  /-- A new context. -/
  newContext (limits : EngineLimits) : Except String Context
  /-- Lend the functions for looking at files to a context. -/
  lendFiles (context : Context) : Except String Context
  /-- Give a context the function that calls others by their paths. -/
  defineDispatch (context : Context) : Except String Context
  /-- Run a compiled script as global code of a context. -/
  evaluate (script : Bytecode) (context : Context) : Except String Context

/-- What comes out of a context in place of a value, with its wording. -/
inductive Thrown where
  /-- An error object, `shown` as a text; it may have a message of its own. -/
  | exception (message : Option String) (shown report : String)
  /-- A failure of the runtime itself. -/
  | failure (report : String)
  /-- Any other value that was thrown. -/
  | value (report : String)
deriving Repr, DecidableEq

namespace Thrown

/-- The wording of what was thrown. -/
def report : Thrown → String
  | exception _ _ report | failure report | value report => report

/-- What a call that throws fails with. -/
def ofCall : Thrown → EngineError
  | exception message shown _ => .thrown (message.getD shown)
  | failure report => .interpreter report
  | value report => .thrown report

/-- What a value that throws on its way in or out fails with. -/
def onTheWay (thrown : Thrown) : EngineError := .notMarshalled thrown.report

end Thrown

/-- A computation that may change a context, or fail. -/
abbrev Dialogue (m : Type → Type) (Context ε : Type) := ExceptT ε (StateT Context m)

/-- Calls of functions in a context. -/
class ScriptCalls (m : Type → Type) (Context : Type) where
  /-- A value inside a context. -/
  Value : Type
  /-- The function under a global name. -/
  globalFunction (name : String) : Dialogue m Context String Value
  /-- The value of a JSON text. -/
  parse (text : String) : Dialogue m Context Thrown Value
  /-- Call a function with a path and arguments. -/
  call (function : Value) (path : String) (args : Value) : Dialogue m Context Thrown Value
  /-- What a promise is kept with; any other value is left as it is. -/
  settle (value : Value) : Dialogue m Context Thrown Value
  /-- The JSON text of a value, still inside the context; some values have none. -/
  stringify (value : Value) : Dialogue m Context Thrown (Option Value)
  /-- The text that a value is. -/
  textOf (value : Value) : Dialogue m Context String String

end SfcBundler
