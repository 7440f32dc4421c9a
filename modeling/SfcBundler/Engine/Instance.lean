import SfcBundler.Engine.Cache
import SfcBundler.Engine.Protocol
import SfcBundler.Json.Printer
import SfcBundler.Json.Reader

/-!
# Engines

An engine serves one request after another and may change with each. The engines of the library
are contexts in which a script was run: a request goes in as JSON text, is served by the function
that its path leads to, and the result comes out as JSON text.

## Main definitions

* `JsEngine`: whatever serves requests
* `EngineInit`, `ScriptSetup`: how contexts are made ready for a script
* `ScriptEngine`, `ScriptSetup.create`: a context in which a script was run, and a new one
* `ScriptEngine.serve`, `ScriptEngine.execute`: the result of a request, and the answer to it
-/

namespace SfcBundler

/-- Whatever serves requests, one after the other. -/
class JsEngine (m : Type → Type) (Engine : Type) where
  /-- Answer a request. -/
  execute (engine : Engine) (request : Request) : m (Engine × Except EngineError Response)

/-- Something done to a new context before a script is run in it. -/
structure EngineInit (Context : Type) where
  run : Context → Except String Context

/-- An init that fails. -/
def EngineInit.fail {Context : Type} (message : String) : EngineInit Context :=
  ⟨fun _ => .error message⟩

/-- How contexts are made ready for a script. -/
structure ScriptSetup (Context : Type) where
  inits : List (EngineInit Context) := []
  limits : EngineLimits := {}

/-- A context in which a script was run. -/
structure ScriptEngine (Context : Type) where
  context : Context

namespace ScriptSetup

variable {Context : Type} [ScriptRuntime Context]

/-- A new context that is ready for a script. The inits come before the function that calls others,
so they cannot take its place. -/
def prepare (setup : ScriptSetup Context) : Except String Context := do
  let context ← ScriptRuntime.newContext setup.limits
  let context ← ScriptRuntime.lendFiles context
  let context ← setup.inits.foldlM (fun context init => init.run context) context
  ScriptRuntime.defineDispatch context

/-- A new engine. The script is asked for only when its context is ready. -/
def create (setup : ScriptSetup Context) (cache : CompilerCache Context) :
    CompilerCache Context × Except EngineError (ScriptEngine Context) :=
  match setup.prepare with
  | .error text => (cache, .error (.notStarted text))
  | .ok context =>
    let (cache, script) := cache.bytecode
    (cache, script.bind fun script =>
      ((ScriptRuntime.evaluate script context).map ScriptEngine.mk).mapError .notStarted)

end ScriptSetup

namespace ScriptEngine

variable {m : Type → Type} [Monad m] {Context : Type} [ScriptCalls m Context]

/-- The global name of the function that calls others by their paths. -/
def dispatchName : String := "__sfcDispatch"

/-- The result of a request. -/
def serve (request : Request) : Dialogue m Context EngineError Json := do
  let dispatch ← (ScriptCalls.globalFunction dispatchName).adapt .interpreter
  let args ← (ScriptCalls.parse (Json.array request.args).print).adapt Thrown.onTheWay
  let value ← (ScriptCalls.call dispatch request.service args).adapt Thrown.ofCall
  let value ← (ScriptCalls.settle value).adapt Thrown.ofCall
  match ← (ScriptCalls.stringify value).adapt Thrown.onTheWay with
  | none => return .null
  | some json =>
    let text ← (ScriptCalls.textOf json).adapt .interpreter
    ExceptT.mk (pure ((Json.parse text).mapError fun error => .notMarshalled error.message))

/-- Answer a request. -/
def execute (engine : ScriptEngine Context) (request : Request) :
    m (ScriptEngine Context × Except EngineError Response) := do
  let (result, context) ← (serve request).run.run engine.context
  return (⟨context⟩, result.map fun result => ⟨request.id, result⟩)

instance : JsEngine m (ScriptEngine Context) := ⟨execute⟩

end ScriptEngine

end SfcBundler
