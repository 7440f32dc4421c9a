import SfcBundler.Engine.Instance

/-!
# Pools of engines

A pool starts a number of workers, each with an engine of its own. A worker whose engine cannot
be made is left out; a script that does not compile fails the whole pool.

## Main definitions

* `EnginePool`: the engines of the workers that are alive
* `EnginePool.gather`: the pool of the outcomes that workers report
* `EnginePool.start`: the pool of a script
* `EnginePool.execute`, `EnginePool.shutdown`: using and closing a pool
* `EnginePool.executor`: a pool in a cell as an executor
-/

namespace SfcBundler

/-- The engines of the workers that are alive. A pool without any is closed. -/
structure EnginePool (Engine : Type) where
  engines : List Engine

namespace EnginePool

section Workers

variable {Engine : Type}

/-- How many workers are alive. -/
def workers (pool : EnginePool Engine) : Nat := pool.engines.length

/-- The fatal failure of an outcome. -/
def fatal? {α : Type} : Except EngineError α → Option EngineError
  | .error error => if error.isFatal then some error else none
  | .ok _ => none

/-- The failure of an outcome. -/
def failure? {α : Type} : Except EngineError α → Option EngineError
  | .error error => some error
  | .ok _ => none

/-- The pool of the outcomes that workers report, in the order of the reports: the first fatal
failure decides, then the first failure if no engine was made. -/
def gather (outcomes : List (Except EngineError Engine)) :
    Except EngineError (EnginePool Engine) :=
  match outcomes.findSome? fatal? with
  | some error => .error error
  | none =>
    match outcomes.filterMap (·.toOption) with
    | [] => .error ((outcomes.findSome? failure?).getD .closed)
    | engines => .ok ⟨engines⟩

/-- The closed pool. -/
def shutdown (_ : EnginePool Engine) : EnginePool Engine := ⟨[]⟩

end Workers

section Start

variable {Context : Type} [ScriptRuntime Context]

/-- The outcomes of making a number of engines for one script. -/
def create (setup : ScriptSetup Context) (cache : CompilerCache Context) :
    Nat → CompilerCache Context × List (Except EngineError (ScriptEngine Context))
  | 0 => (cache, [])
  | count + 1 =>
    let (cache, outcome) := setup.create cache
    let (cache, outcomes) := create setup cache count
    (cache, outcome :: outcomes)

/-- The pool of a script with a number of workers, at least one. -/
def start (setup : ScriptSetup Context) (cache : CompilerCache Context) (workers : Nat) :
    CompilerCache Context × Except EngineError (EnginePool (ScriptEngine Context)) :=
  let (cache, outcomes) := create setup cache (max workers 1)
  (cache, gather outcomes)

end Start

section Service

variable {m : Type → Type} [Monad m] {Engine : Type} [JsEngine m Engine]

/-- Answer a request with the first engine. -/
def execute (pool : EnginePool Engine) (request : Request) :
    m (EnginePool Engine × Except EngineError Response) := do
  match pool.engines with
  | [] => return (pool, .error .closed)
  | engine :: rest =>
    let (engine, outcome) ← JsEngine.execute engine request
    return (⟨engine :: rest⟩, outcome)

/-- A pool in a cell as an executor. -/
def executor (cell : Cell m (EnginePool Engine)) : Executor m := fun request => do
  let (pool, outcome) ← (← cell.get).execute request
  cell.set pool
  return outcome

end Service

end EnginePool

end SfcBundler
