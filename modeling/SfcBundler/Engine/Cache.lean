import SfcBundler.Engine.Failure
import SfcBundler.Engine.Runtime
import SfcBundler.Files.Access
import SfcBundler.Path

/-!
# Scripts compiled once

All engines of a pool run the same script. It is compiled when the first of them asks for it, and
the outcome, a refusal included, is kept.

## Main definitions

* `Script`, `Script.ofFile`: a named script, and the script in a file
* `CompilerCache`: a script and the outcome of its compilation
* `CompilerCache.bytecode`: the compiled script

## Main results

* `CompilerCache.compilations_bytecode`: asking compiles at most once
-/

namespace SfcBundler

/-- A script under a name. -/
structure Script where
  name : String
  source : String
deriving Repr, DecidableEq

/-- The script in a file, named as the file is. -/
def Script.ofFile {m : Type → Type} [Monad m] [MonadFiles m] (path : String) :
    m (Except IoFailure Script) := do
  return (← Files.readText path).map fun source => ⟨(Path.fileName? path).getD path, source⟩

/-- A script, the outcome of its compilation once there is one, and how often it was compiled. -/
structure CompilerCache (Context : Type) [ScriptRuntime Context] extends Script where
  outcome : Option (Except EngineError (ScriptRuntime.Bytecode Context)) := none
  compilations : Nat := 0

namespace CompilerCache

variable {Context : Type} [ScriptRuntime Context]

/-- Whether the script was compiled or refused. -/
def isCompiled (cache : CompilerCache Context) : Bool := cache.outcome.isSome

/-- Compile the script. -/
def compile (cache : CompilerCache Context) :
    Except EngineError (ScriptRuntime.Bytecode Context) :=
  (ScriptRuntime.compile cache.name cache.source).mapError fun refusal =>
    .notCompiled cache.name refusal

/-- The compiled script, and the cache that knows it. -/
def bytecode (cache : CompilerCache Context) :
    CompilerCache Context × Except EngineError (ScriptRuntime.Bytecode Context) :=
  match cache.outcome with
  | some outcome => (cache, outcome)
  | none =>
    let outcome := cache.compile
    ({ cache with outcome := some outcome, compilations := cache.compilations + 1 }, outcome)

@[simp]
theorem isCompiled_bytecode (cache : CompilerCache Context) : cache.bytecode.1.isCompiled := by
  unfold bytecode isCompiled
  split
  · rename_i h
    simp [h]
  · rfl

@[simp]
theorem bytecode_bytecode (cache : CompilerCache Context) :
    cache.bytecode.1.bytecode = cache.bytecode := by
  unfold bytecode
  cases h : cache.outcome <;> simp [h]

theorem compilations_bytecode (cache : CompilerCache Context) :
    cache.bytecode.1.compilations =
      if cache.isCompiled then cache.compilations else cache.compilations + 1 := by
  unfold bytecode isCompiled
  cases h : cache.outcome <;> simp

end CompilerCache

end SfcBundler
