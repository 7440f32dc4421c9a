import SfcBundler.Command.Execution
import SfcBundler.Guest.Runtime

/-!
# Runs that are served by a pool

A run is served by a pool of engines for the compiler's script, of which the first that is alive
answers. The program's own pools are those of the guest.
-/

namespace SfcBundler

instance {m : Type → Type} [Monad m] {Context : Type} [ScriptRuntime Context]
    [ScriptCalls m Context] : CompilerService m (EnginePool (ScriptEngine Context)) where
  start script size :=
    return (EnginePool.start {} { script with } ((size.map (·.workers)).getD 1)).2
  execute := EnginePool.execute

end SfcBundler
