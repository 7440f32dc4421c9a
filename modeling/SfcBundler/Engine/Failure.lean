/-!
# Why an engine fails

## Main definitions

* `EngineError`: the causes
* `EngineError.message`: their wording
* `EngineError.isFatal`: causes that no other engine would escape
-/

namespace SfcBundler

/-- A cause for which an engine fails. -/
inductive EngineError where
  | notCompiled (script message : String)
  | notStarted (message : String)
  | thrown (message : String)
  | notMarshalled (message : String)
  | interpreter (message : String)
  | closed
deriving Repr, DecidableEq

namespace EngineError

/-- The wording of a failure. -/
def message : EngineError → String
  | notCompiled script message => "failed to compile `" ++ script ++ "` to bytecode: " ++ message
  | notStarted message => "failed to initialise engine: " ++ message
  | thrown message => message
  | notMarshalled message => "failed to marshal value: " ++ message
  | interpreter message => "javascript runtime error: " ++ message
  | closed => "executor is closed"

/-- Whether no engine at all can be built: the script itself does not compile. -/
def isFatal : EngineError → Bool
  | notCompiled .. => true
  | _ => false

end EngineError

end SfcBundler
