import SfcBundler.Files.Access
import SfcBundler.Text.Quoted

/-!
# The files that a script may look at

A script has no access to files of its own. It is lent three functions that only read.

## Main definitions

* `Bridge.fileExists`, `Bridge.readText`, `Bridge.realPath`
* `BridgeFailure`: what the last two throw into a script
-/

namespace SfcBundler

/-- A failed look at a file: the function, its argument and the cause. -/
structure BridgeFailure where
  function : String
  path : String
  cause : IoFailure
deriving Repr, DecidableEq

/-- The wording of a failed look. -/
def BridgeFailure.message (failure : BridgeFailure) : String :=
  failure.function ++ " " ++ Text.quoted failure.path ++ ": " ++ failure.cause.message

namespace Bridge

variable {m : Type → Type} [Monad m] [MonadFiles m]

/-- Whether a path leads anywhere. -/
def fileExists (path : String) : m Bool :=
  if path = "" then return false else Files.exists? path

/-- The text of a file. -/
def readText (path : String) : m (Except IoFailure String) :=
  if path = "" then return .error .emptyPath else Files.readText path

/-- The absolute path behind all links. -/
def realPath (path : String) : m (Except IoFailure String) :=
  if path = "" then return .error .emptyPath else MonadFiles.canonical path

end Bridge

end SfcBundler
