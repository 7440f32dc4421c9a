import SfcBundler.Files.Access
import SfcBundler.Path

/-!
# Copying files after a build

## Main definitions

* `CopyFiles.run`: copy files to their targets
-/

namespace SfcBundler.CopyFiles

variable {m : Type → Type} [Monad m] [MonadFiles m]

/-- Create the directory that a file is to lie in. -/
def createParent (target : String) : m (Except String Unit) := do
  match (Path.parent? target).filter (· ≠ "") with
  | none => return .ok ()
  | some parent =>
    return (← MonadFiles.createDirectories parent).mapError fun failure =>
      "failed to create " ++ parent ++ ": " ++ failure.message

/-- Copy one file, creating the directories above its target. -/
def copyOne (source target : String) : m (Except String Unit) := do
  match ← createParent target with
  | .error text => return .error text
  | .ok () =>
    return (← MonadFiles.copyFile source target).mapError fun failure =>
      "failed to copy " ++ source ++ " to " ++ target ++ ": " ++ failure.message

/-- Copy files to their targets in order. The first failure ends the copying. -/
def run : List (String × String) → m (Except String Unit)
  | [] => return .ok ()
  | (source, target) :: rest => do
    match ← copyOne source target with
    | .error text => return .error text
    | .ok () => run rest

end SfcBundler.CopyFiles
