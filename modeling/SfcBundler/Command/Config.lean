import SfcBundler.Build.Options
import SfcBundler.Command.Arguments
import SfcBundler.Command.Glob
import SfcBundler.Path

/-!
# The configuration of a run

A run takes its arguments as seen from a workspace directory. Entries that are directories are
searched for components and style sheets; names that start with an underscore are left to
those that import them, and ignored paths are left out.

## Main definitions

* `WorkspaceConfig`, `WorkspaceConfig.load`: arguments seen from a workspace
* `WorkspaceConfig.buildOptions`: the build options of a run
* `WorkspaceConfig.shouldProcess`: whether a path that was found is an entry
* `WorkspaceConfig.findEntries`: the entry points of a run
-/

namespace SfcBundler

/-- The size of a pool: its workers, and the requests that may wait. -/
structure PoolSize where
  workers : Nat
  queue : Nat
deriving Repr, DecidableEq

/-- The size of a pool for a number of workers; at least one works, and four requests may wait for
each. Sizes are machine words. -/
def PoolSize.ofWorkers (workers : Nat) : PoolSize :=
  let workers := max workers 1
  ⟨workers, workers * 4 % Given.workersBound⟩

/-- Why a run cannot be configured: a text is no pattern. -/
structure IgnoreError where
  pattern : String
  cause : GlobError
deriving Repr, DecidableEq

/-- The wording of a refused pattern. -/
def IgnoreError.message (error : IgnoreError) : String :=
  "invalid ignore pattern `" ++ error.pattern ++ "`"

/-- The configuration of a run. -/
structure WorkspaceConfig where
  workspace : String
  roots : List String
  compiler : String
  tsconfig : Option String
  pool : Option PoolSize
  ignore : List Glob
  development : Bool
  serverRender : Bool
  sourceMap : Bool

namespace WorkspaceConfig

/-- Extensions of the files that a search finds. -/
def extensions : List String := ["vue", "scss", "sass"]

/-- Patterns of paths that are always ignored. -/
def defaultIgnores : List String := ["**/node_modules/**", "**/dist/**", "**/.git/**"]

/-- The name of the configuration file that a workspace may have. -/
def tsconfigName : String := "tsconfig.json"

/-- The pattern of a text. -/
def ignorePattern (pattern : String) : Except IgnoreError Glob :=
  (Glob.parse pattern).mapError (⟨pattern, ·⟩)

/-- The configuration of arguments seen from a workspace. -/
def load {m : Type → Type} [Monad m] [MonadFiles m] (workspace : String) (arguments : Arguments) :
    m (Except IgnoreError WorkspaceConfig) := do
  let own := Path.join workspace tsconfigName
  let tsconfig ← match arguments.tsconfig with
    | some path => pure (some path)
    | none => do pure (if ← Files.isFile own then some own else none)
  return do
    return {
      workspace, tsconfig
      roots := arguments.entries.map (Path.join workspace)
      compiler := Path.join workspace arguments.compiler
      pool := arguments.workers.map PoolSize.ofWorkers
      ignore := ← (defaultIgnores ++ arguments.ignore).mapM ignorePattern
      development := arguments.development
      serverRender := arguments.serverRender
      sourceMap := arguments.sourceMap }

/-- The replacements of a development build. -/
def developmentDefine : Define := [
  ("import.meta.env.MODE", "'development'"), ("import.meta.env.PROD", "false"),
  ("import.meta.env.DEV", "true")]

/-- The replacements of a build for the server. -/
def serverDefine : Define := [("import.meta.env.SSR", "true")]

/-- The build options of a run. -/
def buildOptions (config : WorkspaceConfig) : BuildOptions where
  workingDir := some config.workspace
  define := (if config.development then developmentDefine else []) ++
    (if config.serverRender then serverDefine else [])
  sourceMap := if config.sourceMap then .inline else .none
  tsconfig := config.tsconfig

/-- Whether a path is that of a file to search for. -/
def isKnown (path : String) : Bool := (Path.extension? path).any extensions.contains

/-- Whether a path is that of a part of style sheets. -/
def isPartial (path : String) : Bool :=
  (Path.fileName? path).any fun name => name.toList.head? == some '_'

/-- Whether a path is ignored. -/
def isIgnored (config : WorkspaceConfig) (path : String) : Bool :=
  config.ignore.any (·.isMatch path)

/-- Whether a path that a search finds is an entry point. -/
def shouldProcess (config : WorkspaceConfig) (path : String) : Bool :=
  isKnown path && !isPartial path && !config.isIgnored path

section Search

variable {m : Type → Type} [Monad m] [MonadFiles m]

/-- The files below a directory, at most `levels` deep, in the order of names. Links are followed,
but not to one of the directories `above`. -/
def filesBelow (above : List String) (dir : String) : Nat → m (List String)
  | 0 => return []
  | levels + 1 => do
    match ← MonadFiles.canonical dir, ← MonadFiles.entries dir with
    | .ok place, .ok entries =>
      let found ← (DirectoryEntry.byName entries).mapM fun entry => do
        let path := Path.join dir entry.name
        match ← MonadFiles.kind? path with
        | none => return []
        | some .file => return [path]
        | some .directory =>
          let target ← if entry.isLink then MonadFiles.canonical path else pure (.ok "")
          match target with
          | .ok target =>
            if (place :: above).contains target then return []
            else filesBelow (place :: above) path levels
          | .error _ => return []
      return found.flatten
    | _, _ => return []

/-- How deep directories may be nested: a path has no more segments than bytes. -/
def maxLevels : Nat := 4096

/-- The entry points below a root. A file is one itself, whatever its name. -/
def entriesOf (config : WorkspaceConfig) (root : String) : m (List String) := do
  match ← MonadFiles.kind? root with
  | some .file => return [root]
  | some .directory => return (← filesBelow [] root maxLevels).filter config.shouldProcess
  | none => return []

/-- The entry points of a run. -/
def findEntries (config : WorkspaceConfig) : m (List String) := do
  return (← config.roots.mapM config.entriesOf).flatten

end Search

end WorkspaceConfig

end SfcBundler
