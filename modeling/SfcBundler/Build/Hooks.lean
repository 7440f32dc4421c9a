import SfcBundler.Build.Options
import SfcBundler.Component.Compiled
import SfcBundler.Component.Identity
import SfcBundler.Component.Part
import SfcBundler.Message
import SfcBundler.Plugin.Failure
import SfcBundler.Scan.Imports

/-!
# Hooks

A plugin takes part in a build through hooks. A resolve hook turns a specifier into a path in a
namespace, a load hook supplies the contents of a module, and either may pass. Data that a hook
attaches travels on: from the resolving of a module to its loading, and from there to the
resolving of its imports.

## Main definitions

* `PluginData`: data attached by a hook
* `ResolveArgs`, `ResolveResult`, `LoadArgs`, `LoadResult`: what the hooks see and give
* `OutputModule`, `BuildResult`: what a build gives
* `Hooks`, `Plugin`: the hooks of a plugin, and a plugin
-/

namespace SfcBundler

/-- A compiled component with the path of its file. -/
structure ComponentData where
  owner : String
  identity : Identity
  component : Component
deriving Repr

/-- Data attached by a hook: a component, one part of a component, or something of another
plugin. -/
inductive PluginData where
  | component (data : ComponentData)
  | part (data : ComponentData) (part : Part)
  | foreign (text : String)
deriving Repr

/-- What a resolve hook sees: the specifier as written, and the module that imports it (for an
entry point the path is empty). -/
structure ResolveArgs where
  path : String
  importer : String := ""
  space : String := fileSpace
  resolveDir : String := ""
  kind : ImportKind := .entry
  data : Option PluginData := none
deriving Repr

/-- What a resolve hook gives: a path in a namespace (an empty one stands for files), or an
external module; errors make the import fail. -/
structure ResolveResult where
  path : String
  space : String := ""
  external : Bool := false
  data : Option PluginData := none
  errors : List Message := []
  warnings : List Message := []
deriving Repr

/-- A resolved import that fails with one error. -/
def ResolveResult.failed (error : Message) : ResolveResult := { path := "", errors := [error] }

/-- What a load hook sees. -/
structure LoadArgs where
  path : String
  space : String := fileSpace
  data : Option PluginData := none
deriving Repr

/-- What a load hook gives; errors make the module fail. -/
structure LoadResult where
  contents : Option String := none
  loader : Option Loader := none
  resolveDir : Option String := none
  data : Option PluginData := none
  errors : List Message := []
  warnings : List Message := []
deriving Repr

/-- A loaded module that fails with one error. -/
def LoadResult.failed (error : Message) : LoadResult := { errors := [error] }

/-- A module of a finished build. Its imports are resolved from `resolveDir`. -/
structure OutputModule where
  path : String
  space : String
  loader : Loader
  contents : String
  resolveDir : String
  data : Option PluginData := none
deriving Repr

/-- What a build gives: its messages, and its modules in the order in which they were loaded. -/
structure BuildResult where
  errors : List Message := []
  warnings : List Message := []
  modules : List OutputModule := []
deriving Repr

namespace BuildResult

/-- Whether something failed. -/
def hasErrors (result : BuildResult) : Bool := !result.errors.isEmpty

/-- The module with a path in a namespace. -/
def module? (result : BuildResult) (space path : String) : Option OutputModule :=
  result.modules.find? fun module => module.space == space && module.path == path

/-- The errors about a file. -/
def errorsFor (result : BuildResult) (file : String) : List Message :=
  result.errors.filter fun message => message.file? == some file

end BuildResult

/-- Which modules a hook is asked about: those whose path passes the filter, in one namespace or
in any. -/
structure HookScope where
  filter : String → Bool
  space : Option String := none

/-- Whether a hook is asked about a path in a namespace. -/
def HookScope.covers (scope : HookScope) (path space : String) : Bool :=
  scope.filter path && (scope.space.isNone || scope.space == some space)

/-- A resolve hook. -/
structure ResolveHook (m : Type → Type) where
  scope : HookScope
  run : ResolveArgs → m (Except HookError (Option ResolveResult))

/-- A load hook. -/
structure LoadHook (m : Type → Type) where
  scope : HookScope
  run : LoadArgs → m (Except HookError (Option LoadResult))

/-- The hooks of a plugin, each kind in order. -/
structure Hooks (m : Type → Type) where
  onStart : List (BuildOptions → m (Except HookError Unit)) := []
  onResolve : List (ResolveHook m) := []
  onLoad : List (LoadHook m) := []
  onEnd : List (BuildResult → m (Except HookError Unit)) := []
  onDispose : List (m Unit) := []

/-- A plugin: setting it up may change the build options and gives its hooks. -/
structure Plugin (m : Type → Type) where
  name : String
  setup : BuildOptions → m (BuildOptions × Hooks m)

end SfcBundler
