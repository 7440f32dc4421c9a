import SfcBundler.Plugin.Alias
import SfcBundler.Plugin.Environment
import SfcBundler.Plugin.Processors

/-!
# What the hooks of a plugin share

## Main definitions

* `PluginState`: a plugin that was set up in a build
* `PluginState.resolvePath`: a specifier as a path
* `PluginState.reloadAliases`: the aliases read again
-/

namespace SfcBundler

/-- A plugin that was set up: the build options as it left them, the kind of build, and the
aliases read last. -/
structure PluginState (m : Type → Type) where
  plugin : ComponentPlugin m
  build : BuildOptions
  mode : BuildMode
  aliases : Cell m AliasSet

namespace PluginState

variable {m : Type → Type} [Monad m]

/-- The plugin set up with build options. Aliases that cannot be read are none. -/
def ofBuild [MonadFiles m] (plugin : ComponentPlugin m) (aliases : Cell m AliasSet)
    (build : BuildOptions) : m (PluginState m) := do
  match ← AliasSet.ofBuildOptions build with
  | .ok set => aliases.set set
  | .error _ => aliases.set {}
  return { plugin, build, mode := .ofDefine build.define, aliases }

/-- The path that a specifier stands for, seen from a directory. -/
def resolvePath (state : PluginState m) (specifier resolveDir : String) : m String := do
  return Path.absolutize ((← state.aliases.get).apply specifier) resolveDir

/-- Read the aliases again. On a failure those read before stay. -/
def reloadAliases [MonadFiles m] (state : PluginState m) (build : BuildOptions) :
    m (Except PluginError Unit) := do
  match ← AliasSet.ofBuildOptions build with
  | .ok set =>
    state.aliases.set set
    return .ok ()
  | .error error => return .error error

end PluginState

/-- The failure of a chain of processors as one of the plugin. -/
def ProcessorStage.fail {α : Type} (stage : ProcessorStage) :
    Except String α → Except PluginError α :=
  Except.mapError (.processor stage)

end SfcBundler
