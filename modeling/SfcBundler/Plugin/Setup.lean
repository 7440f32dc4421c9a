import SfcBundler.Plugin.Components
import SfcBundler.Plugin.StyleSheets

/-!
# Setting the component plugin up

## Main definitions

* `PluginState.hooks`: the hooks of a plugin
* `ComponentPlugin.setup`, `ComponentPlugin.toPlugin`: the plugin in a build
-/

namespace SfcBundler

namespace PluginState

variable {m : Type → Type} [Monad m] [MonadFiles m]

/-- Before a build: run the start processors, then read the aliases again. -/
def start (state : PluginState m) (build : BuildOptions) : m (Except PluginError Unit) := do
  let answer ← Chain.tryForEach (fun processor => processor build)
    state.plugin.processors.onStart
  match ProcessorStage.start.fail answer with
  | .error error => return .error error
  | .ok () => state.reloadAliases build

/-- After a build: run the end processors. -/
def finish (state : PluginState m) (result : BuildResult) : m (Except PluginError Unit) := do
  let answer ← Chain.tryForEach (fun processor => processor result state.build)
    state.plugin.processors.onEnd
  return ProcessorStage.finish.fail answer

/-- When the host goes away: run the dispose processors. -/
def dispose (state : PluginState m) : m Unit :=
  Chain.forEach (fun processor => processor state.build) state.plugin.processors.onDispose

/-- The answer of a hook that always claims what it is asked about. -/
def claim {α : Type} (answer : Except PluginError α) : Except HookError (Option α) :=
  (answer.map some).mapError .plugin

/-- A load hook for the modules of one namespace. -/
def loadHook (space : String) (filter : List Char → Bool)
    (load : LoadArgs → m (Except PluginError LoadResult)) : LoadHook m where
  scope := { filter := fun path => filter path.toList, space := some space }
  run args := claim <$> load args

/-- The hooks of a plugin. -/
def hooks (state : PluginState m) : Hooks m where
  onStart := [fun build => Except.mapError .plugin <$> state.start build]
  onResolve := [
    { scope := { filter := fun path => ComponentFile.isAddress path.toList }
      run := fun args => claim <$> ComponentFile.resolve state args },
    { scope := { filter := fun path => StyleSheet.isAddress path.toList }
      run := fun args => (claim ∘ .ok) <$> StyleSheet.resolve state args }]
  onLoad := [
    loadHook fileSpace ComponentFile.isFile (ComponentFile.load state),
    loadHook PartKind.script.space (fun _ => true) fun args =>
      return ComponentFile.loadScript state.build.sourceMap args,
    loadHook PartKind.template.space (fun _ => true) fun args =>
      return ComponentFile.loadTemplate args,
    loadHook PartKind.style.space (fun _ => true) fun args =>
      return ComponentFile.loadStyle args,
    loadHook StyleSheet.space StyleSheet.isAddress (StyleSheet.load state)]
  onEnd := [fun result => Except.mapError .plugin <$> state.finish result]
  onDispose := [state.dispose]

end PluginState

namespace ComponentPlugin

variable {m : Type → Type} [Monad m] [MonadFiles m]

/-- Set a plugin up: complete the build options and give the hooks. The aliases in force are kept
in a cell. -/
def setup (plugin : ComponentPlugin m) (aliases : Cell m AliasSet) (options : BuildOptions) :
    m (BuildOptions × Hooks m) := do
  let options := options.normalize
  let state ← PluginState.ofBuild plugin aliases options
  return (options, state.hooks)

/-- The plugin as one of a host. -/
def toPlugin (plugin : ComponentPlugin m) (aliases : Cell m AliasSet) : Plugin m where
  name := plugin.name
  setup := plugin.setup aliases

end ComponentPlugin

end SfcBundler
