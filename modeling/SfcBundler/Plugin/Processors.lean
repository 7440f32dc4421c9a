import SfcBundler.Build.Hooks
import SfcBundler.Engine.Protocol
import SfcBundler.Plugin.Chain

/-!
# The component plugin and its processors

Whoever uses the plugin may hand it processors, which take part in what the plugin does: a chain
of them for each occasion. A failing processor says why in a text.

## Main definitions

* `Processors`: the chains
* `PluginConfig`: what a user asks for
* `ComponentPlugin`, `PluginConfig.check`: a plugin that is fit for use
-/

namespace SfcBundler

/-- The processors of a plugin, each chain in order. All but the start processors see the build
options as the plugin left them at its setup. -/
structure Processors (m : Type → Type) where
  /-- Before a build. -/
  onStart : List (BuildOptions → m (Except String Unit)) := []
  /-- Where a component specifier leads; the first answer counts. -/
  onResolve : List (ResolveArgs → BuildOptions → m (Except String (Option ResolveResult))) := []
  /-- Changes of a component's source before it is compiled. -/
  onLoad : List (String → LoadArgs → BuildOptions → m (Except String String)) := []
  /-- The source of a style sheet in place of its file; the first text that is not empty counts. -/
  onStyleLoad : List (LoadArgs → BuildOptions → m (Except String (Option String))) := []
  /-- After a build. -/
  onEnd : List (BuildResult → BuildOptions → m (Except String Unit)) := []
  /-- When the host goes away. -/
  onDispose : List (BuildOptions → m Unit) := []

/-- What a user of the plugin asks for. -/
structure PluginConfig (m : Type → Type) where
  name : Option String := none
  executor : Option (Executor m) := none
  templateOptions : Option Json := none
  styleOptions : Option Json := none
  processors : Processors m := {}

/-- The plugin: its name, the executor of the compiler, and the options handed on to the
compilation of templates and the preprocessing of styles. -/
structure ComponentPlugin (m : Type → Type) where
  name : String
  executor : Executor m
  templateOptions : Json
  styleOptions : Json
  processors : Processors m

/-- An option that must be an object; without it the object is empty. -/
def ObjectOption.check (option : ObjectOption) : Option Json → Except PluginError Json
  | none => .ok (.object [])
  | some value =>
    if value.isObject then .ok value else .error (.config (.notAnObject option value))

/-- The name of a plugin that was given none. -/
def PluginConfig.defaultName : String := "vue-plugin"

/-- The plugin that was asked for, if it has all it needs. -/
def PluginConfig.check {m : Type → Type} (config : PluginConfig m) :
    Except PluginError (ComponentPlugin m) := do
  match config.executor with
  | none => throw .missingExecutor
  | some executor =>
    let templateOptions ← ObjectOption.template.check config.templateOptions
    let styleOptions ← ObjectOption.style.check config.styleOptions
    return {
      name := config.name.getD defaultName
      executor, templateOptions, styleOptions
      processors := config.processors }

end SfcBundler
