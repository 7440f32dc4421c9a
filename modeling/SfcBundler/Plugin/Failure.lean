import SfcBundler.Component.Compiled
import SfcBundler.Component.Part
import SfcBundler.Engine.Failure
import SfcBundler.Files.Failure
import SfcBundler.Json.Reader

/-!
# Why the component plugin fails

## Main definitions

* `PluginError`: the causes
* `PluginError.message`, `PluginError.code`, `PluginError.help?`: their wording
* `HookError`: what any hook may fail with
-/

namespace SfcBundler

/-- The chains of processors that may fail. -/
inductive ProcessorStage where
  | start
  | resolve
  | load
  | styleLoad
  | finish
deriving Repr, DecidableEq

/-- The name of a chain. -/
def ProcessorStage.name : ProcessorStage → String
  | start => "start"
  | resolve => "component resolve"
  | load => "component load"
  | styleLoad => "stylesheet load"
  | finish => "end"

/-- Options of the plugin that must be objects. -/
inductive ObjectOption where
  | template
  | style
deriving Repr, DecidableEq

/-- The name of an option. -/
def ObjectOption.name : ObjectOption → String
  | template => "template compiler options"
  | style => "style preprocessor options"

/-- What is wrong with a configuration. -/
inductive ConfigError where
  | tsconfig (error : Json.ReadError)
  | notAnObject (option : ObjectOption) (value : Json)
deriving Repr

/-- The wording of a configuration error. -/
def ConfigError.message : ConfigError → String
  | tsconfig error => "failed to parse tsconfig: " ++ error.message
  | notAnObject option value => option.name ++ " must be an object, got " ++ value.print

/-- What is wrong with an answer of the compiler. -/
inductive MalformedAnswer where
  | component (error : Component.DecodeError)
  | styleNotAnObject
  | styleWithoutCss
deriving Repr

/-- The wording of a malformed answer. -/
def MalformedAnswer.message : MalformedAnswer → String
  | component error => error.message
  | styleNotAnObject => "invalid response from sass compilation service"
  | styleWithoutCss => "failed to extract CSS from compilation result"

/-- A cause for which the component plugin fails. -/
inductive PluginError where
  | compile (cause : EngineError)
  | style (cause : EngineError)
  | malformed (answer : MalformedAnswer)
  | missingPart (owner : String) (part : Part)
  | missingComponent (path : String)
  | invalidPart (path : String) (cause : PartError)
  | processor (stage : ProcessorStage) (text : String)
  | unreadable (path : String) (cause : IoFailure)
  | config (cause : ConfigError)
  | missingExecutor
deriving Repr

namespace PluginError

/-- The wording of a failure. -/
def message : PluginError → String
  | compile cause => "Vue SFC compilation failed: " ++ cause.message
  | style cause => "sass compilation service failed: " ++ cause.message
  | malformed answer => answer.message
  | missingPart owner part => "component " ++ owner ++ " has no " ++ part.describe
  | missingComponent path => "no compiled component is available for " ++ path
  | invalidPart path cause => "invalid component part `" ++ path ++ "`: " ++ cause.message
  | processor stage text => stage.name ++ " processor failed: " ++ text
  | unreadable path cause => "failed to read " ++ path ++ ": " ++ cause.message
  | config cause => "invalid configuration: " ++ cause.message
  | missingExecutor => "a JavaScript executor is required"

/-- The code that a failure is documented under. -/
def code (error : PluginError) : String :=
  "vue_plugin::" ++ match error with
    | compile _ => "compile"
    | style _ => "service"
    | malformed _ => "malformed_response"
    | missingPart .. => "missing_part"
    | missingComponent _ => "missing_component"
    | invalidPart .. => "invalid_part"
    | processor .. => "processor"
    | unreadable .. => "io"
    | config _ => "config"
    | missingExecutor => "missing_executor"

/-- Advice on a failure. -/
def help? : PluginError → Option String
  | missingComponent _ =>
    some "component parts can only be imported from the module generated for their component"
  | missingExecutor =>
    some "pass one to `VuePluginBuilder::executor` before calling `build`"
  | _ => none

end PluginError

/-- What a hook fails with: a failure of the component plugin, or a text of another's. -/
inductive HookError where
  | plugin (error : PluginError)
  | other (text : String)
deriving Repr

/-- The wording of a hook's failure. -/
def HookError.message : HookError → String
  | plugin error => error.message
  | other text => text

end SfcBundler
