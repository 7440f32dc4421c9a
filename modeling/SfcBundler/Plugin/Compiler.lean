import SfcBundler.Component.Identity
import SfcBundler.Engine.Protocol
import SfcBundler.Plugin.Environment
import SfcBundler.Plugin.Failure

/-!
# Calling the compiler

## Main definitions

* `CompileOptions`, `Compiler.compile`: a component compiled
* `OutputStyle`, `RenderedStyle`, `Compiler.render`: a style sheet rendered
-/

namespace SfcBundler

/-- How a component is compiled. -/
structure CompileOptions where
  sourceMap : Bool
  mode : BuildMode
  preprocessOptions : Json
  compilerOptions : Json

/-- The options as the compiler reads them. -/
def CompileOptions.toJson (options : CompileOptions) : Json :=
  Json.ofFields [
    ("sourceMap", .bool options.sourceMap),
    ("isProd", .bool options.mode.production),
    ("isSSR", .bool options.mode.serverRender),
    ("preprocessOptions", options.preprocessOptions),
    ("compilerOptions", options.compilerOptions)]

/-- How a rendered style sheet is laid out. -/
inductive OutputStyle where
  | expanded
  | compressed
deriving Repr, DecidableEq

/-- The name of a layout. -/
def OutputStyle.name : OutputStyle → String
  | expanded => "expanded"
  | compressed => "compressed"

/-- A rendered style sheet. -/
structure RenderedStyle where
  css : String
  sourceMap : Option Json
  stats : Json

/-- A value, unless it is null. -/
def Json.nonNull? : Json → Option Json
  | null => none
  | value => some value

namespace RenderedStyle

/-- The style sheet of the compiler's answer. -/
def decode (answer : Json) : Except MalformedAnswer RenderedStyle :=
  if answer.isObject then
    match (answer.field? "css").bind Json.text? with
    | some css => .ok {
        css
        sourceMap := (answer.field? "map").bind Json.nonNull?
        stats := (answer.field? "stats").getD .null }
    | none => .error .styleWithoutCss
  else .error .styleNotAnObject

end RenderedStyle

namespace Compiler

variable {m : Type → Type} [Monad m]

/-- The request to compile a component. -/
def compileRequest (identity : Identity) (path source : String) (options : CompileOptions) :
    Request :=
  .ofService ServiceName.compileComponent
    [.string identity.hashId, .string path, .string source, options.toJson]

/-- The component that an executor's reply to a compile request holds. -/
def compiled : Except EngineError Response → Except PluginError Component
  | .ok response => (Component.decode response.result).mapError fun error =>
      .malformed (.component error)
  | .error cause => .error (.compile cause)

/-- Compile a component. -/
def compile (executor : Executor m) (identity : Identity) (path source : String)
    (options : CompileOptions) : m (Except PluginError Component) :=
  compiled <$> executor (compileRequest identity path source options)

/-- The request to render a style sheet whose imports are seen from `location`. -/
def renderRequest (source location : String) (sourceMap : Bool) (style : OutputStyle) : Request :=
  .ofService ServiceName.renderStyle [Json.ofFields [
    ("data", .string source), ("sasslocation", .string location),
    ("sourceMap", .bool sourceMap), ("style", .string style.name)]]

/-- The style sheet that an executor's reply to a render request holds. -/
def rendered : Except EngineError Response → Except PluginError RenderedStyle
  | .ok response => (RenderedStyle.decode response.result).mapError .malformed
  | .error cause => .error (.style cause)

/-- Render a style sheet. -/
def render (executor : Executor m) (source location : String) (sourceMap : Bool)
    (style : OutputStyle) : m (Except PluginError RenderedStyle) :=
  rendered <$> executor (renderRequest source location sourceMap style)

end Compiler

end SfcBundler
