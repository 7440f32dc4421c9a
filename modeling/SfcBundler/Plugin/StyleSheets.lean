import SfcBundler.Plugin.Compiler
import SfcBundler.Plugin.State

/-!
# Style sheets in files of their own

Files in a style language with extensions of CSS are rendered by the compiler.

## Main definitions

* `StyleSheet.isAddress`: paths of style sheets
* `StyleSheet.resolve`, `StyleSheet.load`: where a style sheet lies, and its module
* `StyleSheet.readSource`: its source, from a processor or from its file
-/

namespace SfcBundler.StyleSheet

/-- The namespace that style sheets are loaded in. -/
def space : String := "sass-loader"

/-- Whether a path is that of a style sheet. -/
def isAddress (path : List Char) : Bool :=
  ['.', 's', 'a', 's', 's'].isSuffixOf path || ['.', 's', 'c', 's', 's'].isSuffixOf path

/-- An answer that is not empty. -/
def nonEmpty (answer : Except String (Option String)) : Except String (Option String) :=
  answer.map fun text => text.filter (· ≠ "")

variable {m : Type → Type} [Monad m]

/-- Where a style sheet lies. -/
def resolve (state : PluginState m) (args : ResolveArgs) : m ResolveResult := do
  return { path := ← state.resolvePath args.path args.resolveDir, space }

/-- The source of a style sheet: the first text of a processor, or else that of the file. -/
def readSource [MonadFiles m] (state : PluginState m) (args : LoadArgs) :
    m (Except PluginError String) := do
  let answer ← Chain.firstSome (fun processor => nonEmpty <$> processor args state.build)
    state.plugin.processors.onStyleLoad
  match ProcessorStage.styleLoad.fail answer with
  | .error error => return .error error
  | .ok (some source) => return .ok source
  | .ok none => return (← Files.readText args.path).mapError (.unreadable args.path)

/-- Load a style sheet as CSS. -/
def load [MonadFiles m] (state : PluginState m) (args : LoadArgs) :
    m (Except PluginError LoadResult) := do
  match ← readSource state args with
  | .error error => return .error error
  | .ok source =>
    let location := Path.parentDir args.path
    match ← Compiler.render state.plugin.executor source location false .expanded with
    | .error error => return .error error
    | .ok style =>
      return .ok { contents := some style.css, loader := some .css, resolveDir := some location }

end SfcBundler.StyleSheet
