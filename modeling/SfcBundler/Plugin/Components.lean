import SfcBundler.Component.EntryModule
import SfcBundler.Plugin.Compiler
import SfcBundler.Plugin.State
import SfcBundler.Text.Base64

/-!
# Component files

A component file is compiled when it is loaded, and its entry module imports the parts. The
compiled component is attached to the entry module; an import of a part finds it there, and the
part's module hands it on to imports of its own.

## Main definitions

* `ComponentFile.isAddress`, `ComponentFile.isFile`: paths of components
* `ComponentFile.resolve`: where a component specifier leads
* `ComponentFile.load`: a component as its entry module
* `ComponentFile.loadScript`, `ComponentFile.loadTemplate`, `ComponentFile.loadStyle`: its parts
* `ComponentFile.sourceMapComment`: a source map inside of a script
-/

namespace SfcBundler.ComponentFile

/-- The extension of component files. -/
def extension : List Char := ['.', 'v', 'u', 'e']

/-- Whether a path addresses a component or a part of one: it has the extension at its end, or
in front of a query without line ends. -/
def isAddress : List Char → Bool
  | [] => false
  | c :: rest =>
    (match extension.isPrefixOf? (c :: rest) with
      | some [] => true
      | some ('?' :: query) => !query.contains '\n'
      | _ => false) || isAddress rest

/-- Whether a path is that of a component file. -/
def isFile (path : List Char) : Bool := extension.isSuffixOf path

/-- The component that a module's data holds. -/
def carried? : Option PluginData → Option ComponentData
  | some (.component data) => some data
  | some (.part data _) => some data
  | _ => none

/-- The source of a component: its bytes as UTF-8, as far as they are, with single line ends. -/
def decodeSource (bytes : List UInt8) : String :=
  String.ofList (Text.unixLines (Utf8.decodeLossy bytes))

/-- The path of a component as its entry module records it, relative to the working directory
where that is possible. -/
def recordedPath (path workingDir : String) : String :=
  Path.toPosix ((Path.relativeTo? path workingDir).getD path)

/-- Texts as messages about a file. -/
def messagesAbout (file : String) (texts : List String) : List Message :=
  texts.map fun text => (Message.ofText text).withFile file

/-- The line in front of the digits of a source map. -/
def sourceMapPrefix : String :=
  "\n\n//# sourceMappingURL=data:application/json;charset=utf-8;base64,"

/-- The comment that holds a source map. -/
def sourceMapComment (sourceMap : Json) : String :=
  sourceMapPrefix ++ String.ofList (Base64.encode (Utf8.encode sourceMap.write))

/-- The text of a script block, with its source map if maps are wanted. -/
def scriptContents (script : ScriptPart) (mode : SourceMapMode) : String :=
  match script.sourceMap with
  | some sourceMap =>
    if mode.isEnabled then script.content ++ sourceMapComment sourceMap else script.content
  | none => script.content

/-- The module of a part. Its imports are seen from the directory of the component. -/
def partModule (data : ComponentData) (contents : String) (loader : Loader) : LoadResult :=
  { contents := some contents
    loader := some loader
    resolveDir := some (Path.parentDir data.owner)
    data := some (.component data) }

/-- The component and part that a module of a kind of parts is loaded from. -/
def partOf (kind : PartKind) (args : LoadArgs) : Except PluginError (ComponentData × Part) :=
  match args.data with
  | some (.part data part) =>
    if part.kind = kind then .ok (data, part) else .error (.missingComponent args.path)
  | _ => .error (.missingComponent args.path)

/-- The module of a script block. -/
def loadScript (mode : SourceMapMode) (args : LoadArgs) : Except PluginError LoadResult := do
  let (data, part) ← partOf .script args
  match data.component.script with
  | some script => return partModule data (scriptContents script mode) script.loader
  | none => throw (.missingPart data.owner part)

/-- The module of a template block. -/
def loadTemplate (args : LoadArgs) : Except PluginError LoadResult := do
  let (data, part) ← partOf .template args
  match data.component.template with
  | some template =>
    return { partModule data template.code .ts with
      warnings := messagesAbout data.owner template.tips
      errors := messagesAbout data.owner template.errors }
  | none => throw (.missingPart data.owner part)

/-- The module of a style block. -/
def loadStyle (args : LoadArgs) : Except PluginError LoadResult := do
  let (data, part) ← partOf .style args
  match part.index?.bind (data.component.styles[·]?) with
  | some style =>
    return { partModule data style.code .css with
      errors := messagesAbout data.owner style.errors }
  | none => throw (.missingPart data.owner part)

/-- The module that an address leads to: the component's file, or a part of the component that
the importer carries, which must be the one addressed. -/
def resolvePart (path : String) (data : Option PluginData) : Except PluginError ResolveResult :=
  match Part.parse path with
  | .error cause => .error (.invalidPart path cause)
  | .ok none => .ok { path, space := fileSpace }
  | .ok (some (owner, part)) =>
    match carried? data with
    | some carried =>
      if Path.toPosix carried.owner = Path.toPosix owner then
        .ok { path, space := part.kind.space, data := some (.part carried part) }
      else .error (.missingComponent path)
    | none => .error (.missingComponent path)

section Hooks

variable {m : Type → Type} [Monad m]

/-- Where a component specifier leads. The resolve processors are asked first. -/
def resolve (state : PluginState m) (args : ResolveArgs) :
    m (Except PluginError ResolveResult) := do
  let path ← state.resolvePath args.path args.resolveDir
  let args := { args with path }
  let answer ← Chain.firstSome (fun processor => processor args state.build)
    state.plugin.processors.onResolve
  match ProcessorStage.resolve.fail answer with
  | .error error => return .error error
  | .ok (some result) => return .ok result
  | .ok none => return resolvePart path args.data

/-- The entry module of a compiled component. -/
def entryResult (path workingDir : String) (mode : BuildMode) (data : ComponentData) :
    LoadResult :=
  let entry : EntryModule :=
    { owner := Path.toPosix path
      file := recordedPath path workingDir
      identity := data.identity
      serverRender := mode.serverRender
      component := data.component }
  { contents := some entry.contents
    loader := some .js
    resolveDir := some (Path.parentDir path)
    data := some (.component data)
    warnings := match data.component.script with
      | some script => messagesAbout path script.warnings
      | none => [] }

/-- How the components of a build are compiled. -/
def compileOptions (state : PluginState m) : CompileOptions where
  sourceMap := state.build.sourceMap.isEnabled
  mode := state.mode
  preprocessOptions := state.plugin.styleOptions
  compilerOptions := state.plugin.templateOptions

/-- Compile the source of a component file into its entry module. -/
def loadSource [MonadFiles m] (state : PluginState m) (path source : String) :
    m (Except PluginError LoadResult) := do
  let identity := Identity.ofSource source
  match ← Compiler.compile state.plugin.executor identity (Path.toPosix path) source
      (compileOptions state) with
  | .error error => return .error error
  | .ok component =>
    let workingDir ← state.build.baseDir
    return .ok (entryResult path workingDir state.mode ⟨path, identity, component⟩)

/-- Load a component file as its entry module. The load processors change the source first. -/
def load [MonadFiles m] (state : PluginState m) (args : LoadArgs) :
    m (Except PluginError LoadResult) := do
  match ← MonadFiles.readBytes args.path with
  | .error cause => return .error (.unreadable args.path cause)
  | .ok bytes =>
    let changed ← Chain.fold (fun processor source => processor source args state.build)
      (decodeSource bytes) state.plugin.processors.onLoad
    match ProcessorStage.load.fail changed with
    | .error error => return .error error
    | .ok source => loadSource state args.path source

end Hooks

end SfcBundler.ComponentFile
