import SfcBundler.Build.Hooks

/-!
# The build host

A build walks the module graph in rounds. In each round the specifiers at the frontier are
resolved; paths not seen before are loaded; and what their contents import is the next frontier.
Plugins are asked in the order in which they were set up; what none of them claims is a file.

The specifiers of a frontier are resolved in parallel when a build runs, and so are the modules of
a round loaded: the hooks about one specifier are asked in order, but those about two specifiers at
once. `Build.round` asks about the specifiers one after the other. The walk takes in the answers in
the order of the frontier in either case, so a schedule can change what a build does only through
the answers of hooks that share a state. The monad and the hooks are arbitrary here, among them
hooks that give the answers of any one schedule, and what is proved for all hooks is true of that
schedule.

## Main definitions

* `Build`, `Build.addPlugin`: a host with plugins
* `Build.resolve`, `Build.load`: one specifier, one module
* `Walk`, `Build.round`, `Build.rounds`: the walk
* `Build.run`: a build of entry points
* `Build.dispose`: the end of a host
-/

namespace SfcBundler

/-- A plugin that was set up. -/
structure HostedPlugin (m : Type → Type) where
  name : String
  hooks : Hooks m

/-- A host: the build options as the plugins left them, and the plugins in order. -/
structure Build (m : Type → Type) where
  options : BuildOptions
  plugins : List (HostedPlugin m) := []

/-- A resolved module that waits to be loaded. -/
structure PendingModule where
  path : String
  space : String
  data : Option PluginData
deriving Repr

/-- A loaded module, which fails if it has errors. -/
structure LoadedModule where
  module : OutputModule
  errors : List Message
  warnings : List Message
deriving Repr

/-- The file that a failing import is reported under: the importer, or for an entry point the
entry itself. -/
def ResolveArgs.origin (args : ResolveArgs) : String :=
  if args.importer = "" then args.path else args.importer

/-- Where a specifier leads that no plugin claims: relative and absolute paths are files, all
else is external. -/
def ResolveArgs.unclaimed (args : ResolveArgs) : ResolveResult :=
  let isRelative := "./".toList.isPrefixOf args.path.toList || "../".toList.isPrefixOf args.path.toList
  if isRelative || Path.isAbsolute args.path then
    { path := Path.absolutize args.path args.resolveDir, space := fileSpace }
  else { path := args.path, external := true }

/-- The module that a load hook's answer makes; what the answer leaves open follows from the
path. -/
def PendingModule.loadedWith (pending : PendingModule) (result : LoadResult) : LoadedModule where
  module :=
    { path := pending.path
      space := pending.space
      loader := (result.loader.or (Loader.ofPath? pending.path)).getD .js
      contents := result.contents.getD ""
      resolveDir := result.resolveDir.getD (Path.parentDir pending.path)
      data := result.data }
  errors := result.errors
  warnings := result.warnings

namespace Build

variable {m : Type → Type} [Monad m]

/-- The host with one more plugin set up. -/
def addPlugin (build : Build m) (plugin : Plugin m) : m (Build m) := do
  let (options, hooks) ← plugin.setup build.options
  return { options, plugins := build.plugins ++ [⟨plugin.name, hooks⟩] }

/-- A host with plugins set up in order. -/
def ofPlugins (options : BuildOptions) (plugins : List (Plugin m)) : m (Build m) :=
  plugins.foldlM addPlugin { options }

/-- One kind of the plugins' hooks, each with the name of its plugin. -/
def hooks {α : Type} (build : Build m) (select : Hooks m → List α) : List (String × α) :=
  build.plugins.flatMap fun plugin => (select plugin.hooks).map fun hook => (plugin.name, hook)

/-- Ask resolve hooks in order; the first that answers or fails decides. -/
def resolveWith (args : ResolveArgs) :
    List (String × ResolveHook m) → m (Except Message ResolveResult)
  | [] => return .ok args.unclaimed
  | (plugin, hook) :: rest =>
    if hook.scope.covers args.path args.space then do
      match ← hook.run args with
      | .ok none => resolveWith args rest
      | .ok (some result) =>
        return .ok { result with
          errors := result.errors.map (·.credit plugin)
          warnings := result.warnings.map (·.credit plugin) }
      | .error error =>
        return .error (((Message.ofText error.message).withPlugin plugin).withFile args.origin)
    else resolveWith args rest

/-- Where a specifier leads. -/
def resolve (build : Build m) (args : ResolveArgs) : m (Except Message ResolveResult) :=
  resolveWith args (build.hooks (·.onResolve))

/-- Load a module that no plugin claims: a file with a known loader. -/
def loadUnclaimed [MonadFiles m] (pending : PendingModule) : m (Except Message LoadedModule) := do
  let failed (text : String) : Message :=
    (Message.ofText text).withLocation pending.path pending.space
  if pending.space ≠ fileSpace then
    return .error (failed ("no loader handled " ++ pending.path ++ " in namespace " ++ pending.space))
  else match Loader.ofPath? pending.path with
    | none => return .error (failed ("no loader is configured for " ++ pending.path))
    | some loader =>
      match ← Files.readText pending.path with
      | .ok text =>
        return .ok (pending.loadedWith { contents := some text, loader := some loader })
      | .error failure =>
        return .error (failed ("failed to read " ++ pending.path ++ ": " ++ failure.message))

/-- Ask load hooks in order; the first that answers or fails decides. -/
def loadWith [MonadFiles m] (pending : PendingModule) :
    List (String × LoadHook m) → m (Except Message LoadedModule)
  | [] => loadUnclaimed pending
  | (plugin, hook) :: rest =>
    if hook.scope.covers pending.path pending.space then do
      match ← hook.run ⟨pending.path, pending.space, pending.data⟩ with
      | .ok none => loadWith pending rest
      | .ok (some result) =>
        return .ok (pending.loadedWith { result with
          errors := result.errors.map (·.credit plugin)
          warnings := result.warnings.map (·.credit plugin) })
      | .error error =>
        return .error (((Message.ofText error.message).withPlugin plugin).withLocation
          pending.path pending.space)
    else loadWith pending rest

/-- Load a module. -/
def load [MonadFiles m] (build : Build m) (pending : PendingModule) :
    m (Except Message LoadedModule) :=
  loadWith pending (build.hooks (·.onLoad))

end Build

/-- A module is known by its namespace and path. -/
abbrev ModuleKey := String × String

/-- How far a walk has come: the keys seen, and the result so far. -/
structure Walk where
  seen : List ModuleKey := []
  result : BuildResult := {}
deriving Repr

namespace Walk

/-- The walk with errors noted. -/
def withErrors (walk : Walk) (errors : List Message) : Walk :=
  { walk with result := { walk.result with errors := walk.result.errors ++ errors } }

/-- The walk with warnings noted. -/
def withWarnings (walk : Walk) (warnings : List Message) : Walk :=
  { walk with result := { walk.result with warnings := walk.result.warnings ++ warnings } }

/-- Take in where a specifier leads. A key not seen before is to be loaded. -/
def takeResolved (walk : Walk) (args : ResolveArgs) :
    Except Message ResolveResult → Walk × Option PendingModule
  | .error message => (walk.withErrors [message], none)
  | .ok result =>
    let walk := walk.withWarnings result.warnings
    if !result.errors.isEmpty then
      (walk.withErrors (result.errors.map (·.locate args.origin)), none)
    else if result.external then (walk, none)
    else
      let space := if result.space = "" then fileSpace else result.space
      let key := (space, result.path)
      if walk.seen.contains key then (walk, none)
      else ({ walk with seen := key :: walk.seen }, some ⟨result.path, space, result.data⟩)

/-- Take in where all specifiers lead, in order. -/
def takeAllResolved (walk : Walk) :
    List (ResolveArgs × Except Message ResolveResult) → Walk × List PendingModule
  | [] => (walk, [])
  | (args, outcome) :: rest =>
    let (walk, pending) := walk.takeResolved args outcome
    let (walk, more) := walk.takeAllResolved rest
    (walk, pending.toList ++ more)

/-- The specifiers that a module imports. -/
def importsOf (module : OutputModule) : List ResolveArgs :=
  (Scan.imports module.contents module.loader).map fun (specifier, kind) =>
    { path := specifier
      importer := module.path
      space := module.space
      resolveDir := module.resolveDir
      kind
      data := module.data }

/-- Take in a loaded module. Its imports are still to be resolved. -/
def takeLoaded (walk : Walk) (pending : PendingModule) :
    Except Message LoadedModule → Walk × List ResolveArgs
  | .error message => (walk.withErrors [message], [])
  | .ok loaded =>
    let walk := walk.withWarnings loaded.warnings
    if !loaded.errors.isEmpty then
      (walk.withErrors (loaded.errors.map (·.locate pending.path)), [])
    else
      ({ walk with result := { walk.result with
          modules := walk.result.modules ++ [loaded.module] } }, importsOf loaded.module)

/-- Take in all loaded modules, in order. -/
def takeAllLoaded (walk : Walk) :
    List (PendingModule × Except Message LoadedModule) → Walk × List ResolveArgs
  | [] => (walk, [])
  | (pending, outcome) :: rest =>
    let (walk, frontier) := walk.takeLoaded pending outcome
    let (walk, more) := walk.takeAllLoaded rest
    (walk, frontier ++ more)

end Walk

namespace Build

variable {m : Type → Type} [Monad m]

/-- One round: resolve the frontier, load what is new, and give the next frontier. Both passes
stand for parallel ones, whose answers are collected in this order. -/
def round [MonadFiles m] (build : Build m) (walk : Walk) (frontier : List ResolveArgs) :
    m (Walk × List ResolveArgs) := do
  let resolved ← frontier.mapM fun args => do return (args, ← build.resolve args)
  let (walk, pending) := walk.takeAllResolved resolved
  let loaded ← pending.mapM fun module => do return (module, ← build.load module)
  return walk.takeAllLoaded loaded

/-- Rounds until the frontier is empty; none when that takes more than `limit` of them. -/
def rounds [MonadFiles m] (build : Build m) (limit : Nat) (walk : Walk)
    (frontier : List ResolveArgs) : m (Option Walk) :=
  match frontier, limit with
  | [], _ => return some walk
  | _ :: _, 0 => return none
  | _ :: _, limit + 1 => do
    let (walk, next) ← build.round walk frontier
    build.rounds limit walk next

/-- Run start hooks in order, all of them, and collect their errors. -/
def runStart (options : BuildOptions) :
    List (String × (BuildOptions → m (Except HookError Unit))) → m (List Message)
  | [] => return []
  | (plugin, hook) :: rest => do
    let failed := match ← hook options with
      | .ok () => []
      | .error error => [(Message.ofText error.message).withPlugin plugin]
    return failed ++ (← runStart options rest)

/-- Run end hooks in order, all of them. Each sees the result so far, with the errors of those
before it. -/
def runEnd (result : BuildResult) :
    List (String × (BuildResult → m (Except HookError Unit))) → m BuildResult
  | [] => return result
  | (plugin, hook) :: rest => do
    match ← hook result with
    | .ok () => runEnd result rest
    | .error error =>
      let failed := (Message.ofText error.message).withPlugin plugin
      runEnd { result with errors := result.errors ++ [failed] } rest

/-- The frontier of a build's entry points. -/
def entryFrontier (baseDir : String) (entries : List String) : List ResolveArgs :=
  entries.map fun entry => { path := entry, resolveDir := baseDir }

/-- Build entry points in at most `limit` rounds; none when they do not suffice. When a start
hook fails nothing is walked. The end hooks run in any case. -/
def run [MonadFiles m] (build : Build m) (limit : Nat) (entries : List String) :
    m (Option BuildResult) := do
  let failed ← runStart build.options (build.hooks (·.onStart))
  if !failed.isEmpty then
    return some (← runEnd { errors := failed } (build.hooks (·.onEnd)))
  let baseDir ← build.options.baseDir
  match ← build.rounds limit {} (entryFrontier baseDir entries) with
  | none => return none
  | some walk => return some (← runEnd walk.result (build.hooks (·.onEnd)))

/-- Run the dispose hooks in order. -/
def dispose (build : Build m) : m Unit :=
  (build.hooks (·.onDispose)).forM fun hook => hook.2

end Build

end SfcBundler
