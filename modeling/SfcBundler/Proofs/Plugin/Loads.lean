import SfcBundler.Proofs.Plugin.Site

/-!
# What a site loads

The load hooks of the component plugin, one case for each kind of module, and what each of them
asks of the executor.

## Main definitions

* `Component.served?`, `ComponentFile.loadPart`: what a part is served as, and how it is loaded
* `Site.answered`: the plugin's answer to a load as the host takes it
* `Site.outcome`, `Site.requestsOf`: what a load gives, and the requests that it makes
* `Request.compiles?`: the component that a request is to compile
* `Site.loadText`: what is asked for the text of a component file, and what is answered

## Main results

* `Site.load_eq`: which modules are loaded how
* `Site.load_run`: what a load gives depends on nothing else
* `Site.componentLoad_run`: a component file is loaded by its text alone
* `Site.exists_of_componentLoad`: a component that is loaded was compiled by one request
-/

namespace SfcBundler

/-- The path of the component that a request is to compile. -/
def Request.compiles? (request : Request) : Option String :=
  if request.service = ServiceName.compileComponent then request.args[1]?.bind Json.text? else none

/-- What a part is served as: its text, how the text is read, and what was said about it. -/
structure ServedPart where
  contents : String
  loader : Loader
  tips : List String := []
  errors : List String := []

/-- What a part of a component is served as; none when the component has no such part. -/
def Component.served? (component : Component) (mode : SourceMapMode) : Part → Option ServedPart
  | .script => component.script.map fun script =>
    { contents := ComponentFile.scriptContents script mode, loader := script.loader }
  | .template => component.template.map fun template =>
    { contents := template.code, loader := .ts, tips := template.tips, errors := template.errors }
  | .style index => component.styles[index]?.map fun style =>
    { contents := style.code, loader := .css, errors := style.errors }

/-- The module of a part as it is served. -/
def ServedPart.result (served : ServedPart) (data : ComponentData) : LoadResult :=
  { ComponentFile.partModule data served.contents served.loader with
    warnings := ComponentFile.messagesAbout data.owner served.tips
    errors := ComponentFile.messagesAbout data.owner served.errors }

namespace ComponentFile

variable {mode : SourceMapMode} {kind : PartKind} {args : LoadArgs}

/-- How a module of a kind of parts is loaded. -/
def loadPart (mode : SourceMapMode) (kind : PartKind) (args : LoadArgs) :
    Except PluginError LoadResult :=
  match kind with
  | .script => loadScript mode args
  | .template => loadTemplate args
  | .style => loadStyle args

theorem partOf_eq_ok {data : ComponentData} {part : Part} :
    partOf kind args = .ok (data, part) ↔
      args.data = some (.part data part) ∧ part.kind = kind := by
  rw [partOf]
  constructor
  · intro h
    split at h
    · split at h
      · cases h
        exact ⟨‹_›, ‹_›⟩
      · cases h
    · cases h
  · rintro ⟨hdata, hkind⟩
    simp only [hdata, if_pos hkind]

/-- The part of a component that a module of its kind waits with is served, if the component has
it. -/
theorem loadPart_eq {data : ComponentData} {part : Part}
    (hdata : args.data = some (.part data part)) (hkind : part.kind = kind) :
    loadPart mode kind args =
      match data.component.served? mode part with
      | some served => .ok (served.result data)
      | none => .error (.missingPart data.owner part) := by
  have hpart : partOf kind args = .ok (data, part) := partOf_eq_ok.2 ⟨hdata, hkind⟩
  cases part with
  | script =>
    subst hkind
    change loadScript _ args = _
    rw [loadScript, show partOf .script args = _ from hpart, Component.served?]
    dsimp only [bind, Except.bind]
    cases data.component.script <;> rfl
  | template =>
    subst hkind
    change loadTemplate args = _
    rw [loadTemplate, show partOf .template args = _ from hpart, Component.served?]
    dsimp only [bind, Except.bind]
    cases data.component.template <;> rfl
  | style index =>
    subst hkind
    change loadStyle args = _
    rw [loadStyle, show partOf .style args = _ from hpart, Component.served?]
    dsimp only [bind, Except.bind, Part.index?, Option.bind]
    cases data.component.styles[index]? <;> rfl

/-- A module of a kind of parts that waits with anything else is not loaded. -/
theorem loadPart_of_forall_ne
    (h : ∀ data part, args.data = some (.part data part) → part.kind ≠ kind) :
    loadPart mode kind args = .error (.missingComponent args.path) := by
  have hpart : partOf kind args = .error (.missingComponent args.path) := by
    rw [partOf]
    split
    · rename_i data part hdata
      exact if_neg (h data part hdata)
    · rfl
  cases kind with
  | script =>
    change loadScript _ args = _
    rw [loadScript, hpart]
    rfl
  | template =>
    change loadTemplate args = _
    rw [loadTemplate, hpart]
    rfl
  | style =>
    change loadStyle args = _
    rw [loadStyle, hpart]
    rfl

/-- A part that is loaded is one that its module waited with. -/
theorem exists_of_loadPart {result : LoadResult} (h : loadPart mode kind args = .ok result) :
    ∃ data part served, args.data = some (.part data part) ∧ part.kind = kind ∧
      data.component.served? mode part = some served ∧ result = served.result data := by
  have hpart : ∃ data part, args.data = some (.part data part) ∧ part.kind = kind := by
    -- with anything else no part is loaded at all
    refine Classical.byContradiction fun hnone => ?_
    have hother : ∀ data part, args.data = some (.part data part) → part.kind ≠ kind :=
      fun data part hdata hkind => hnone ⟨data, part, hdata, hkind⟩
    rw [loadPart_of_forall_ne hother] at h
    cases h
  obtain ⟨data, part, hdata, hkind⟩ := hpart
  rw [loadPart_eq hdata hkind] at h
  cases hserved : data.component.served? mode part with
  | some served =>
    rw [hserved] at h
    cases h
    exact ⟨data, part, served, hdata, hkind, hserved, rfl⟩
  | none =>
    rw [hserved] at h
    cases h

end ComponentFile

/-- What a load hook sees of a module. -/
def PendingModule.args (pending : PendingModule) : LoadArgs :=
  ⟨pending.path, pending.space, pending.data⟩

namespace Site

variable (site : Site)

/-- The plugin's answer to a load as the host takes it. -/
def answered (pending : PendingModule) : Except PluginError LoadResult → Except Message LoadedModule
  | .ok result => .ok (pending.loadedWith { result with
      errors := result.errors.map (·.credit site.name)
      warnings := result.warnings.map (·.credit site.name) })
  | .error error =>
    .error (((Message.ofText error.message).withPlugin site.name).withLocation
      pending.path pending.space)

/-- A hook of the plugin loads all that it is asked about. -/
theorem loadWith_loadHook (pending : PendingModule) (space : String) (filter : List Char → Bool)
    (load : LoadArgs → StateM Session (Except PluginError LoadResult))
    (rest : List (String × LoadHook (StateM Session))) :
    Build.loadWith pending ((site.name, PluginState.loadHook space filter load) :: rest) =
      if filter pending.path.toList ∧ pending.space = space then
        site.answered pending <$> load pending.args
      else Build.loadWith pending rest := by
  have hcovers : (PluginState.loadHook space filter load).scope.covers pending.path pending.space =
      decide (filter pending.path.toList ∧ pending.space = space) := by
    by_cases hspace : pending.space = space
    · simp [HookScope.covers, PluginState.loadHook, hspace]
    · simp [HookScope.covers, PluginState.loadHook, hspace, Ne.symm hspace]
  rw [Build.loadWith, hcovers]
  simp only [decide_eq_true_eq]
  split
  · -- the hook claims all that it covers, so the hooks behind it are not asked
    change (PluginState.claim <$> load pending.args >>= _) = _
    rw [bind_map_left, ← bind_pure_comp]
    refine bind_congr fun answer => ?_
    cases answer <;> rfl
  · rfl

/-- Which modules are loaded how. -/
theorem load_eq (pending : PendingModule) :
    site.hosted.load pending =
      if ComponentFile.isFile pending.path.toList ∧ pending.space = fileSpace then
        site.answered pending <$> ComponentFile.load site.state pending.args
      else if pending.space = PartKind.script.space then
        return site.answered pending
          (ComponentFile.loadScript site.buildOptions.sourceMap pending.args)
      else if pending.space = PartKind.template.space then
        return site.answered pending (ComponentFile.loadTemplate pending.args)
      else if pending.space = PartKind.style.space then
        return site.answered pending (ComponentFile.loadStyle pending.args)
      else if StyleSheet.isAddress pending.path.toList ∧ pending.space = StyleSheet.space then
        site.answered pending <$> StyleSheet.load site.state pending.args
      else Build.loadUnclaimed pending := by
  change Build.loadWith pending (site.state.hooks.onLoad.map fun hook => (site.name, hook)) = _
  simp only [PluginState.hooks, List.map_cons, List.map_nil, loadWith_loadHook, true_and, map_pure]
  rfl

/-- The working directory of the site's builds. -/
def baseDir : String := site.session.value (site.state.build.baseDir : StateM Session String)

theorem baseDir_eq : site.baseDir = site.session.baseDir site.buildOptions :=
  congrArg Prod.fst (Session.baseDir_run _ _)

theorem baseDir_run (before : List Request) :
    (site.state.build.baseDir : StateM Session String).run (site.session.withRequests before) =
      (site.baseDir, site.session.withRequests before) := by
  rw [baseDir_eq]
  exact Session.baseDir_run _ _

/-- The request that a component's source makes. -/
def compileRequest (path source : String) : Request :=
  Compiler.compileRequest (Identity.ofSource source) (Path.toPosix path) source
    (ComponentFile.compileOptions site.state)

theorem compiles?_compileRequest (path source : String) :
    (site.compileRequest path source).compiles? = some (Path.toPosix path) :=
  if_pos rfl

theorem compiles?_renderRequest (source location : String) (sourceMap : Bool)
    (style : OutputStyle) :
    (Compiler.renderRequest source location sourceMap style).compiles? = none :=
  if_neg (show ¬ ServiceName.renderStyle = ServiceName.compileComponent by decide)

/-- The text of a component as the load processors leave it. -/
def changed (args : LoadArgs) (text : String) : Except String String :=
  Chain.fold (m := Id) (fun change source => change source args site.buildOptions) text
    site.processors.onLoad

/-- What is asked for the text of a component file, and what is answered, where the working
directory is `dir`. -/
def loadText (args : LoadArgs) (dir text : String) :
    List Request × Except PluginError LoadResult :=
  match ProcessorStage.load.fail (site.changed args text) with
  | .error error => ([], .error error)
  | .ok source =>
    let request := site.compileRequest args.path source
    ([request], (Compiler.compiled (site.reply request)).map fun component =>
      ComponentFile.entryResult args.path dir site.state.mode
        ⟨args.path, .ofSource source, component⟩)

theorem loadSource_run (path source : String) (session : Session) :
    (ComponentFile.loadSource site.state path source).run session =
      ((Compiler.compiled (site.reply (site.compileRequest path source))).map fun component =>
          ComponentFile.entryResult path (session.baseDir site.buildOptions) site.state.mode
            ⟨path, .ofSource source, component⟩,
        session.withRequests (session.requests ++ [site.compileRequest path source])) := by
  have hcompile : (Compiler.compile site.state.plugin.executor (.ofSource source)
      (Path.toPosix path) source (ComponentFile.compileOptions site.state)).run session =
      (Compiler.compiled (site.reply (site.compileRequest path source)),
        session.withRequests (session.requests ++ [site.compileRequest path source])) := rfl
  rw [ComponentFile.loadSource, run_bind_of_eq hcompile]
  cases Compiler.compiled (site.reply (site.compileRequest path source)) with
  | error error => rfl
  | ok component =>
    dsimp only
    rw [run_bind_of_eq (Session.baseDir_run _ _)]
    rfl

theorem fold_onLoad_eq (source : String) (args : LoadArgs) :
    Chain.fold (fun processor source => processor source args site.state.build) source
      site.state.plugin.processors.onLoad = (pure (site.changed args source) : StateM Session _) :=
  Chain.fold_map_pure (fun _ _ => rfl) site.processors.onLoad source

/-- A component file is loaded by its text alone. -/
theorem componentLoad_run {args : LoadArgs} {session : Session} {bytes : List UInt8}
    (hread : session.disk.readBytes args.path = .ok bytes) :
    (ComponentFile.load site.state args).run session =
      ((site.loadText args (session.baseDir site.buildOptions)
          (ComponentFile.decodeSource bytes)).2,
        session.withRequests (session.requests ++ (site.loadText args
          (session.baseDir site.buildOptions) (ComponentFile.decodeSource bytes)).1)) := by
  rw [ComponentFile.load, run_bind_of_eq (Session.readBytes_run args.path), hread]
  dsimp only
  rw [fold_onLoad_eq, pure_bind, loadText]
  cases ProcessorStage.load.fail (site.changed args (ComponentFile.decodeSource bytes)) with
  | error error =>
    dsimp only
    rw [List.append_nil]
    rfl
  | ok source => exact site.loadSource_run args.path source session

theorem steady_loadSource (path source : String) :
    site.session.Steady (fun request => request.compiles? = some (Path.toPosix path))
      (ComponentFile.loadSource site.state path source) := by
  refine .bind ((site.steady_executor (site.compiles?_compileRequest path source)).map _)
    fun answer => ?_
  cases answer with
  | error error => exact Session.steady_pure _
  | ok component => exact (Session.steady_baseDir _).bind fun _ => Session.steady_pure _

theorem steady_componentLoad (args : LoadArgs) :
    site.session.Steady (fun request => request.compiles? = some (Path.toPosix args.path))
      (ComponentFile.load site.state args) := by
  refine (Session.steady_readBytes _).bind fun bytes => ?_
  cases bytes with
  | error cause => exact Session.steady_pure _
  | ok bytes =>
    dsimp only
    rw [fold_onLoad_eq]
    refine (Session.steady_pure _).bind fun changed => ?_
    rcases changed with text | source
    · exact Session.steady_pure _
    · exact site.steady_loadSource args.path source

theorem steady_readSource (args : LoadArgs) :
    site.session.Steady (fun _ => False) (StyleSheet.readSource site.state args) := by
  refine .bind (Session.steady_firstSome fun processor hprocessor => ?_) fun answer => ?_
  · obtain ⟨text, -, rfl⟩ := List.mem_map.1 hprocessor
    exact (Session.steady_pure _).map _
  · rcases answer with error | (_ | source)
    · exact Session.steady_pure _
    · exact (Session.steady_readText _).bind fun _ => Session.steady_pure _
    · exact Session.steady_pure _

theorem steady_styleLoad (args : LoadArgs) :
    site.session.Steady (fun request => request.compiles? = none)
      (StyleSheet.load site.state args) := by
  refine ((site.steady_readSource args).mono fun _ hfalse => hfalse.elim).bind fun source => ?_
  cases source with
  | error error => exact Session.steady_pure _
  | ok source =>
    refine ((site.steady_executor (compiles?_renderRequest ..)).map _).bind fun answer => ?_
    cases answer with
    | error error => exact Session.steady_pure _
    | ok style => exact Session.steady_pure _

theorem steady_loadUnclaimed (pending : PendingModule) :
    site.session.Steady (fun _ => False) (Build.loadUnclaimed pending) := by
  rw [Build.loadUnclaimed]
  split
  · exact Session.steady_pure _
  · split
    · exact Session.steady_pure _
    · refine (Session.steady_readText _).bind fun text => ?_
      cases text with
      | error failure => exact Session.steady_pure _
      | ok text => exact Session.steady_pure _

/-- A load is steady. Only that of a component asks for a compilation, and only for its own. -/
theorem steady_load (pending : PendingModule) :
    site.session.Steady (fun request => ∀ owner, request.compiles? = some owner →
      (ComponentFile.isFile pending.path.toList ∧ pending.space = fileSpace) ∧
        Path.toPosix pending.path = owner) (site.hosted.load pending) := by
  rw [load_eq]
  split
  · rename_i hfile
    refine ((site.steady_componentLoad pending.args).map _).mono
      fun request hcompiles owner howner => ?_
    exact ⟨hfile, Option.some.inj (hcompiles.symm.trans howner)⟩
  split
  · exact Session.steady_pure _
  split
  · exact Session.steady_pure _
  split
  · exact Session.steady_pure _
  split
  · refine ((site.steady_styleLoad pending.args).map _).mono fun request hnone owner howner => ?_
    rw [hnone] at howner
    cases howner
  · exact (site.steady_loadUnclaimed pending).mono fun _ hfalse => hfalse.elim

/-- What a load gives. -/
def outcome (pending : PendingModule) : Except Message LoadedModule :=
  site.session.value (site.hosted.load pending)

/-- The requests that a load makes. -/
def requestsOf (pending : PendingModule) : List Request :=
  site.session.log (site.hosted.load pending)

/-- What a load gives, and the requests that it makes, depend on nothing else. -/
theorem load_run (pending : PendingModule) (before : List Request) :
    (site.hosted.load pending).run (site.session.withRequests before) =
      (site.outcome pending, site.session.withRequests (before ++ site.requestsOf pending)) :=
  (site.steady_load pending).run_eq before

section Component

variable {site}

/-- An entry module comes from the component that the one request had compiled. -/
theorem exists_of_loadText {args : LoadArgs} {dir text : String} {requests : List Request}
    {result : LoadResult} (h : site.loadText args dir text = (requests, .ok result)) :
    ∃ source component, requests = [site.compileRequest args.path source] ∧
      Compiler.compiled (site.reply (site.compileRequest args.path source)) = .ok component ∧
      result = ComponentFile.entryResult args.path dir site.state.mode
        ⟨args.path, .ofSource source, component⟩ := by
  -- of the three outcomes, only that of a compiled component is a module
  rw [loadText] at h
  cases hchanged : ProcessorStage.load.fail (site.changed args text) with
  | error error =>
    rw [hchanged] at h
    cases h
  | ok source =>
    rw [hchanged] at h
    obtain ⟨rfl, hresult⟩ := Prod.mk.inj h
    cases hcompiled : Compiler.compiled (site.reply (site.compileRequest args.path source)) with
    | error error =>
      rw [hcompiled] at hresult
      cases hresult
    | ok component =>
      rw [hcompiled] at hresult
      exact ⟨source, component, rfl, hcompiled, (Except.ok.inj hresult).symm⟩

/-- A component that is loaded was compiled by one request, and the component in the reply is what
its entry module is made from. -/
theorem exists_of_componentLoad {args : LoadArgs} {result : LoadResult} {before : List Request}
    {final : Session}
    (h : (ComponentFile.load site.state args).run (site.session.withRequests before) =
      (.ok result, final)) :
    ∃ source component,
      final = site.session.withRequests (before ++ [site.compileRequest args.path source]) ∧
      Compiler.compiled (site.reply (site.compileRequest args.path source)) = .ok component ∧
      result = ComponentFile.entryResult args.path site.baseDir site.state.mode
        ⟨args.path, .ofSource source, component⟩ := by
  cases hread : (site.session.withRequests before).disk.readBytes args.path with
  | error cause =>
    rw [ComponentFile.load, run_bind_of_eq (Session.readBytes_run args.path), hread] at h
    cases h
  | ok bytes =>
    rw [site.componentLoad_run hread] at h
    cases hloaded : site.loadText args ((site.session.withRequests before).baseDir
        site.buildOptions) (ComponentFile.decodeSource bytes) with
    | mk requests answer =>
      rw [hloaded] at h
      obtain ⟨rfl, rfl⟩ := Prod.mk.inj h
      obtain ⟨source, component, rfl, hcompiled, rfl⟩ := exists_of_loadText hloaded
      refine ⟨source, component, rfl, hcompiled, ?_⟩
      rw [baseDir_eq]
      rfl

/-- The entry module of a component is made from what one request had compiled. -/
theorem exists_of_outcome_component {pending : PendingModule} {loaded : LoadedModule}
    (hfile : ComponentFile.isFile pending.path.toList ∧ pending.space = fileSpace)
    (h : site.outcome pending = .ok loaded) :
    ∃ source component, site.requestsOf pending = [site.compileRequest pending.path source] ∧
      Compiler.compiled (site.reply (site.compileRequest pending.path source)) = .ok component ∧
      Except.ok loaded = site.answered pending (.ok (ComponentFile.entryResult pending.path
        site.baseDir site.state.mode ⟨pending.path, .ofSource source, component⟩)) := by
  have hrun := site.load_run pending []
  rw [load_eq, if_pos hfile, h] at hrun
  obtain ⟨result, hresult, hloaded⟩ := exists_of_run_map hrun
  cases result with
  | error error => cases hloaded
  | ok result =>
    obtain ⟨source, component, hfinal, hcompiled, rfl⟩ := exists_of_componentLoad hresult
    exact ⟨source, component, congrArg Session.requests hfinal, hcompiled, hloaded.symm⟩

end Component

section Others

variable {site} {pending : PendingModule}

/-- A part is loaded from its data alone. -/
theorem outcome_part (kind : PartKind) (h : pending.space = kind.space) :
    site.outcome pending = site.answered pending
      (ComponentFile.loadPart site.buildOptions.sourceMap kind pending.args) := by
  have hfile : ¬ kind.space = fileSpace := by cases kind <;> decide
  have hrun := site.load_run pending []
  rw [load_eq, if_neg fun hboth => hfile (h.symm.trans hboth.2), h] at hrun
  cases kind with
  | script => exact (congrArg Prod.fst hrun).symm
  | template => exact (congrArg Prod.fst hrun).symm
  | style => exact (congrArg Prod.fst hrun).symm

/-- A part that is loaded is one that its module waited with, as it is served. -/
theorem exists_of_outcome_part {kind : PartKind} {loaded : LoadedModule}
    (hspace : pending.space = kind.space) (h : site.outcome pending = .ok loaded) :
    ∃ data part served, pending.data = some (.part data part) ∧ part.kind = kind ∧
      data.component.served? site.buildOptions.sourceMap part = some served ∧
      Except.ok loaded = site.answered pending (.ok (served.result data)) := by
  rw [outcome_part kind hspace] at h
  cases hresult : ComponentFile.loadPart site.buildOptions.sourceMap kind pending.args with
  | error error =>
    rw [hresult] at h
    cases h
  | ok result =>
    obtain ⟨data, part, served, hdata, hkind, hserved, rfl⟩ :=
      ComponentFile.exists_of_loadPart hresult
    rw [hresult] at h
    exact ⟨data, part, served, hdata, hkind, hserved, h.symm⟩

/-- A style sheet carries nothing, and its imports are seen from where it lies. -/
theorem data_of_styleLoad {args : LoadArgs} {result : LoadResult} {state final : Session}
    (h : (StyleSheet.load site.state args).run state = (.ok result, final)) :
    result.data = none ∧ result.resolveDir = some (Path.parentDir args.path) := by
  rw [StyleSheet.load] at h
  obtain ⟨source, between, -, h⟩ := exists_of_run_bind h
  cases source with
  | error error => cases h
  | ok source =>
    obtain ⟨style, between, -, h⟩ := exists_of_run_bind h
    cases style with
    | error error => cases h
    | ok style =>
      cases h
      exact ⟨rfl, rfl⟩

/-- So it is with a file that no plugin claims, which has an extension. -/
theorem data_of_loadUnclaimed {loaded : LoadedModule} {state final : Session}
    (h : (Build.loadUnclaimed (m := StateM Session) pending).run state = (.ok loaded, final)) :
    loaded.module.data = none ∧ loaded.module.resolveDir = Path.parentDir pending.path ∧
      (Loader.ofPath? pending.path).isSome := by
  rw [Build.loadUnclaimed] at h
  split at h
  · cases h
  · split at h
    · cases h
    · rename_i loader hloader
      obtain ⟨text, between, -, h⟩ := exists_of_run_bind h
      cases text with
      | error failure => cases h
      | ok text =>
        cases h
        exact ⟨rfl, rfl, by rw [hloader]; rfl⟩

/-- What is neither a component nor a part of one carries nothing, and its imports are seen from
where it lies. -/
theorem data_of_outcome {loaded : LoadedModule}
    (hfile : ¬ (ComponentFile.isFile pending.path.toList ∧ pending.space = fileSpace))
    (hpart : ∀ kind : PartKind, pending.space ≠ kind.space)
    (h : site.outcome pending = .ok loaded) :
    loaded.module.data = none ∧ loaded.module.resolveDir = Path.parentDir pending.path ∧
      (StyleSheet.isAddress pending.path.toList ∨ (Loader.ofPath? pending.path).isSome) := by
  have hrun := site.load_run pending []
  rw [load_eq, if_neg hfile, if_neg (hpart _), if_neg (hpart _), if_neg (hpart _), h] at hrun
  -- a style sheet, or a file that the host reads
  split at hrun
  · rename_i hstyle
    obtain ⟨result, hresult, hloaded⟩ := exists_of_run_map hrun
    cases result with
    | error error => cases hloaded
    | ok result =>
      cases hloaded
      obtain ⟨hdata, hdir⟩ := data_of_styleLoad hresult
      refine ⟨hdata, ?_, .inl hstyle.1⟩
      rw [PendingModule.loadedWith, hdir]
      rfl
  · obtain ⟨hdata, hdir, hloader⟩ := data_of_loadUnclaimed hrun
    exact ⟨hdata, hdir, .inr hloader⟩

end Others

end Site

end SfcBundler
