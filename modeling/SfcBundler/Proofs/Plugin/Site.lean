import SfcBundler.Plugin.Setup
import SfcBundler.Proofs.Walk.Record

/-!
# A site

A site is all that a build of components depends on: the build options, files that do not change,
the plugin's options, processors that are functions, and an executor that answers by service and
arguments alone. A build of a site remembers the aliases in force and the requests made.

## Main definitions

* `Snapshot`, `Session`: files that are only read, and the state of a build
* `Site`, `Site.build`: a site, and a build of its entry points
* `Session.Steady`: a computation that only adds requests, the same in every state

## Main results

* `Site.host_run`: what the setup of a site gives
* `Site.steady_resolve`, `Site.steady_load`: resolving and loading are steady
-/

namespace SfcBundler

/-- Files that a build reads and does not change. -/
structure Snapshot where
  readBytes : String → Except IoFailure (List UInt8)
  canonical : String → Except IoFailure String
  kind? : String → Option EntryKind
  entries : String → Except IoFailure (List DirectoryEntry)
  workingDir : String
  programDir : String

/-- The text of a file. -/
def Snapshot.readText (disk : Snapshot) (path : String) : Except IoFailure String :=
  match disk.readBytes path with
  | .error failure => .error failure
  | .ok bytes =>
    match Utf8.decode? bytes with
    | some text => .ok (String.ofList text)
    | none => .error .notText

/-- The state of a build: the files, the aliases in force, and the requests made so far. -/
structure Session where
  disk : Snapshot
  aliases : AliasSet := {}
  requests : List Request := []

namespace Session

/-- The files of a session are there to be read. -/
instance : MonadFiles (StateM Session) where
  readBytes path := return (← get).disk.readBytes path
  canonical path := return (← get).disk.canonical path
  kind? path := return (← get).disk.kind? path
  entries path := return (← get).disk.entries path
  createDirectories _ := return .error (.other "Read-only file system (os error 30)")
  copyFile _ _ := return .error (.other "Read-only file system (os error 30)")
  workingDir := return (← get).disk.workingDir
  programDir := return (← get).disk.programDir

/-- The cell of the aliases in force. -/
def aliasCell : Cell (StateM Session) AliasSet where
  get := return (← get).aliases
  set aliases := modify fun session => { session with aliases }

/-- The session with other requests made so far. -/
def withRequests (session : Session) (requests : List Request) : Session :=
  { session with requests }

variable {α β : Type} {session : Session} {allowed : Request → Prop}

/-- A computation that does the same in a session whatever requests were made before: it gives
the same value and adds the same requests, all of them `allowed`. -/
def Steady (session : Session) (allowed : Request → Prop) (run : StateM Session α) : Prop :=
  ∃ value log, (∀ request ∈ log, allowed request) ∧ ∀ before,
    run.run (session.withRequests before) = (value, session.withRequests (before ++ log))

/-- The value of a computation in a session without requests. -/
def value (session : Session) (run : StateM Session α) : α :=
  (run.run (session.withRequests [])).1

/-- The requests that a computation makes in a session without requests. -/
def log (session : Session) (run : StateM Session α) : List Request :=
  (run.run (session.withRequests [])).2.requests

theorem Steady.run_eq {run : StateM Session α} (h : session.Steady allowed run)
    (before : List Request) :
    run.run (session.withRequests before) =
      (session.value run, session.withRequests (before ++ session.log run)) := by
  obtain ⟨value, log, -, h⟩ := h
  have hvalue : session.value run = value := congrArg Prod.fst (h [])
  have hlog : session.log run = log := congrArg (fun pair => pair.2.requests) (h [])
  rw [h, hvalue, hlog]

theorem Steady.allowed_of_mem_log {run : StateM Session α} (h : session.Steady allowed run)
    {request : Request} (hmem : request ∈ session.log run) : allowed request := by
  obtain ⟨value, log, hlog, h⟩ := h
  refine hlog request ?_
  rwa [show session.log run = log from congrArg (fun pair => pair.2.requests) (h [])] at hmem

theorem Steady.mono {run : StateM Session α} (h : session.Steady allowed run)
    {more : Request → Prop} (hmore : ∀ request, allowed request → more request) :
    session.Steady more run := by
  obtain ⟨value, log, hlog, h⟩ := h
  exact ⟨value, log, fun request hmem => hmore request (hlog request hmem), h⟩

/-- A computation that is allowed no request makes none. -/
theorem Steady.quiet {run : StateM Session α} (h : session.Steady (fun _ => False) run)
    (before : List Request) :
    run.run (session.withRequests before) = (session.value run, session.withRequests before) := by
  have hlog : session.log run = [] :=
    List.eq_nil_iff_forall_not_mem.2 fun _ hmem => h.allowed_of_mem_log hmem
  rw [h.run_eq, hlog, List.append_nil]

/-- A computation that does not touch its session is steady. -/
theorem steady_of_eq {run : StateM Session α} (value : α)
    (h : ∀ before, run.run (session.withRequests before) = (value, session.withRequests before)) :
    session.Steady allowed run :=
  ⟨value, [], by simp, fun before => by rw [h, List.append_nil]⟩

theorem steady_pure (value : α) : session.Steady allowed (pure value) :=
  steady_of_eq value fun _ => rfl

theorem Steady.bind {first : StateM Session α} {next : α → StateM Session β}
    (hfirst : session.Steady allowed first)
    (hnext : ∀ value, session.Steady allowed (next value)) :
    session.Steady allowed (first >>= next) := by
  obtain ⟨value, log, hlog, hfirst⟩ := hfirst
  obtain ⟨value', log', hlog', hnext⟩ := hnext value
  -- the requests of the second step are made after those of the first
  refine ⟨value', log ++ log', fun request hmem => ?_, fun before => ?_⟩
  · exact (List.mem_append.1 hmem).elim (hlog request) (hlog' request)
  · rw [run_bind_of_eq (hfirst before), hnext, List.append_assoc]

theorem Steady.map {run : StateM Session α} (h : session.Steady allowed run) (change : α → β) :
    session.Steady allowed (change <$> run) := by
  rw [← bind_pure_comp]
  exact h.bind fun value => steady_pure (change value)

theorem steady_readBytes (path : String) :
    session.Steady allowed (MonadFiles.readBytes path : StateM Session _) :=
  steady_of_eq (session.disk.readBytes path) fun _ => rfl

theorem steady_programDir : session.Steady allowed (MonadFiles.programDir : StateM Session _) :=
  steady_of_eq session.disk.programDir fun _ => rfl

theorem readBytes_run (path : String) :
    (MonadFiles.readBytes path : StateM Session _).run session =
      (session.disk.readBytes path, session) := rfl

theorem readText_run (path : String) :
    (Files.readText path : StateM Session _).run session =
      (session.disk.readText path, session) := by
  rw [Files.readText, run_bind_of_eq (readBytes_run path), Snapshot.readText]
  cases session.disk.readBytes path with
  | error failure => rfl
  | ok bytes =>
    dsimp only
    cases Utf8.decode? bytes <;> rfl

theorem steady_readText (path : String) :
    session.Steady allowed (Files.readText path : StateM Session _) :=
  steady_of_eq (session.disk.readText path) fun _ => readText_run path

/-- The working directory that build options lead to in a session. -/
def baseDir (session : Session) (options : BuildOptions) : String :=
  options.workingDir.getD session.disk.workingDir

theorem baseDir_run (session : Session) (options : BuildOptions) :
    (options.baseDir : StateM Session String).run session =
      (session.baseDir options, session) := by
  rw [BuildOptions.baseDir, baseDir]
  cases options.workingDir <;> rfl

theorem steady_baseDir (options : BuildOptions) :
    session.Steady allowed (options.baseDir : StateM Session _) :=
  steady_of_eq (session.baseDir options) fun before => baseDir_run (session.withRequests before) _

theorem steady_ofBuildOptions (options : BuildOptions) :
    session.Steady allowed (AliasSet.ofBuildOptions options : StateM Session _) := by
  rw [AliasSet.ofBuildOptions]
  split
  · split
    · exact (steady_pure _).bind fun _ => steady_pure _
    · exact steady_programDir.bind fun _ => steady_pure _
  · refine (steady_readText _).bind fun text => ?_
    cases text with
    | error failure => exact steady_pure _
    | ok text => exact (steady_baseDir options).bind fun _ => steady_pure _
  · exact steady_pure _

theorem steady_firstSome {σ ε : Type} {run : σ → StateM Session (Except ε (Option α))}
    {stages : List σ} (hrun : ∀ stage ∈ stages, session.Steady allowed (run stage)) :
    session.Steady allowed (Chain.firstSome run stages) := by
  induction stages with
  | nil => exact steady_pure _
  | cons stage rest ih =>
    refine (hrun stage List.mem_cons_self).bind fun answer => ?_
    rcases answer with error | (_ | found)
    · exact steady_pure _
    · exact ih fun other hother => hrun other (List.mem_cons_of_mem _ hother)
    · exact steady_pure _

theorem steady_tryForEach {σ ε : Type} {run : σ → StateM Session (Except ε Unit)}
    {stages : List σ} (hrun : ∀ stage ∈ stages, session.Steady allowed (run stage)) :
    session.Steady allowed (Chain.tryForEach run stages) := by
  induction stages with
  | nil => exact steady_pure _
  | cons stage rest ih =>
    refine (hrun stage List.mem_cons_self).bind fun answer => ?_
    cases answer with
    | ok => exact ih fun other hother => hrun other (List.mem_cons_of_mem _ hother)
    | error error => exact steady_pure _

end Session

/-- Processors that are functions. None of them decides where a component specifier leads. -/
structure SiteProcessors where
  onStart : List (BuildOptions → Except String Unit) := []
  onLoad : List (String → LoadArgs → BuildOptions → Except String String) := []
  onStyleLoad : List (LoadArgs → BuildOptions → Except String (Option String)) := []
  onEnd : List (BuildResult → BuildOptions → Except String Unit) := []

/-- The processors as those of a plugin. -/
def SiteProcessors.lift (processors : SiteProcessors) : Processors (StateM Session) where
  onStart := processors.onStart.map fun processor options => return processor options
  onLoad := processors.onLoad.map fun processor source args options =>
    return processor source args options
  onStyleLoad := processors.onStyleLoad.map fun processor args options =>
    return processor args options
  onEnd := processors.onEnd.map fun processor result options => return processor result options

/-- All that a build of components depends on. `answer` is what the executor gives for a service
and its arguments. -/
structure Site where
  name : String := PluginConfig.defaultName
  templateOptions : Json := .object []
  styleOptions : Json := .object []
  processors : SiteProcessors := {}
  answer : String → List Json → Except EngineError Json
  disk : Snapshot
  options : BuildOptions

namespace Site

/-- The executor's reply to a request. -/
def reply (site : Site) (request : Request) : Except EngineError Response :=
  (site.answer request.service request.args).map fun result => ⟨request.id, result⟩

/-- The executor, which keeps the requests that it replied to. -/
def executor (site : Site) : Executor (StateM Session) := fun request => do
  modify fun session => { session with requests := session.requests ++ [request] }
  return site.reply request

/-- The plugin of a site. -/
def plugin (site : Site) : ComponentPlugin (StateM Session) where
  name := site.name
  executor := site.executor
  templateOptions := site.templateOptions
  styleOptions := site.styleOptions
  processors := site.processors.lift

/-- The host of a site, with no plugin but the one for components. -/
def host (site : Site) : StateM Session (Build (StateM Session)) :=
  Build.ofPlugins site.options [site.plugin.toPlugin Session.aliasCell]

/-- A build of a site's entry points in at most `limit` rounds. -/
def build (site : Site) (limit : Nat) (entries : List String) :
    StateM Session (Option BuildResult) := do
  (← site.host).run limit entries

/-- The build options as the plugin completes them. -/
def buildOptions (site : Site) : BuildOptions := site.options.normalize

/-- What the hooks of the plugin share. -/
def state (site : Site) : PluginState (StateM Session) where
  plugin := site.plugin
  build := site.buildOptions
  mode := .ofDefine site.buildOptions.define
  aliases := Session.aliasCell

/-- The host once it is set up. -/
def hosted (site : Site) : Build (StateM Session) where
  options := site.buildOptions
  plugins := [⟨site.name, site.state.hooks⟩]

/-- The session in which a site is set up. -/
def opened (site : Site) : Session where
  disk := site.disk

/-- The aliases that the build options name; none when they cannot be read. -/
def aliases (site : Site) : AliasSet :=
  match site.opened.value (AliasSet.ofBuildOptions site.buildOptions) with
  | .ok set => set
  | .error _ => {}

/-- The session in which a site is walked. -/
def session (site : Site) : Session where
  disk := site.disk
  aliases := site.aliases

variable (site : Site)

theorem ofBuild_run :
    (PluginState.ofBuild site.plugin Session.aliasCell site.buildOptions).run site.opened =
      (site.state, site.session) := by
  have hsteady : site.opened.Steady (fun _ => False)
      (AliasSet.ofBuildOptions site.buildOptions : StateM Session _) :=
    Session.steady_ofBuildOptions site.buildOptions
  have hread : (AliasSet.ofBuildOptions (m := StateM Session) site.buildOptions).run site.opened =
      (site.opened.value (AliasSet.ofBuildOptions site.buildOptions), site.opened) :=
    hsteady.quiet []
  rw [PluginState.ofBuild, run_bind_of_eq hread, session, aliases]
  cases site.opened.value (AliasSet.ofBuildOptions site.buildOptions) with
  | error error => rfl
  | ok set => rfl

/-- The setup of a site gives its host and reads the aliases. -/
theorem host_run : site.host.run site.opened = (site.hosted, site.session) := by
  have hsetup : ((site.plugin.toPlugin Session.aliasCell).setup site.options).run site.opened =
      ((site.buildOptions, site.state.hooks), site.session) := by
    change (PluginState.ofBuild site.plugin Session.aliasCell site.buildOptions >>= fun state =>
      pure (site.buildOptions, state.hooks)).run site.opened = _
    rw [run_bind_of_eq site.ofBuild_run]
    rfl
  rw [host, Build.ofPlugins, List.foldlM_cons, Build.addPlugin, bind_assoc, run_bind_of_eq hsetup]
  rfl

/-- What aliases the options name does not depend on those in force. -/
theorem value_ofBuildOptions :
    site.session.value (AliasSet.ofBuildOptions site.buildOptions : StateM Session _) =
      site.opened.value (AliasSet.ofBuildOptions site.buildOptions : StateM Session _) := by
  rw [Session.value, Session.value, AliasSet.ofBuildOptions, BuildOptions.baseDir]
  cases site.buildOptions.tsconfigText.filter (· ≠ "") with
  | some text => cases site.buildOptions.workingDir <;> rfl
  | none =>
    cases site.buildOptions.tsconfig with
    | none => rfl
    | some path =>
      dsimp only
      rw [run_bind_of_eq (Session.readText_run path), run_bind_of_eq (Session.readText_run path)]
      rw [show (site.session.withRequests []).disk = site.disk from rfl,
        show (site.opened.withRequests []).disk = site.disk from rfl]
      cases site.disk.readText path with
      | error failure => rfl
      | ok text => cases site.buildOptions.workingDir <;> rfl

theorem steady_executor {session : Session} {allowed : Request → Prop} {request : Request}
    (h : allowed request) : session.Steady allowed (site.executor request) :=
  ⟨site.reply request, [request], by simpa using h, fun _ => rfl⟩

theorem steady_reloadAliases :
    site.session.Steady (fun _ => False) (site.state.reloadAliases site.buildOptions) := by
  have hsteady : site.session.Steady (fun _ => False)
      (AliasSet.ofBuildOptions site.buildOptions : StateM Session _) :=
    Session.steady_ofBuildOptions site.buildOptions
  cases hread :
    site.session.value (AliasSet.ofBuildOptions site.buildOptions : StateM Session _) with
  | error error =>
    refine Session.steady_of_eq (.error error) fun before => ?_
    rw [PluginState.reloadAliases, run_bind_of_eq (hsteady.quiet before), hread]
    rfl
  | ok set =>
    -- the aliases that are read are those in force
    have haliases : site.aliases = set := by
      rw [aliases, ← value_ofBuildOptions, hread]
    refine Session.steady_of_eq (.ok ()) fun before => ?_
    rw [PluginState.reloadAliases, run_bind_of_eq (hsteady.quiet before), hread, session, haliases]
    rfl

theorem steady_start :
    site.session.Steady (fun _ => False) (site.state.start site.buildOptions) := by
  refine .bind (Session.steady_tryForEach fun processor hprocessor => ?_) fun answer => ?_
  · obtain ⟨pure, -, rfl⟩ := List.mem_map.1 hprocessor
    exact Session.steady_pure _
  · cases answer with
    | error text => exact Session.steady_pure _
    | ok => exact site.steady_reloadAliases

/-- The start hooks of a site leave its session as it is. -/
theorem steady_runStart : site.session.Steady (fun _ => False)
    (Build.runStart site.hosted.options (site.hosted.hooks (·.onStart))) :=
  .bind (site.steady_start.map _) fun _ => .bind (Session.steady_pure _) fun _ =>
    Session.steady_pure _

theorem steady_finish (result : BuildResult) :
    site.session.Steady (fun _ => False) (site.state.finish result) := by
  refine .bind (Session.steady_tryForEach fun processor hprocessor => ?_) fun answer =>
    Session.steady_pure _
  obtain ⟨pure, -, rfl⟩ := List.mem_map.1 hprocessor
  exact Session.steady_pure _

/-- So do the end hooks. -/
theorem steady_runEnd (result : BuildResult) : site.session.Steady (fun _ => False)
    (Build.runEnd result (site.hosted.hooks (·.onEnd))) := by
  refine .bind ((site.steady_finish result).map _) fun answer => ?_
  cases answer with
  | ok => exact Session.steady_pure _
  | error error => exact Session.steady_pure _

/-- The plugin's answer to a specifier as the host takes it. -/
def credited (args : ResolveArgs) : Except PluginError ResolveResult → Except Message ResolveResult
  | .ok result => .ok { result with
      errors := result.errors.map (·.credit site.name)
      warnings := result.warnings.map (·.credit site.name) }
  | .error error =>
    .error (((Message.ofText error.message).withPlugin site.name).withFile args.origin)

/-- The path that a specifier stands for. -/
def place (args : ResolveArgs) : String :=
  Path.absolutize (site.aliases.apply args.path) args.resolveDir

/-- Where a specifier leads. -/
def resolved (args : ResolveArgs) : Except Message ResolveResult :=
  if ComponentFile.isAddress args.path.toList then
    site.credited args (ComponentFile.resolvePart (site.place args) args.data)
  else if StyleSheet.isAddress args.path.toList then
    site.credited args (.ok { path := site.place args, space := StyleSheet.space })
  else .ok args.unclaimed

theorem componentResolve_run (args : ResolveArgs) (before : List Request) :
    (ComponentFile.resolve site.state args).run (site.session.withRequests before) =
      (ComponentFile.resolvePart (site.place args) args.data,
        site.session.withRequests before) :=
  rfl

theorem styleResolve_run (args : ResolveArgs) (before : List Request) :
    (StyleSheet.resolve site.state args).run (site.session.withRequests before) =
      ({ path := site.place args, space := StyleSheet.space },
        site.session.withRequests before) :=
  rfl

/-- Where a specifier leads depends on nothing else, and resolving it changes nothing. -/
theorem resolve_run (args : ResolveArgs) (before : List Request) :
    (site.hosted.resolve args).run (site.session.withRequests before) =
      (site.resolved args, site.session.withRequests before) := by
  change (Build.resolveWith args
    (site.state.hooks.onResolve.map fun hook => (site.name, hook))).run _ = _
  simp only [PluginState.hooks, List.map_cons, List.map_nil, Build.resolveWith, HookScope.covers,
    Option.isNone_none, Bool.true_or, Bool.and_true, resolved]
  split
  · rw [run_bind_of_eq (run_map_of_eq (site.componentResolve_run args before) _)]
    cases ComponentFile.resolvePart (site.place args) args.data <;> rfl
  · split
    · rw [run_bind_of_eq (run_map_of_eq (site.styleResolve_run args before) _)]
      rfl
    · rfl

end Site

end SfcBundler
