import SfcBundler.Command.Run
import SfcBundler.Proofs.Command.Search

/-!
# What a run hands over

A run that ends well has built what the entries of its command line lead to: every file that is
named, and the files that were found below every directory that is named. The build reported no
error. A name that leads nowhere is no failure: the run goes on as if it had not been given. Nothing
is asked of what serves the run, so this holds whatever the compiler and its engines answer.

## Main definitions

* `WorkspaceConfig.IsFor`: what of a configuration follows from arguments
* `Command.Handover`: what a run that ends well has done for arguments

## Main results

* `Command.isFor_of_prepare`: a run's configuration is for its arguments
* `Command.handover_of_carryOut`: arguments that are carried out well are handed over
* `Command.handover_of_run`: a run that ends well gives help, its version, or such a handover
-/

namespace SfcBundler

/-- What of a configuration follows from arguments that are seen from a directory. -/
structure WorkspaceConfig.IsFor (config : WorkspaceConfig) (dir : String) (arguments : Arguments) :
    Prop where
  roots : config.roots = arguments.entries.map (Path.join dir)
  ignore : (defaultIgnores ++ arguments.ignore).mapM ignorePattern = .ok config.ignore

theorem WorkspaceConfig.isFor_of_ok {dir : String} {arguments : Arguments}
    {config : WorkspaceConfig} {make : List Glob → WorkspaceConfig}
    (hroots : ∀ ignore, (make ignore).roots = arguments.entries.map (Path.join dir))
    (hignore : ∀ ignore, (make ignore).ignore = ignore)
    (h : (do return make (← (defaultIgnores ++ arguments.ignore).mapM ignorePattern)) =
      Except.ok config) : config.IsFor dir arguments := by
  obtain ⟨ignore, hpatterns, hconfig⟩ := exists_of_bind_ok h
  obtain rfl := Except.ok.inj hconfig
  exact ⟨hroots ignore, (hignore ignore).symm ▸ hpatterns⟩

section Handover

variable {σ : Type} [MonadFiles (StateM σ)] {disk : σ → Snapshot} {state : σ}

theorem WorkspaceConfig.isFor_of_load {dir : String} {arguments : Arguments}
    {config : WorkspaceConfig} {loaded : σ}
    (h : (load dir arguments : StateM σ _).run state = (.ok config, loaded)) :
    config.IsFor dir arguments := by
  rw [load] at h
  -- whichever file the aliases are in, the rest is the same
  cases hgiven : arguments.tsconfig with
  | some path =>
    rw [hgiven] at h
    exact isFor_of_ok (fun _ => rfl) (fun _ => rfl) (congrArg Prod.fst h)
  | none =>
    rw [hgiven] at h
    obtain ⟨own, between, -, hrest⟩ := exists_of_run_bind h
    exact isFor_of_ok (fun _ => rfl) (fun _ => rfl) (congrArg Prod.fst hrest)

namespace Command

variable {Server : Type} [CompilerService (StateM σ) Server] {server : Cell (StateM σ) Server}
  {aliases : Cell (StateM σ) AliasSet} {clock : StateM σ Nat} {arguments : Arguments}

/-- The configuration that a run is prepared for is that of its arguments. -/
theorem isFor_of_prepare (h : ReadsDisk disk) {build : Build (StateM σ)} {config : WorkspaceConfig}
    {prepared : σ}
    (hprepare : (prepare server aliases arguments).run state = (.ok (build, config), prepared)) :
    config.IsFor (disk state).workingDir arguments := by
  rw [prepare, run_bind_of_eq (h.workingDir state)] at hprepare
  -- each step before the last must have succeeded, and none changes the configuration
  obtain ⟨loaded?, loaded, hload, hrest⟩ := exists_of_run_bind hprepare
  cases loaded? with
  | error error => cases congrArg Prod.fst hrest
  | ok own =>
    obtain ⟨engines?, started, -, hrest⟩ := exists_of_run_bind hrest
    cases engines? with
    | error failure => cases congrArg Prod.fst hrest
    | ok engines =>
      obtain ⟨-, kept, -, hrest⟩ := exists_of_run_bind hrest
      obtain ⟨host?, hosted, -, hrest⟩ := exists_of_run_bind hrest
      cases host? with
      | error failure => cases congrArg Prod.fst hrest
      | ok host =>
        have hpair : (host, own) = (build, config) := Except.ok.inj (congrArg Prod.fst hrest)
        obtain rfl := congrArg Prod.snd hpair
        exact WorkspaceConfig.isFor_of_load hload

/-- What a run that ends well has done for its arguments. -/
structure Handover (disk : σ → Snapshot) (server : Cell (StateM σ) Server)
    (aliases : Cell (StateM σ) AliasSet) (clock : StateM σ Nat) (arguments : Arguments)
    (state : σ) where
  build : Build (StateM σ)
  config : WorkspaceConfig
  /-- The state in which entry points were looked for. -/
  begun : σ
  entries : List String
  result : BuildResult
  finished : σ
  prepared : (prepare server aliases arguments <* clock).run state = (.ok (build, config), begun)
  isFor : config.IsFor (disk state).workingDir arguments
  /-- Just what the arguments lead to was found. -/
  gathers : config.Gathers (disk begun) entries
  /-- What leads nowhere did not matter. -/
  unmissed : ((config.present (disk begun)).findEntries : StateM σ _).run begun = (entries, begun)
  /-- What was found was built. -/
  built : (build.run maxRounds entries).run begun = (some result, finished)
  clean : result.errors = []

/-- A build of a configuration that ends well, taken apart: the clock is read, the entry points that
the roots lead to are found, and the build of them has no errors. -/
theorem exists_of_buildEntries (h : ReadsDisk disk) {build : Build (StateM σ)}
    {config : WorkspaceConfig} {outcome : CommandOutcome} {prepared ended : σ}
    (hbuild : (buildEntries build config arguments clock).run prepared = (outcome, ended))
    (hexit : outcome.exitCode = 0) :
    ∃ now begun entries result finished, clock.run prepared = (now, begun) ∧
      (config.findEntries : StateM σ _).run begun = (entries, begun) ∧
      config.Gathers (disk begun) entries ∧
      (build.run maxRounds entries).run begun = (some result, finished) ∧ result.errors = [] := by
  obtain ⟨now, begun, hclock, hbuild⟩ := exists_of_run_bind hbuild
  obtain ⟨entries, hentries, hgathers⟩ := WorkspaceConfig.findEntries_run h begun config
  rw [run_bind_of_eq hentries] at hbuild
  obtain ⟨result?, finished, hrun, hbuild⟩ := exists_of_run_bind hbuild
  cases result? with
  | none =>
    -- a build that takes too many rounds is a failure
    have hcode : 1 = outcome.exitCode := congrArg (fun pair => pair.1.exitCode) hbuild
    omega
  | some result =>
    refine ⟨now, begun, entries, result, finished, hclock, hentries, hgathers, hrun, ?_⟩
    have hcode : (if result.hasErrors then 1 else 0) = outcome.exitCode :=
      congrArg (fun pair => pair.1.exitCode) hbuild
    by_contra herrors
    have hhas : result.hasErrors = true := by simpa [BuildResult.hasErrors] using herrors
    rw [if_pos hhas] at hcode
    omega

/-- Arguments that are carried out well are handed over. -/
theorem handover_of_carryOut (h : ReadsDisk disk)
    (hexit : ((carryOut server aliases clock arguments).run state).1.exitCode = 0) :
    Nonempty (Handover disk server aliases clock arguments state) := by
  obtain ⟨host?, prepared, hprepare, hrun⟩ :=
    exists_of_run_bind (Prod.eta ((carryOut server aliases clock arguments).run state)).symm
  cases host? with
  | error failure =>
    -- what does not come to a build has another exit code
    have hcode : 1 = 0 := (congrArg (fun pair => pair.1.exitCode) hrun).trans hexit
    cases hcode
  | ok host =>
    obtain ⟨build, config⟩ := host
    obtain ⟨outcome, ended, hbuild, hrun⟩ := exists_of_run_bind hrun
    have hcode : outcome.exitCode = 0 := (congrArg (fun pair => pair.1.exitCode) hrun).trans hexit
    obtain ⟨now, begun, entries, result, finished, hclock, hentries, hgathers, hbuilt, hclean⟩ :=
      exists_of_buildEntries h hbuild hcode
    have hprepared : (prepare server aliases arguments <* clock).run state =
        (.ok (build, config), begun) := by
      rw [seqLeft_eq_bind, run_bind_of_eq hprepare, run_bind_of_eq hclock]
      rfl
    have hunmissed := (WorkspaceConfig.findEntries_present h begun config).trans hentries
    exact ⟨{
      build, config, begun, entries, result, finished
      prepared := hprepared
      isFor := isFor_of_prepare h hprepare
      gathers := hgathers
      unmissed := hunmissed
      built := hbuilt
      clean := hclean }⟩

/-- A run that ends well gives help or its version, or hands its arguments over. -/
theorem handover_of_run (h : ReadsDisk disk) (texts : List String)
    (defaultCompiler : Option String)
    (hexit : ((run server aliases clock texts defaultCompiler).run state).1.exitCode = 0) :
    Arguments.parse texts defaultCompiler = .error .help ∨
      Arguments.parse texts defaultCompiler = .error .version ∨
      ∃ arguments, Arguments.parse texts defaultCompiler = .ok arguments ∧
        Nonempty (Handover disk server aliases clock arguments state) := by
  rw [run] at hexit
  cases hparse : Arguments.parse texts defaultCompiler with
  | error reason =>
    rw [hparse] at hexit
    -- a refused command line has an exit code of its own
    cases reason with
    | help => exact .inl rfl
    | version => exact .inr (.inl rfl)
    | _ => cases hexit
  | ok arguments =>
    rw [hparse] at hexit
    exact .inr (.inr ⟨arguments, rfl, handover_of_carryOut h hexit⟩)

end Command

end Handover

/-- A session with a pool of engines beside it. -/
structure Desk where
  session : Session
  pool : Pool := ⟨[]⟩

namespace Desk

/-- A computation of a session, with the pool left as it is. -/
def lift {α : Type} (run : StateM Session α) : StateM Desk α := fun desk =>
  let (value, session) := run.run desk.session
  (value, { desk with session })

instance : MonadFiles (StateM Desk) where
  readBytes path := lift (MonadFiles.readBytes path)
  canonical path := lift (MonadFiles.canonical path)
  kind? path := lift (MonadFiles.kind? path)
  entries path := lift (MonadFiles.entries path)
  createDirectories path := lift (MonadFiles.createDirectories path)
  copyFile source target := lift (MonadFiles.copyFile source target)
  workingDir := lift MonadFiles.workingDir
  programDir := lift MonadFiles.programDir

/-- The cell of the pool. -/
def poolCell : Cell (StateM Desk) Pool where
  get := return (← get).pool
  set pool := modify fun desk => { desk with pool }

/-- The cell of the aliases in force. -/
def aliasCell : Cell (StateM Desk) AliasSet where
  get := lift Session.aliasCell.get
  set aliases := lift (Session.aliasCell.set aliases)

theorem readsDisk : ReadsDisk fun desk : Desk => desk.session.disk :=
  ⟨fun _ _ => rfl, fun _ _ => rfl, fun _ _ => rfl, fun _ => rfl⟩

/-- A compiler, a script and a folder that holds a partial style sheet only. -/
def errand : Desk where
  session := {
    disk := {
      readBytes := fun path =>
        if path = "/c.js" || path = "/a.js" then .ok [] else .error .notFound
      canonical := fun path =>
        if path = "/parts" then .ok path else .error .notFound
      kind? := fun path => match path with
        | "/c.js" | "/a.js" | "/parts/_b.scss" => some .file
        | "/parts" => some .directory
        | _ => none
      entries := fun path =>
        if path = "/parts" then .ok [⟨"_b.scss", false⟩] else .error .notFound
      workingDir := "/"
      programDir := "/" } }

theorem eq_of_only {α : Type} {path only : String} {value result : α}
    (h : (if path = only then Except.ok value else .error IoFailure.notFound) = .ok result) :
    path = only ∧ value = result := by
  by_cases hpath : path = only
  · exact ⟨hpath, Except.ok.inj ((if_pos hpath).symm.trans h)⟩
  · cases (if_neg hpath).symm.trans h

theorem isOrderly_errand : errand.session.disk.IsOrderly where
  named := by
    intro path entries entry hentries hentry
    obtain ⟨-, rfl⟩ := eq_of_only hentries
    rw [List.mem_singleton.1 hentry]
    exact ⟨by decide, by decide, by decide⟩
  bounded := by
    intro path entries hentries
    rw [(eq_of_only hentries).1]
    decide
  placed := by
    intro path place hplace
    obtain ⟨rfl, rfl⟩ := eq_of_only hplace
    decide

/-- The arguments of a run that names what is there, and a component that is not. -/
def errandTexts : List String := ["-c", "c.js", "a.js", "parts", "missing.vue"]

/-- The run ends well, although one of its entries is not there. -/
theorem handover_errand :
    errand.session.disk.IsOrderly ∧
      ((Command.run poolCell aliasCell (return 0) errandTexts none).run errand).1 =
        { exitCode := 0
          output := ["", "\x1b[32m✓\x1b[0m Built 1 entries into 1 modules (0ms)"] } ∧
      Arguments.parse errandTexts none =
        .ok { entries := ["a.js", "parts", "missing.vue"], compiler := "c.js" } ∧
      ∃ arguments, Arguments.parse errandTexts none = .ok arguments ∧
        Nonempty (Command.Handover (fun desk : Desk => desk.session.disk) poolCell aliasCell
          (return 0) arguments errand) := by
  have hrun : ((Command.run poolCell aliasCell (return 0) errandTexts none).run errand).1 =
      { exitCode := 0
        output := ["", "\x1b[32m✓\x1b[0m Built 1 entries into 1 modules (0ms)"] } := by
    decide +kernel
  have hparse : Arguments.parse errandTexts none =
      .ok { entries := ["a.js", "parts", "missing.vue"], compiler := "c.js" } := by
    rfl
  refine ⟨isOrderly_errand, hrun, hparse, ?_⟩
  rcases Command.handover_of_run readsDisk errandTexts none (congrArg (·.exitCode) hrun) with
    hhelp | hversion | hhandover
  · cases hhelp.symm.trans hparse
  · cases hversion.symm.trans hparse
  · exact hhandover

end Desk

end SfcBundler
