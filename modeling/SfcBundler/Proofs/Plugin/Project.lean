import SfcBundler.Proofs.Component.PlacedPart
import SfcBundler.Proofs.Plugin.Walk

/-!
# Projects

A project is all of a site but the directory that it lies in: its files are known by the steps that
lead to them, and a build of the project runs in its directory.

## Main definitions

* `Project`, `Project.site`: a project, and the site that it makes in a directory
* `Project.LiesAt`: files that hold a project in a directory
* `Project.compiled`: the component of a source
* `Project.IsPortable`: a project whose builds can be moved

## Main results

* `Project.outcome_component`: a component file as it is loaded
* `Project.exists_outcome_error`: what is no file of the project fails to load
-/

namespace SfcBundler

/-- Whether a specifier leads to nothing that a build loads, wherever it is imported. -/
def isBare (specifier : String) : Bool :=
  !ComponentFile.isAddress specifier.toList && !StyleSheet.isAddress specifier.toList &&
    ({ path := specifier } : ResolveArgs).unclaimed.external

theorem ResolveArgs.unclaimed_eq (args : ResolveArgs) : args.unclaimed =
    if args.unclaimed.external then { path := args.path, external := true }
    else { path := Path.absolutize args.path args.resolveDir, space := fileSpace } := by
  simp only [ResolveArgs.unclaimed]
  split <;> rfl

theorem external_of_isAbsolute {args : ResolveArgs} (h : Path.isAbsolute args.path) :
    args.unclaimed.external = false := by
  simp [ResolveArgs.unclaimed, h]

/-- Whether a specifier stays out of the build shows in its text. -/
theorem external_congr {args args' : ResolveArgs} (h : args.path = args'.path) :
    args.unclaimed.external = args'.unclaimed.external := by
  simp only [ResolveArgs.unclaimed, h]
  split <;> rfl

/-- What is bare stays out of the build, wherever it is imported. -/
theorem external_of_isBare {args : ResolveArgs} (h : isBare args.path) :
    args.unclaimed.external := by
  have hunclaimed : ({ path := args.path } : ResolveArgs).unclaimed.external =
      args.unclaimed.external := external_congr rfl
  rw [isBare, hunclaimed, Bool.and_eq_true] at h
  exact h.2

/-- A specifier that leads to nothing outside of the project, from the directory that the steps
lead to. -/
def Keeps (steps : List (List Char)) (specifier : String) : Prop :=
  isBare specifier ∨ Path.Stays steps specifier

instance (steps : List (List Char)) (specifier : String) : Decidable (Keeps steps specifier) :=
  inferInstanceAs (Decidable (_ ∨ _))

/-- A project: the plugin's options, the build options without a directory and a `tsconfig`, the
executor's answers, and the files by the steps that lead to them. -/
structure Project where
  templateOptions : Json := .object []
  styleOptions : Json := .object []
  answer : String → List Json → Except EngineError Json
  options : BuildOptions := {}
  file? : List (List Char) → Option (List UInt8)

namespace Project

/-- The site of a project in a directory, with nothing but the component plugin. -/
def site (project : Project) (disk : Snapshot) (dir : String) : Site where
  templateOptions := project.templateOptions
  styleOptions := project.styleOptions
  answer := project.answer
  disk
  options := { project.options with workingDir := some dir, tsconfig := none, tsconfigText := none }

/-- The files hold the project in a directory: below it there is what the project says. -/
structure LiesAt (project : Project) (disk : Snapshot) (dir : String) : Prop where
  isAbsolute : Path.isAbsolute dir
  reads : ∀ steps, Path.AreSteps steps →
    (disk.readBytes (Path.place dir steps)).toOption = project.file? steps

/-- How the components of the project are compiled. -/
def compileOptions (project : Project) : CompileOptions where
  sourceMap := project.options.sourceMap.isEnabled
  mode := .ofDefine project.options.normalize.define
  preprocessOptions := project.styleOptions
  compilerOptions := project.templateOptions

/-- The component that a source is compiled to under no name. -/
def compiled (project : Project) (source : String) : Except PluginError Component :=
  Compiler.compiled ((project.answer ServiceName.compileComponent
    [.string "", .string "", .string source, project.compileOptions.toJson]).map fun result =>
      ⟨"", result⟩)

/-- The executor does not look at the fingerprint and the name of a component. -/
def IsImpersonal (project : Project) : Prop :=
  ∀ id name id' name' rest, project.answer ServiceName.compileComponent (id :: name :: rest) =
    project.answer ServiceName.compileComponent (id' :: name' :: rest)

/-- All files of the project are component files. -/
def HoldsComponents (project : Project) : Prop :=
  ∀ steps bytes, project.file? steps = some bytes →
    ∃ front name, steps = front ++ [name] ∧ ComponentFile.isFile name

/-- A project whose builds from given entry points can be moved: it has nothing but component
files, none with a single quote or a backslash in its path, and no entry point and no import of a
part leads out of it. -/
structure IsPortable (project : Project) (entries : List String) : Prop where
  impersonal : project.IsImpersonal
  components : project.HoldsComponents
  mild : ∀ steps bytes, project.file? steps = some bytes → ∀ step ∈ steps, Json.IsMild step
  entries : ∀ entry ∈ entries, Keeps [] entry
  imports : ∀ front name bytes component part served,
    project.file? (front ++ [name]) = some bytes →
    project.compiled (ComponentFile.decodeSource bytes) = .ok component →
    component.served? project.options.sourceMap part = some served →
    ∀ found ∈ Scan.imports served.contents served.loader, Keeps front found.1

end Project

namespace Project

variable {project : Project} {disk : Snapshot} {dir : String} {pending : PendingModule}

theorem compileOptions_site :
    ComponentFile.compileOptions (project.site disk dir).state = project.compileOptions := rfl

theorem compiled_reply (h : project.IsImpersonal) (disk : Snapshot) (dir path source : String) :
    Compiler.compiled ((project.site disk dir).reply
      ((project.site disk dir).compileRequest path source)) = project.compiled source := by
  rw [Site.compileRequest, compileOptions_site, Compiler.compileRequest, Site.reply]
  simp only [Request.ofService]
  rw [show (project.site disk dir).answer = project.answer from rfl,
    h _ _ (.string "") (.string ""), compiled]
  cases project.answer ServiceName.compileComponent
    [.string "", .string "", .string source, project.compileOptions.toJson] <;> rfl

/-- A component file as it is loaded: compiled, and its entry module made. -/
theorem outcome_component (h : project.IsImpersonal) (pending : PendingModule) {bytes : List UInt8}
    (hfile : ComponentFile.isFile pending.path.toList ∧ pending.space = fileSpace)
    (hbytes : disk.readBytes pending.path = .ok bytes) :
    (project.site disk dir).outcome pending = (project.site disk dir).answered pending
      ((project.compiled (ComponentFile.decodeSource bytes)).map fun component =>
        ComponentFile.entryResult pending.path dir project.compileOptions.mode
          ⟨pending.path, .ofSource (ComponentFile.decodeSource bytes), component⟩) := by
  set site := project.site disk dir
  set source := ComponentFile.decodeSource bytes
  have hvalue : site.outcome pending =
      ((site.answered pending <$> ComponentFile.load site.state pending.args).run
        (site.session.withRequests [])).1 := by
    rw [Site.outcome, Session.value, Site.load_eq, if_pos hfile]
  have hread : (site.session.withRequests []).disk.readBytes pending.args.path = .ok bytes := hbytes
  -- without processors the source is compiled as it was read
  have hloaded : (site.loadText pending.args dir source).2 =
      (project.compiled source).map fun component =>
        ComponentFile.entryResult pending.path dir project.compileOptions.mode
          ⟨pending.path, .ofSource source, component⟩ := by
    rw [← compiled_reply h disk dir pending.path source]
    rfl
  rw [hvalue, StateT.run_map, site.componentLoad_run hread, ← hloaded]
  rfl

/-- What cannot be read fails to load, unless it is a part. -/
theorem exists_outcome_error (hkind : ∀ kind : PartKind, pending.space ≠ kind.space)
    (hread : pending.space = fileSpace ∨ StyleSheet.isAddress pending.path.toList →
      ∃ failure, disk.readBytes pending.path = .error failure) :
    ∃ message, (project.site disk dir).outcome pending = .error message := by
  set site := project.site disk dir
  -- a text that cannot be read is none
  have htext (h : pending.space = fileSpace ∨ StyleSheet.isAddress pending.path.toList) :
      ∃ failure, (Files.readText pending.path : StateM Session _).run
        (site.session.withRequests []) = (.error failure, site.session.withRequests []) := by
    obtain ⟨failure, hfailure⟩ := hread h
    refine ⟨failure, (Session.readText_run pending.path).trans ?_⟩
    rw [Snapshot.readText, show (site.session.withRequests []).disk = disk from rfl, hfailure]
  have hvalue : site.outcome pending =
      ((site.hosted.load pending).run (site.session.withRequests [])).1 := rfl
  rw [hvalue, Site.load_eq]
  split
  · rename_i hfile
    obtain ⟨failure, hfailure⟩ := hread (.inl hfile.2)
    have hbytes : (MonadFiles.readBytes pending.args.path : StateM Session _).run
        (site.session.withRequests []) = (.error failure, site.session.withRequests []) :=
      congrArg (·, _) hfailure
    rw [StateT.run_map, ComponentFile.load, run_bind_of_eq hbytes]
    exact ⟨_, rfl⟩
  rw [if_neg (hkind _), if_neg (hkind _), if_neg (hkind _)]
  split
  · rename_i hstyle
    obtain ⟨failure, hfailure⟩ := htext (.inr hstyle.1)
    have hsource : (StyleSheet.readSource site.state pending.args).run
        (site.session.withRequests []) =
        (.error (.unreadable pending.path failure), site.session.withRequests []) := by
      -- there are no processors that would give the source
      change (Files.readText pending.path >>= fun text : Except IoFailure String =>
        pure (text.mapError (PluginError.unreadable pending.path)) : StateM Session _).run _ = _
      rw [run_bind_of_eq hfailure]
      rfl
    rw [StateT.run_map, StyleSheet.load, run_bind_of_eq hsource]
    exact ⟨_, rfl⟩
  · rw [Build.loadUnclaimed]
    split
    · exact ⟨_, rfl⟩
    · rename_i hspace
      split
      · exact ⟨_, rfl⟩
      · obtain ⟨failure, hfailure⟩ := htext (.inl (not_not.1 hspace))
        rw [run_bind_of_eq hfailure]
        exact ⟨_, rfl⟩

section Files

variable {steps : List (List Char)} (hlies : project.LiesAt disk dir) (hsteps : Path.AreSteps steps)
include hlies hsteps

theorem LiesAt.readBytes_of_file {bytes : List UInt8} (hfile : project.file? steps = some bytes) :
    disk.readBytes (Path.place dir steps) = .ok bytes := by
  have hreads := hlies.reads steps hsteps
  rw [hfile] at hreads
  cases hread : disk.readBytes (Path.place dir steps) with
  | error failure =>
    rw [hread] at hreads
    cases hreads
  | ok other =>
    rw [hread] at hreads
    rw [Option.some.inj hreads]

theorem LiesAt.exists_failure (hfile : project.file? steps = none) :
    ∃ failure, disk.readBytes (Path.place dir steps) = .error failure := by
  have hreads := hlies.reads steps hsteps
  rw [hfile] at hreads
  cases hread : disk.readBytes (Path.place dir steps) with
  | error failure => exact ⟨failure, rfl⟩
  | ok bytes =>
    rw [hread] at hreads
    cases hreads

/-- A file of the project is loaded as its component. -/
theorem LiesAt.outcome_file (himpersonal : project.IsImpersonal)
    (hname : ComponentFile.isFile (Path.place dir steps).toList) {bytes : List UInt8}
    (hfile : project.file? steps = some bytes) (data : Option PluginData) :
    (project.site disk dir).outcome ⟨Path.place dir steps, fileSpace, data⟩ =
      (project.site disk dir).answered ⟨Path.place dir steps, fileSpace, data⟩
        ((project.compiled (ComponentFile.decodeSource bytes)).map fun component =>
          ComponentFile.entryResult (Path.place dir steps) dir project.compileOptions.mode
            ⟨Path.place dir steps, .ofSource (ComponentFile.decodeSource bytes), component⟩) := by
  refine outcome_component himpersonal ⟨Path.place dir steps, fileSpace, data⟩ ?_ ?_
  · simpa only [and_true] using hname
  · simpa only using hlies.readBytes_of_file hsteps hfile

/-- What is no file of the project fails to load, and so does what is not loaded as a file. -/
theorem LiesAt.exists_outcome_error (hcomponents : project.HoldsComponents) {space : String}
    (data : Option PluginData) (hkind : ∀ kind : PartKind, space ≠ kind.space)
    (hfile : space = fileSpace → project.file? steps = none) :
    ∃ message, (project.site disk dir).outcome ⟨Path.place dir steps, space, data⟩ =
      .error message := by
  refine Project.exists_outcome_error hkind fun hread => hlies.exists_failure hsteps ?_
  rcases hread with hspace | hstyle
  · exact hfile hspace
  · -- a style sheet is no component file
    cases hbytes : project.file? steps with
    | none => rfl
    | some bytes =>
      obtain ⟨front, name, rfl, hname⟩ := hcomponents steps bytes hbytes
      have hcomponent := Path.isFile_place dir front hname
      exact absurd hstyle (StyleSheet.not_isAddress_of_isFile hcomponent)

end Files

end Project

end SfcBundler
