import SfcBundler.Proofs.Command.GlobNames
import SfcBundler.Proofs.Command.Survey

/-!
# Where a workspace is

The entry points of a run are found from the workspace. Where two workspaces hold the same files,
the same arguments stand for the same entry points, seen from the workspace, as long as the ignored
patterns agree: these look at the whole path, so a directory above the workspace may have a name
that they look for. Nothing else may lead out of the workspace, and the limits of the system must
not come in between.

## Main definitions

* `Workspace`, `Workspace.entryPoints`: a directory that a run is made from, and what arguments
  stand for there
* `Workspace.Agree`: workspaces in which arguments stand for the same files
* `Glob.Spares`: patterns that look for the name of a directory, which some directories have not

## Main results

* `Workspace.finds_survey`: what arguments stand for, by a survey of the workspace
* `Workspace.agree_iff`: arguments stand for the same files just where the same files are ignored
* `Workspace.Sample.isRefutation_workspaces`: none of the conditions can be left out
-/

namespace SfcBundler

theorem exists_of_mapM_ok {α β ε : Type} {f : α → Except ε β} {items : List α} {values : List β}
    (h : items.mapM f = .ok values) : ∀ value ∈ values, ∃ item ∈ items, f item = .ok value := by
  induction items generalizing values with
  | nil =>
    obtain rfl : [] = values := Except.ok.inj h
    exact nofun
  | cons item rest ih =>
    rw [List.mapM_cons] at h
    obtain ⟨first, hfirst, h⟩ := exists_of_bind_ok h
    obtain ⟨others, hothers, h⟩ := exists_of_bind_ok h
    obtain rfl : first :: others = values := Except.ok.inj h
    intro value hvalue
    rcases List.mem_cons.1 hvalue with rfl | hvalue
    · exact ⟨item, List.mem_cons_self, hfirst⟩
    · obtain ⟨other, hother, hvalue⟩ := ih hothers value hvalue
      exact ⟨other, List.mem_cons_of_mem _ hother, hvalue⟩

theorem exists_of_isOk {α ε : Type} {result : Except ε α} (h : result.isOk) :
    ∃ value, result = .ok value := by
  cases result with
  | error failure => cases h
  | ok value => exact ⟨value, rfl⟩

/-- A path is known from where it is seen. -/
theorem Path.join_injective {dir first second : String} (hdir : isAbsolute dir)
    (hfirst : isAbsolute first = false) (hsecond : isAbsolute second = false)
    (h : join dir first = join dir second) : first = second := by
  obtain ⟨front, -, hjoin⟩ := exists_front hdir
  rw [hjoin first hfirst, hjoin second hsecond] at h
  exact (String.append_right_inj _).1 h

theorem Path.map_join_injective {dir : String} (hdir : isAbsolute dir) {first second : List String}
    (hfirst : ∀ path ∈ first, isAbsolute path = false)
    (hsecond : ∀ path ∈ second, isAbsolute path = false)
    (h : first.map (join dir) = second.map (join dir)) : first = second := by
  induction first generalizing second with
  | nil => exact (List.map_eq_nil_iff.1 h.symm).symm
  | cons path rest ih =>
    cases second with
    | nil => cases h
    | cons other more =>
      obtain ⟨hpath, hrest⟩ := List.cons.inj h
      rw [join_injective hdir (hfirst path List.mem_cons_self) (hsecond other List.mem_cons_self)
        hpath, ih (fun p hp => hfirst p (List.mem_cons_of_mem _ hp))
          (fun p hp => hsecond p (List.mem_cons_of_mem _ hp)) hrest]

/-- Arguments with valid patterns can be loaded, and no file is changed. -/
theorem WorkspaceConfig.load_run {σ : Type} [MonadFiles (StateM σ)] {disk : σ → Snapshot}
    (h : ReadsDisk disk) (state : σ) (dir : String) {arguments : Arguments} {globs : List Glob}
    (hglobs : (defaultIgnores ++ arguments.ignore).mapM ignorePattern = .ok globs) :
    ∃ config, (load dir arguments : StateM σ _).run state = (.ok config, state) ∧
      config.roots = arguments.entries.map (Path.join dir) ∧ config.ignore = globs := by
  rw [load, hglobs]
  cases arguments.tsconfig with
  | some path => exact ⟨_, rfl, rfl, rfl⟩
  | none =>
    have hfile : (Files.isFile (Path.join dir tsconfigName) : StateM σ _).run state =
        ((disk state).kind? (Path.join dir tsconfigName) == some .file, state) := by
      rw [Files.isFile, run_bind_of_eq (h.kind? _ state)]
      rfl
    dsimp only
    rw [run_bind_of_eq hfile]
    exact ⟨_, rfl, rfl, rfl⟩

namespace Glob

/-- A pattern that looks for what is in directories of a name, wherever they lie, where none of the
given directories is called so or lies in one that is. -/
def Spares (dirs : List String) (pattern : String) : Prop :=
  ∃ name rest, pattern = "**/" ++ name ++ "/" ++ rest ∧ (∀ c ∈ name.toList, isOrdinary c) ∧
    ∀ dir ∈ dirs, name ∉ FileTree.steps dir

theorem isMatch_join {here there pattern path : String} {glob : Glob}
    (hparse : parse pattern = .ok glob) (h : Spares [here, there] pattern)
    (hhere : Path.isAbsolute here) (hthere : Path.isAbsolute there)
    (hpath : Path.isAbsolute path = false) :
    glob.isMatch (Path.join here path) = glob.isMatch (Path.join there path) := by
  obtain ⟨name, rest, rfl, hname, hdirs⟩ := h
  have hslash : '/' ∉ name.toList := by
    intro hmem
    have hordinary := hname '/' hmem
    rw [isOrdinary] at hordinary
    revert hordinary
    decide
  -- the segments in front of a path are steps of the directory
  have hfront {dir front : String} (hdir : name ∉ FileTree.steps dir)
      (hfront : dir = front ∨ dir = front ++ "/") : name.toList ∉ Text.fields '/' front.toList := by
    intro hmem
    have hsteps : name ∈ FileTree.steps front :=
      List.mem_map.2 ⟨name.toList, hmem, String.ofList_toList⟩
    rcases hfront with rfl | rfl
    · exact hdir hsteps
    · have hslash : front ++ "/" = front ++ "/" ++ "" := String.append_empty.symm
      rw [hslash, FileTree.steps_append_slash] at hdir
      exact hdir (List.mem_append_left _ hsteps)
  obtain ⟨front, hhereFront, hjoin⟩ := Path.exists_front hhere
  obtain ⟨other, hthereFront, hotherJoin⟩ := Path.exists_front hthere
  rw [hjoin path hpath, hotherJoin path hpath]
  exact (namesDirectory_of_parse hname hparse).isMatch_eq hslash
    (hfront (hdirs here (by simp)) hhereFront) (hfront (hdirs there (by simp)) hthereFront) path

end Glob

/-- A directory in a file tree that a run is made from. -/
structure Workspace where
  tree : FileTree
  dir : String

namespace Workspace

open WorkspaceConfig (defaultIgnores ignorePattern)

/-- The entry points that arguments stand for. -/
def entryPoints (workspace : Workspace) (arguments : Arguments) :
    Except IgnoreError (List String) :=
  letI := FileTree.monadFiles id fun (tree : FileTree) _ => tree
  let run : StateM FileTree (Except IgnoreError (List String)) := do
    match ← WorkspaceConfig.load workspace.dir arguments with
    | .error error => return .error error
    | .ok config => return .ok (← config.findEntries)
  (run.run workspace.tree).1

/-- The files that arguments stand for, as seen from a workspace. -/
structure Finds (workspace : Workspace) (arguments : Arguments) (files : List String) : Prop where
  relative : ∀ path ∈ files, Path.isAbsolute path = false
  entryPoints : workspace.entryPoints arguments = .ok (files.map (Path.join workspace.dir))

/-- Two workspaces in which arguments stand for the same files in the same order, each as seen from
the workspace. -/
def Agree (here there : Workspace) (arguments : Arguments) : Prop :=
  ∃ files, here.Finds arguments files ∧ there.Finds arguments files

/-- Whether one of the patterns matches a path that is seen from a workspace. -/
def ignores (workspace : Workspace) (globs : List Glob) (path : String) : Bool :=
  globs.any (·.isMatch (Path.join workspace.dir path))

/-- The files among findings that are entry points, given which paths are ignored. -/
def kept (ignored : String → Bool) (found : List Finding) : List String :=
  (found.filter fun finding => finding.named || !ignored finding.path).map (·.path)

section Kept

variable {ignored other : String → Bool} {found : List Finding}

/-- A path is kept for every finding of it, or for those that are named only. -/
theorem count_kept (path : String) :
    (kept ignored found).count path = ((found.filter (·.path == path)).filter fun finding =>
      finding.named || !ignored path).length := by
  rw [kept, List.count_eq_countP, List.countP_map, List.countP_filter, List.countP_eq_length_filter,
    List.filter_filter]
  refine congrArg List.length (List.filter_congr ?_)
  intro finding _
  cases hpath : finding.path == path with
  | false => simp [hpath]
  | true =>
    obtain rfl := beq_iff_eq.1 hpath
    simp

theorem ignored_of_kept_eq (h : kept ignored found = kept other found) {finding : Finding}
    (hfinding : finding ∈ found) (hnamed : finding.named = false)
    (hignored : ignored finding.path = false) : other finding.path = false := by
  have hcount := congrArg (List.count finding.path) h
  rw [count_kept, count_kept] at hcount
  cases hother : other finding.path with
  | false => rfl
  | true =>
    -- then only what is named would be left of what was all kept
    rw [hignored, hother, List.filter_eq_self.2 (by simp)] at hcount
    have hall := List.length_filter_eq_length_iff.1 hcount.symm finding
      (List.mem_filter.2 ⟨hfinding, beq_self_eq_true _⟩)
    rw [hnamed] at hall
    cases hall

/-- The same files are kept just where the same findings are ignored. -/
theorem kept_eq_iff : kept ignored found = kept other found ↔
    ∀ finding ∈ found, finding.named = false → ignored finding.path = other finding.path := by
  constructor
  · intro h finding hfinding hnamed
    rw [Bool.eq_iff_iff, ← not_iff_not, Bool.not_eq_true, Bool.not_eq_true]
    exact ⟨ignored_of_kept_eq h hfinding hnamed, ignored_of_kept_eq h.symm hfinding hnamed⟩
  · intro h
    refine congrArg (List.map _) (List.filter_congr ?_)
    intro finding hfinding
    cases hnamed : finding.named with
    | true => rfl
    | false => rw [h finding hfinding hnamed]

end Kept

variable {here there : Workspace} {top : Node} {arguments : Arguments} {globs : List Glob}

/-- What arguments stand for in a workspace that holds a directory: what a survey of the directory
finds, less what is ignored. -/
theorem finds_survey (hglobs : (defaultIgnores ++ arguments.ignore).mapM ignorePattern = .ok globs)
    (hholds : here.tree.Holds here.dir top)
    (hfits : ∀ path ∈ (top.survey arguments.entries).asked, top.Fits here.tree here.dir path) :
    here.Finds arguments (kept (here.ignores globs) (top.survey arguments.entries).value) ∧
      ∀ finding ∈ (top.survey arguments.entries).value, Path.isAbsolute finding.path = false := by
  let files := FileTree.monadFiles id fun (tree : FileTree) _ => tree
  have hdisk := FileTree.readsDisk id fun (tree : FileTree) _ => tree
  obtain ⟨base, hlies⟩ := Node.exists_liesAt hholds
  obtain ⟨config, hload, hroots, hignore⟩ :=
    WorkspaceConfig.load_run hdisk here.tree here.dir hglobs
  obtain ⟨entries, hentries, hkeeps⟩ := WorkspaceConfig.findEntries_mirrors hdisk rfl hlies config
    hholds.isAbsolute hroots hfits
  -- a file that is named stays, whatever is ignored
  have hkept : config.isKept here.dir =
      fun finding => finding.named || !here.ignores globs finding.path := by
    funext finding
    rw [WorkspaceConfig.isKept, WorkspaceConfig.isIgnored, hignore]
    rfl
  have hfound := hkeeps.eq
  rw [hkept] at hfound
  refine ⟨⟨?_, ?_⟩, hkeeps.relative⟩
  · intro path hpath
    obtain ⟨finding, hfinding, rfl⟩ := List.mem_map.1 hpath
    exact hkeeps.relative finding (List.mem_of_mem_filter hfinding)
  · have hrun : here.entryPoints arguments = .ok entries := by
      rw [entryPoints, run_bind_of_eq hload, run_bind_of_eq hentries]
      rfl
    rw [hrun, hfound, kept, List.map_map]
    rfl

theorem Finds.unique (hdir : Path.isAbsolute here.dir) {files others : List String}
    (h : here.Finds arguments files) (hothers : here.Finds arguments others) : files = others := by
  apply Path.map_join_injective hdir h.relative hothers.relative
  exact Except.ok.inj (h.entryPoints.symm.trans hothers.entryPoints)

theorem not_agree (hhere : Path.isAbsolute here.dir) (hthere : Path.isAbsolute there.dir)
    {files others : List String} (hfinds : here.Finds arguments files)
    (hothers : there.Finds arguments others) (hne : files ≠ others) :
    ¬ Agree here there arguments := by
  rintro ⟨same, hsame, hsameOther⟩
  apply hne
  rw [hfinds.unique hhere hsame, hothers.unique hthere hsameOther]

theorem parse_of_ignorePattern {pattern : String} {glob : Glob}
    (h : ignorePattern pattern = .ok glob) : Glob.parse pattern = .ok glob := by
  rw [ignorePattern] at h
  cases hparse : Glob.parse pattern with
  | error cause =>
    rw [hparse] at h
    cases h
  | ok own =>
    rw [hparse] at h
    exact congrArg _ (Except.ok.inj h)

/-- Patterns that look for names that no directory above has ignore the same paths. -/
theorem ignores_eq_of_spares {patterns : List String} (hglobs : patterns.mapM ignorePattern = .ok globs)
    (hspares : ∀ pattern ∈ patterns, Glob.Spares [here.dir, there.dir] pattern)
    (hhere : Path.isAbsolute here.dir) (hthere : Path.isAbsolute there.dir) {path : String}
    (hpath : Path.isAbsolute path = false) : here.ignores globs path = there.ignores globs path := by
  have hmatch : ∀ glob ∈ globs,
      glob.isMatch (Path.join here.dir path) = glob.isMatch (Path.join there.dir path) := by
    intro glob hglob
    obtain ⟨pattern, hpattern, hglob⟩ := exists_of_mapM_ok hglobs glob hglob
    exact Glob.isMatch_join (parse_of_ignorePattern hglob) (hspares pattern hpattern) hhere hthere
      hpath
  rw [ignores, ignores, Bool.eq_iff_iff, List.any_eq_true, List.any_eq_true]
  constructor
  · rintro ⟨glob, hglob, hmatched⟩
    exact ⟨glob, hglob, hmatch glob hglob ▸ hmatched⟩
  · rintro ⟨glob, hglob, hmatched⟩
    exact ⟨glob, hglob, (hmatch glob hglob).symm ▸ hmatched⟩

/-- An entry that is a file stands for itself, and one that leads nowhere for nothing. -/
theorem finds_of_kind? {entry : String} {files : List String}
    (hglobs : (defaultIgnores ++ arguments.ignore).mapM ignorePattern = .ok globs)
    (hentries : arguments.entries = [entry]) (hrelative : Path.isAbsolute entry = false)
    (hkind : here.tree.kind? (Path.join here.dir entry) = some .file ∧ files = [entry] ∨
      here.tree.kind? (Path.join here.dir entry) = none ∧ files = []) :
    here.Finds arguments files := by
  let files := FileTree.monadFiles id fun (tree : FileTree) _ => tree
  have hdisk := FileTree.readsDisk id fun (tree : FileTree) _ => tree
  obtain ⟨config, hload, hroots, -⟩ := WorkspaceConfig.load_run hdisk here.tree here.dir hglobs
  rw [hentries, List.map_singleton] at hroots
  -- there is one root, so what it stands for is what is found
  have hfind {found : List String}
      (hfound : (config.entriesOf (Path.join here.dir entry) : StateM FileTree _).run here.tree =
        (found, here.tree)) : here.entryPoints arguments = .ok found := by
    have hentries :
        (config.findEntries : StateM FileTree _).run here.tree = (found, here.tree) := by
      rw [WorkspaceConfig.findEntries, hroots, List.mapM_cons, bind_assoc, run_bind_of_eq hfound]
      exact congrArg (·, here.tree) (List.append_nil found)
    rw [entryPoints, run_bind_of_eq hload, run_bind_of_eq hentries]
    rfl
  rcases hkind with ⟨hfile, rfl⟩ | ⟨hnone, rfl⟩
  · refine ⟨by simpa using hrelative, ?_⟩
    rw [List.map_singleton]
    apply hfind
    rw [WorkspaceConfig.entriesOf, run_bind_of_eq (hdisk.kind? _ here.tree)]
    simp only [FileTree.snapshot, id_eq, hfile]
    rfl
  · refine ⟨List.forall_mem_nil _, ?_⟩
    apply hfind
    rw [WorkspaceConfig.entriesOf, run_bind_of_eq (hdisk.kind? _ here.tree)]
    simp only [FileTree.snapshot, id_eq, hnone]
    rfl

/-- Where two workspaces hold the same directory, and no path that is asked about leads out of it or
is forbidden by a limit in only one place, arguments stand for the same files just where the same
files are ignored. They are, if all patterns look for names that no directory above has. -/
theorem agree_iff (hglobs : (defaultIgnores ++ arguments.ignore).mapM ignorePattern = .ok globs)
    (hhere : here.tree.Holds here.dir top) (hthere : there.tree.Holds there.dir top)
    (hfits : ∀ path ∈ (top.survey arguments.entries).asked,
      top.Fits here.tree here.dir path ∧ top.Fits there.tree there.dir path) :
    (Agree here there arguments ↔
      ∀ finding ∈ (top.survey arguments.entries).value, finding.named = false →
        here.ignores globs finding.path = there.ignores globs finding.path) ∧
    ((∀ pattern ∈ defaultIgnores ++ arguments.ignore,
      Glob.Spares [here.dir, there.dir] pattern) → Agree here there arguments) := by
  obtain ⟨hfinds, hrelative⟩ :=
    finds_survey hglobs hhere fun path hpath => (hfits path hpath).1
  obtain ⟨hothers, -⟩ := finds_survey hglobs hthere fun path hpath => (hfits path hpath).2
  have hagree : Agree here there arguments ↔
      ∀ finding ∈ (top.survey arguments.entries).value, finding.named = false →
        here.ignores globs finding.path = there.ignores globs finding.path := by
    rw [← kept_eq_iff]
    constructor
    · rintro ⟨files, hfiles, hsame⟩
      rw [hfinds.unique hhere.isAbsolute hfiles, hothers.unique hthere.isAbsolute hsame]
    · intro hsame
      rw [← hsame] at hothers
      exact ⟨_, hfinds, hothers⟩
  refine ⟨hagree, fun hspares => hagree.2 fun finding hfinding _ => ?_⟩
  exact ignores_eq_of_spares hglobs hspares hhere.isAbsolute hthere.isAbsolute
    (hrelative finding hfinding)

section Errand

/-- A project with what is ignored, a partial style sheet, and links within. -/
def project : Node :=
  .directory [
    ("node_modules", .directory [("lib", .directory [("C.vue", .file [])])]),
    ("src", .directory [
      ("App.vue", .file []), ("_part.scss", .file []),
      ("legacy", .directory [("Old.vue", .file [])]), ("self", .link "."), ("ui", .link "../ui")]),
    ("ui", .directory [("Card.vue", .file []), ("main.scss", .file [])])]

/-- The project at home. -/
def home : Workspace := ⟨⟨.directory [("app", project)], "/"⟩, "/app"⟩

/-- The project elsewhere, behind a link. -/
def moved : Workspace :=
  ⟨⟨.directory [("dist-old", .directory [("app", project)]), ("now", .link "dist-old/app")], "/"⟩,
    "/now/"⟩

/-- A folder, a file in what is ignored, and something that is missing. -/
def errand : Arguments where
  entries := ["src", "node_modules/lib/C.vue", "missing"]
  compiler := "c.js"
  ignore := ["**/legacy/**"]

/-- The same files are found at home and elsewhere. -/
theorem agree_errand :
    home.tree.Holds home.dir project ∧ moved.tree.Holds moved.dir project ∧
      (∀ path ∈ (project.survey errand.entries).asked,
        project.Fits home.tree home.dir path ∧ project.Fits moved.tree moved.dir path) ∧
      (∀ pattern ∈ defaultIgnores ++ errand.ignore, Glob.Spares [home.dir, moved.dir] pattern) ∧
      Agree home moved errand ∧
      moved.entryPoints errand = .ok ["/now/src/App.vue", "/now/src/ui/Card.vue",
        "/now/src/ui/main.scss", "/now/node_modules/lib/C.vue"] := by
  obtain ⟨globs, hglobs⟩ : ∃ globs,
      (defaultIgnores ++ errand.ignore).mapM ignorePattern = .ok globs :=
    exists_of_isOk (by decide +kernel)
  have hhome : home.tree.Holds home.dir project := ⟨rfl, ⟨_, rfl⟩, _, rfl⟩
  have hmoved : moved.tree.Holds moved.dir project := ⟨rfl, ⟨_, rfl⟩, _, rfl⟩
  have hfits : ∀ path ∈ (project.survey errand.entries).asked,
      project.Fits home.tree home.dir path ∧ project.Fits moved.tree moved.dir path := by
    decide +kernel
  have hspares : ∀ pattern ∈ defaultIgnores ++ errand.ignore,
      Glob.Spares [home.dir, moved.dir] pattern := by
    intro pattern hpattern
    simp only [defaultIgnores, errand, List.cons_append, List.nil_append, List.mem_cons,
      List.not_mem_nil, or_false] at hpattern
    rcases hpattern with rfl | rfl | rfl | rfl
    · exact ⟨"node_modules", "**", rfl, List.all_eq_true.1 (by decide +kernel), by decide⟩
    · exact ⟨"dist", "**", rfl, List.all_eq_true.1 (by decide +kernel), by decide⟩
    · exact ⟨".git", "**", rfl, List.all_eq_true.1 (by decide +kernel), by decide⟩
    · exact ⟨"legacy", "**", rfl, List.all_eq_true.1 (by decide +kernel), by decide⟩
  have hagree : Agree home moved errand := (agree_iff hglobs hhome hmoved hfits).2 hspares
  have hfound : moved.entryPoints errand = .ok ["/now/src/App.vue", "/now/src/ui/Card.vue",
      "/now/src/ui/main.scss", "/now/node_modules/lib/C.vue"] := by
    decide +kernel
  exact ⟨hhome, hmoved, hfits, hspares, hagree, hfound⟩

end Errand

/-- Two workspaces and arguments. -/
structure Sample where
  top : Node
  arguments : Arguments
  here : Workspace
  there : Workspace

namespace Sample

/-- Two workspaces that hold the same directory, and arguments with relative entries and valid
patterns that nevertheless stand for other files in one than in the other. -/
structure IsRefutation (sample : Sample) : Prop where
  globs : ∃ globs, (defaultIgnores ++ sample.arguments.ignore).mapM ignorePattern = .ok globs
  relative : ∀ entry ∈ sample.arguments.entries, Path.isAbsolute entry = false
  here : sample.here.tree.Holds sample.here.dir sample.top
  there : sample.there.tree.Holds sample.there.dir sample.top
  differs : ¬ Agree sample.here sample.there sample.arguments

/-- Two workspaces in one tree, below its root. -/
def ofNames (top : Node) (entry here there : String) (root : List (String × Node)) : Sample where
  top
  arguments := { entries := [entry], compiler := "c.js" }
  here := ⟨⟨.directory root, "/"⟩, "/" ++ here⟩
  there := ⟨⟨.directory root, "/"⟩, "/" ++ there⟩

theorem exists_defaultGlobs : ∃ globs, (defaultIgnores ++ []).mapM ignorePattern = .ok globs :=
  exists_of_isOk (by decide +kernel)

/-- To refute the law, it is enough to know what an entry stands for in either workspace. -/
theorem isRefutation_ofNames {top : Node} {entry here there : String} {root : List (String × Node)}
    {files others : List String} (hentry : Path.isAbsolute entry = false)
    (hhere : (⟨.directory root, "/"⟩ : FileTree).Holds ("/" ++ here) top)
    (hthere : (⟨.directory root, "/"⟩ : FileTree).Holds ("/" ++ there) top)
    (hfinds : (ofNames top entry here there root).here.Finds
      (ofNames top entry here there root).arguments files)
    (hothers : (ofNames top entry here there root).there.Finds
      (ofNames top entry here there root).arguments others)
    (hne : files ≠ others) : (ofNames top entry here there root).IsRefutation where
  globs := exists_defaultGlobs
  relative := by
    intro path hpath
    obtain rfl := List.mem_singleton.1 hpath
    exact hentry
  here := hhere
  there := hthere
  differs := not_agree hhere.isAbsolute hthere.isAbsolute hfinds hothers hne

/-- A component. -/
def component : Node := .directory [("A.vue", .file [])]

/-- A directory above the workspace has a name that is always ignored. -/
def builtOutput : Sample :=
  .ofNames component "." "app" "dist" [("app", component), ("dist", component)]

/-- An entry climbs out of the workspace, to what lies beside only one of the two. -/
def climbingEntry : Sample :=
  .ofNames component "../app/A.vue" "app" "lib/b"
    [("app", component), ("lib", .directory [("b", component)])]

/-- A directory with a link that leads out of it. -/
def linking : Node := .directory [("A.vue", .file []), ("lib", .link "/lib")]

/-- A link out of one workspace leads to the other, where it leads back. -/
def linkedOut : Sample :=
  .ofNames linking "." "app" "lib" [("app", linking), ("lib", linking)]

/-- A directory with a link to itself. -/
def circling : Node := .directory [("A.vue", .file []), ("a", .link ".")]

/-- An entry leads through as many links as are allowed, and a link leads to one workspace. -/
def roundabout : Sample :=
  .ofNames circling
    "a/a/a/a/a/a/a/a/a/a/a/a/a/a/a/a/a/a/a/a/a/a/a/a/a/a/a/a/a/a/a/a/a/a/a/a/a/a/a/a/A.vue"
    "app" "now" [("app", circling), ("now", .link "app")]

/-- A path to a component that stays where it is for a while. -/
def detour : Nat → String
  | 0 => "A.vue"
  | steps + 1 => "./" ++ detour steps

/-- An entry is so long that its path is as long as is allowed, in the workspace with the shorter
name. -/
def overlong : Sample :=
  .ofNames component (detour 2042) "app" "workspace" [("app", component), ("workspace", component)]

theorem isRefutation_builtOutput : builtOutput.IsRefutation := by
  have hfinds : builtOutput.here.Finds builtOutput.arguments ["./A.vue"] :=
    ⟨by decide, by decide +kernel⟩
  have hothers : builtOutput.there.Finds builtOutput.arguments [] :=
    ⟨by decide, by decide +kernel⟩
  exact isRefutation_ofNames rfl ⟨rfl, ⟨_, rfl⟩, _, rfl⟩ ⟨rfl, ⟨_, rfl⟩, _, rfl⟩ hfinds hothers
    (by decide)

theorem isRefutation_climbingEntry : climbingEntry.IsRefutation := by
  have hfinds : climbingEntry.here.Finds climbingEntry.arguments ["../app/A.vue"] :=
    ⟨by decide, by decide +kernel⟩
  have hothers : climbingEntry.there.Finds climbingEntry.arguments [] :=
    ⟨by decide, by decide +kernel⟩
  exact isRefutation_ofNames rfl ⟨rfl, ⟨_, rfl⟩, _, rfl⟩ ⟨rfl, ⟨_, rfl⟩, _, rfl⟩ hfinds hothers
    (by decide)

theorem isRefutation_linkedOut : linkedOut.IsRefutation := by
  have hfinds : linkedOut.here.Finds linkedOut.arguments ["./A.vue", "./lib/A.vue"] :=
    ⟨by decide, by decide +kernel⟩
  have hothers : linkedOut.there.Finds linkedOut.arguments ["./A.vue"] :=
    ⟨by decide, by decide +kernel⟩
  exact isRefutation_ofNames rfl ⟨rfl, ⟨_, rfl⟩, _, rfl⟩ ⟨rfl, ⟨_, rfl⟩, _, rfl⟩ hfinds hothers
    (by decide)

theorem isRefutation_roundabout : roundabout.IsRefutation := by
  have hfinds : roundabout.here.Finds roundabout.arguments roundabout.arguments.entries :=
    ⟨by decide, by decide +kernel⟩
  have hothers : roundabout.there.Finds roundabout.arguments [] :=
    ⟨by decide, by decide +kernel⟩
  exact isRefutation_ofNames rfl ⟨rfl, ⟨_, rfl⟩, _, rfl⟩ ⟨rfl, ⟨_, rfl⟩, _, rfl⟩ hfinds hothers
    (by decide)

section Detour

theorem steps_detour (steps : Nat) :
    FileTree.steps (detour (steps + 1)) = "." :: FileTree.steps (detour steps) :=
  FileTree.steps_append_slash "." (detour steps)

theorem size_detour (steps : Nat) : (detour steps).utf8ByteSize = 2 * steps + 5 := by
  induction steps with
  | zero => rfl
  | succ steps ih =>
    rw [detour, String.utf8ByteSize_append, ih]
    have hdot : "./".utf8ByteSize = 2 := rfl
    omega

theorem nul_notMem_detour (steps : Nat) : '\x00' ∉ (detour steps).toList := by
  induction steps with
  | zero => decide
  | succ steps ih =>
    rw [detour, String.toList_append, List.mem_append, not_or]
    exact ⟨by decide, ih⟩

theorem isAbsolute_detour (steps : Nat) : Path.isAbsolute (detour steps) = false := by
  cases steps with
  | zero => rfl
  | succ steps =>
    rw [detour, Path.isAbsolute, String.toList_append]
    rfl

/-- What the path to a detour is below a directory whose path does not end in a slash. -/
theorem join_detour {dir : String} (hdir : dir.toList ≠ []) (hlast : dir.toList.getLast? ≠ some '/')
    (steps : Nat) : Path.join dir (detour steps) = dir ++ "/" ++ detour steps := by
  rw [← String.toList_inj, Path.join, String.toList_ofList,
    Path.joinText_eq_append hdir (isAbsolute_detour steps), if_neg hlast, String.toList_append,
    String.toList_append, List.append_assoc]
  rfl

theorem kind?_detour {steps : Nat} (h : steps ≤ 2042) :
    overlong.here.tree.kind? (Path.join "/app" (detour steps)) = some .file := by
  rw [join_detour (by decide) (by decide)]
  have habsolute : Path.isAbsolute ("/app" ++ "/" ++ detour steps) := by
    rw [Path.isAbsolute, String.append_assoc, String.toList_append]
    rfl
  have hnul : '\x00' ∉ ("/app" ++ "/" ++ detour steps).toList := by
    rw [String.toList_append, List.mem_append, not_or]
    exact ⟨by decide, nul_notMem_detour steps⟩
  have hsize : ("/app" ++ "/" ++ detour steps).utf8ByteSize ≤ FileTree.maxPathBytes := by
    have hfront : ("/app" ++ "/").utf8ByteSize = 5 := rfl
    rw [String.utf8ByteSize_append, hfront, size_detour, FileTree.maxPathBytes]
    omega
  have hwalk : overlong.here.tree.walk true FileTree.maxLinks ["app"]
      (FileTree.steps (detour steps)) = .ok ⟨["app", "A.vue"], some (.file [])⟩ := by
    clear h habsolute hnul hsize
    induction steps with
    | zero => rfl
    | succ steps ih =>
      rw [steps_detour]
      exact ih
  have hfind : overlong.here.tree.find ("/app" ++ "/" ++ detour steps) =
      .ok (["app", "A.vue"], .file []) := by
    rw [FileTree.find_eq_ok, FileTree.locate_of_isAbsolute habsolute hnul hsize,
      FileTree.steps_append_slash]
    exact hwalk
  rw [FileTree.kind?, hfind]

theorem kind?_detour_eq_none {steps : Nat} (h : 2042 ≤ steps) :
    overlong.there.tree.kind? (Path.join "/workspace" (detour steps)) = none := by
  rw [join_detour (by decide) (by decide)]
  cases hfind : overlong.there.tree.find ("/workspace" ++ "/" ++ detour steps) with
  | error failure => rw [FileTree.kind?, hfind]
  | ok found =>
    have hsize := FileTree.le_of_find hfind
    have hfront : ("/workspace" ++ "/").utf8ByteSize = 11 := rfl
    rw [String.utf8ByteSize_append, hfront, size_detour, FileTree.maxPathBytes] at hsize
    omega

theorem isRefutation_overlong : overlong.IsRefutation := by
  obtain ⟨globs, hglobs⟩ := exists_defaultGlobs
  have hrelative := isAbsolute_detour 2042
  have hfinds : overlong.here.Finds overlong.arguments [detour 2042] :=
    finds_of_kind? hglobs rfl hrelative (.inl ⟨kind?_detour (Nat.le_refl 2042), rfl⟩)
  have hothers : overlong.there.Finds overlong.arguments [] :=
    finds_of_kind? hglobs rfl hrelative (.inr ⟨kind?_detour_eq_none (Nat.le_refl 2042), rfl⟩)
  exact isRefutation_ofNames hrelative ⟨rfl, ⟨_, rfl⟩, _, rfl⟩ ⟨rfl, ⟨_, rfl⟩, _, rfl⟩ hfinds
    hothers (List.cons_ne_nil _ _)

end Detour

/-- None of the conditions on ignored patterns, on what leads out of a workspace and on the limits
of the system can be left out. -/
theorem isRefutation_workspaces :
    [builtOutput, climbingEntry, linkedOut, roundabout, overlong].Forall IsRefutation :=
  ⟨isRefutation_builtOutput, isRefutation_climbingEntry, isRefutation_linkedOut,
    isRefutation_roundabout, isRefutation_overlong⟩

end Sample

end Workspace

end SfcBundler
