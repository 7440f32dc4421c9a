import SfcBundler.Plugin.Alias
import SfcBundler.Proofs.Files.Ways
import SfcBundler.Proofs.Path.Canonical

/-!
# Where aliases are read

A configuration that is named by a relative path is read from the directory of the process, while
the targets in it are seen from where the path leads in the working directory of the build. The two
are one directory only where the path names the same file in both.

## Main definitions

* `FileTree.readText`: the text of a file
* `AliasSet.ofFile`: the aliases of a file that was read, or was not
* `AliasSet.ReadsApart`: where aliases come from that are named by a relative path, and by the same
  path made absolute

## Main results

* `FileTree.readText_relative`: a relative path is one below the directory of the process
* `AliasSet.readsApart`: what a relative path for a configuration gives
-/

namespace SfcBundler

namespace FileTree

/-- The text of a file. -/
def readText (files : FileTree) (path : String) : Except IoFailure String := do
  match Utf8.decode? (← files.readBytes path) with
  | some text => return String.ofList text
  | none => throw .notText

/-- A path that the system follows: not too long, and without a character that no name holds. -/
structure Follows (path : String) : Prop where
  nul : '\x00' ∉ path.toList
  size : path.utf8ByteSize ≤ maxPathBytes

variable {files : FileTree} {path : String}

/-- A relative path leads where it leads below the working directory. -/
theorem locate_relative (hdir : Path.isAbsolute files.workingDir) (hne : path ≠ "")
    (hpath : Path.isAbsolute path = false) (hfollows : Follows (files.workingDir ++ "/" ++ path)) :
    files.locate path true = files.locate (files.workingDir ++ "/" ++ path) true := by
  have habsolute : Path.isAbsolute (files.workingDir ++ "/" ++ path) := by
    rw [Path.isAbsolute, String.toList_append, String.toList_append, List.append_assoc,
      Path.isAbsoluteText_append (Path.ne_nil_of_isAbsoluteText hdir)]
    exact hdir
  have hnul : '\x00' ∉ path.toList := fun hmem => hfollows.nul (by simp [hmem])
  have hsize : path.utf8ByteSize ≤ maxPathBytes := by
    have hsize := hfollows.size
    rw [String.utf8ByteSize_append] at hsize
    omega
  rw [locate_of_isAbsolute habsolute hfollows.nul hfollows.size, steps_append_slash, locate,
    if_neg (by simpa using hnul), if_neg (by simpa using hne), if_neg (by omega),
    if_neg (by simp [hpath])]

theorem readText_relative (hdir : Path.isAbsolute files.workingDir) (hne : path ≠ "")
    (hpath : Path.isAbsolute path = false) (hfollows : Follows (files.workingDir ++ "/" ++ path)) :
    files.readText path = files.readText (files.workingDir ++ "/" ++ path) := by
  simp only [readText, readBytes, find, locate_relative hdir hne hpath hfollows]

end FileTree

namespace AliasSet

open SfcBundler.Path (absolutize parentDir)

/-- The aliases of a file whose text was read or was not, with targets seen from a directory. -/
def ofFile (path base : String) : Except IoFailure String → Except PluginError AliasSet
  | .ok text => (parse text base).mapError .config
  | .error failure => .error (.unreadable path failure)

/-- The file is read the same wherever it is said to be, up to what is said of a failure. -/
theorem mapError_code_ofFile (path other base : String) (read : Except IoFailure String) :
    (ofFile path base read).mapError PluginError.code =
      (ofFile other base read).mapError PluginError.code := by
  cases read <;> rfl

section Run

variable {σ : Type} (tree : σ → FileTree) (setTree : FileTree → σ → σ) (state : σ)

theorem readText_run (path : String) :
    letI := FileTree.monadFiles tree setTree
    (Files.readText path : StateM σ _).run state = ((tree state).readText path, state) := by
  let files := FileTree.monadFiles tree setTree
  have hbytes : (MonadFiles.readBytes path : StateM σ _).run state =
      ((tree state).readBytes path, state) := rfl
  rw [Files.readText, StateT.run_bind, hbytes, FileTree.readText]
  cases (tree state).readBytes path with
  | error failure => rfl
  | ok bytes =>
    dsimp only [bind, Id.run, Except.bind]
    cases Utf8.decode? bytes <;> rfl

/-- What build options give that name a file and hold no text. -/
theorem ofBuildOptions_run {options : BuildOptions} {dir : String}
    (htext : options.tsconfigText.filter (· ≠ "") = none) (hdir : options.workingDir = some dir)
    (path : String) :
    letI := FileTree.monadFiles tree setTree
    (ofBuildOptions { options with tsconfig := some path } : StateM σ _).run state =
      (ofFile path (parentDir (absolutize path dir)) ((tree state).readText path), state) := by
  let files := FileTree.monadFiles tree setTree
  have hread := readText_run tree setTree state path
  rw [ofBuildOptions]
  dsimp only
  rw [htext]
  dsimp only
  rw [StateT.run_bind, hread]
  dsimp only [bind, Id.run]
  cases (tree state).readText path with
  | error failure => rfl
  | ok text =>
    rw [BuildOptions.baseDir]
    dsimp only
    rw [hdir]
    rfl

end Run

/-- Where aliases come from if a relative path names them: `relative` is what the path gives, and
`absolute` what it gives if it is first made absolute in the working directory of the build. Targets
are seen from the same directory in both, but the relative path is read below the directory of the
process. The two are alike where the same is read in both places. -/
structure ReadsApart (files : FileTree) (dir path : String)
    (relative absolute : Except PluginError AliasSet) : Prop where
  relative_eq :
    relative = ofFile path (parentDir (absolutize path dir)) (files.readText path)
  absolute_eq : absolute = ofFile (absolutize path dir) (parentDir (absolutize path dir))
    (files.readText (absolutize path dir))
  place : Path.isAbsolute files.workingDir → path ≠ "" →
    FileTree.Follows (files.workingDir ++ "/" ++ path) →
    files.readText path = files.readText (files.workingDir ++ "/" ++ path)
  alike : files.readText path = files.readText (absolutize path dir) →
    relative.mapError PluginError.code = absolute.mapError PluginError.code

/-- A relative path for a configuration stands for one file when it is read, and for another when
targets are seen from its directory. -/
theorem readsApart {σ : Type} (tree : σ → FileTree) (setTree : FileTree → σ → σ) (state : σ)
    {options : BuildOptions} {dir path : String}
    (htext : options.tsconfigText.filter (· ≠ "") = none) (hdir : options.workingDir = some dir)
    (habsolute : Path.isAbsolute dir) (hrelative : Path.isAbsolute path = false) :
    letI := FileTree.monadFiles tree setTree
    ReadsApart (tree state) dir path
      ((ofBuildOptions { options with tsconfig := some path } : StateM σ _).run state).1
      ((ofBuildOptions { options with tsconfig := some (absolutize path dir) } :
        StateM σ _).run state).1 := by
  -- the absolute path is seen from the same directory, wherever it is read
  have hagain : absolutize (absolutize path dir) dir = absolutize path dir :=
    Path.absolutize_of_isRooted (Path.isRooted_absolutize path habsolute) dir
  rw [ofBuildOptions_run tree setTree state htext hdir path,
    ofBuildOptions_run tree setTree state htext hdir (absolutize path dir), hagain]
  dsimp only
  refine ⟨rfl, rfl, fun hprocess hne hfollows => ?_, fun hread => ?_⟩
  · exact FileTree.readText_relative hprocess hne hrelative hfollows
  · rw [hread]
    exact mapError_code_ofFile path (absolutize path dir) _ _

/-- A process at the root, and a project below it. -/
def beside : FileTree where
  root := .directory [("app", .directory [("tsconfig.json", .file [0x7b, 0x7d])])]
  workingDir := "/"

/-- The options of the project, but for the configuration. -/
def besideOptions : BuildOptions := { workingDir := some "/app" }

/-- What the project gives when its configuration has a path. -/
def besideNamed (path : String) : Except PluginError AliasSet :=
  letI := FileTree.monadFiles id fun (files : FileTree) _ => files
  ((ofBuildOptions { besideOptions with tsconfig := some path } :
    StateM FileTree _).run beside).1

/-- The configuration in the working directory of the build is not found from the root. -/
theorem readsApart_beside :
    besideOptions.tsconfigText.filter (· ≠ "") = none ∧ besideOptions.workingDir = some "/app" ∧
    Path.isAbsolute "/app" ∧ Path.isAbsolute "tsconfig.json" = false ∧
    ReadsApart beside "/app" "tsconfig.json" (besideNamed "tsconfig.json")
      (besideNamed (absolutize "tsconfig.json" "/app")) ∧
    besideNamed "tsconfig.json" = .error (.unreadable "tsconfig.json" .notFound) ∧
    besideNamed (absolutize "tsconfig.json" "/app") = .ok {} := by
  have htext : besideOptions.tsconfigText.filter (· ≠ "") = none := rfl
  have hdir : besideOptions.workingDir = some "/app" := rfl
  have habsolute : Path.isAbsolute "/app" := by decide
  have hrelative : Path.isAbsolute "tsconfig.json" = false := by decide
  have hreads : ReadsApart beside "/app" "tsconfig.json" (besideNamed "tsconfig.json")
      (besideNamed (absolutize "tsconfig.json" "/app")) :=
    readsApart id (fun files _ => files) beside htext hdir habsolute hrelative
  have hplace : absolutize "tsconfig.json" "/app" = "/app/tsconfig.json" := by decide +kernel
  have hmissing : beside.readText "tsconfig.json" = .error .notFound := by rfl
  have hfound : beside.readText "/app/tsconfig.json" = .ok "\x7b\x7d" := by rfl
  refine ⟨htext, hdir, habsolute, hrelative, hreads, ?_, ?_⟩
  · rw [hreads.relative_eq, hmissing]
    rfl
  · rw [hreads.absolute_eq, hplace, hfound]
    rfl

end AliasSet

end SfcBundler
