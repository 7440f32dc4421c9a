import SfcBundler.Command.Run

/-!
# The program

The outer layer: the real file system, the clock and the standard streams.

## Main definitions

* `main`: a run of the command line
-/

namespace SfcBundler.Session

/-- A failure of the system as one of the library's causes. -/
def failure (error : IO.Error) : IoFailure :=
  match error with
  | .noFileOrDirectory .. => .notFound
  | .alreadyExists .. => .alreadyExists
  | .inappropriateType _ 20 _ => .notDirectory
  | .inappropriateType _ 21 _ => .isDirectory
  | .invalidArgument _ 36 _ => .nameTooLong
  | .invalidArgument _ 40 _ => .tooManyLinks
  | other => .other (toString other)

/-- The outcome of an operation of the system. -/
def attempt {α : Type} (operation : IO α) : IO (Except IoFailure α) := do
  try return .ok (← operation) catch error => return .error (failure error)

/-- What a path leads to. -/
def kind? (path : String) : IO (Option EntryKind) := do
  match ← attempt (System.mkFilePath [path]).metadata with
  | .ok metadata => return match metadata.type with
    | .file => some .file
    | .dir => some .directory
    | _ => none
  | .error _ => return none

/-- The names in a directory. -/
def entries (path : String) : IO (List DirectoryEntry) := do
  let names ← (System.mkFilePath [path]).readDir
  names.toList.mapM fun entry => do
    let metadata ← (System.mkFilePath [path, entry.fileName]).symlinkMetadata
    return { name := entry.fileName
             isLink := match metadata.type with | .symlink => true | _ => false }

/-- Copy a file over another. The target is emptied before the source is read. -/
def copyFile (source target : String) : IO (Except IoFailure Unit) := do
  match ← kind? source with
  | some .directory => return .error .irregularSource
  | _ => attempt do
    let _ ← IO.FS.readBinFile (System.mkFilePath [source])
    IO.FS.writeBinFile (System.mkFilePath [target]) .empty
    let bytes ← IO.FS.readBinFile (System.mkFilePath [source])
    IO.FS.writeBinFile (System.mkFilePath [target]) bytes

instance : MonadFiles IO where
  readBytes path := do
    match ← kind? path with
    | some .directory => return .error .isDirectory
    | _ => attempt do return (← IO.FS.readBinFile (System.mkFilePath [path])).toList
  canonical path := attempt do
    let _ ← (System.mkFilePath [path]).metadata
    return (← IO.FS.realPath (System.mkFilePath [path])).toString
  kind? := kind?
  entries path := attempt (entries path)
  createDirectories path := attempt (IO.FS.createDirAll (System.mkFilePath [path]))
  copyFile := copyFile
  workingDir := do return (← IO.currentDir).toString
  programDir := do return Path.parentDir (← IO.appPath).toString

/-- A new cell. -/
def cell {α : Type} (value : α) : IO (Cell IO α) := do
  let reference ← IO.mkRef value
  return { get := reference.get, set := reference.set }

/-- Write what a run leaves behind. -/
def write (outcome : CommandOutcome) : IO UInt32 := do
  IO.print (Report.text outcome.output)
  match outcome.complaint with
  | some complaint => IO.eprintln complaint
  | none => pure ()
  return outcome.exitCode.toUInt32

/-- When each entry point was changed last. -/
def changes (config : WorkspaceConfig) : IO (List (String × IO.FS.SystemTime)) := do
  (← config.findEntries).mapM fun path => do
    return (path, (← (System.mkFilePath [path]).metadata).modified)

/-- Build again whenever an entry point has changed. -/
partial def watch (build : Build IO) (config : WorkspaceConfig) (arguments : Arguments)
    (seen : List (String × IO.FS.SystemTime)) : IO UInt32 := do
  IO.sleep 500
  let now ← try changes config catch _ => pure seen
  if now != seen then
    let _ ← write (← Command.buildEntries build config arguments IO.monoMsNow)
  watch build config arguments now

/-- Run a command line; with the watch flag the run goes on. -/
def run (texts : List String) : IO UInt32 := do
  let pool ← cell (⟨[]⟩ : Pool)
  let aliases ← cell ({} : AliasSet)
  let defaultCompiler ← IO.getEnv "SFC_COMPILER_JS"
  match Arguments.parse texts defaultCompiler with
  | .error reason => write (Command.stopped reason)
  | .ok arguments =>
    if arguments.watch then
      match ← Command.prepare pool aliases arguments with
      | .error failure => write (Command.failed failure)
      | .ok (build, config) =>
        let seen ← try changes config catch _ => pure []
        let _ ← write (← Command.buildEntries build config arguments IO.monoMsNow)
        watch build config arguments seen
    else write (← Command.carryOut pool aliases IO.monoMsNow arguments)

end SfcBundler.Session

/-- Run the command line. -/
def main (texts : List String) : IO UInt32 := SfcBundler.Session.run texts
