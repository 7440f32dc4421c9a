import SfcBundler.Files.Failure
import SfcBundler.Text.Utf8

/-!
# Access to files

What the library asks of a file system, as operations of a monad. A program runs on the real
file system, a test or a proof on a `FileTree`.

## Main definitions

* `DirectoryEntry.byName`: entries of a directory in the order of their names
* `MonadFiles`: the operations
* `Files.readText`: a file read as UTF-8
* `Cell`: one remembered value

## Main results

* `DirectoryEntry.byName_perm`, `DirectoryEntry.pairwise_byName`: no entry is lost or doubled, and
  the names are in order
-/

namespace SfcBundler

/-- What an existing path leads to. -/
inductive EntryKind where
  | file
  | directory
deriving Repr, DecidableEq

/-- A name in a directory, and whether it is a symbolic link itself. -/
structure DirectoryEntry where
  name : String
  isLink : Bool
deriving Repr, DecidableEq

namespace DirectoryEntry

/-- Entries in the order of their names with one more put in. -/
def insert (entry : DirectoryEntry) : List DirectoryEntry → List DirectoryEntry
  | [] => [entry]
  | other :: rest =>
    if other.name < entry.name then other :: insert entry rest else entry :: other :: rest

/-- Entries in the order of their names, whatever the order in which a file system lists them. -/
def byName (entries : List DirectoryEntry) : List DirectoryEntry := entries.foldr insert []

theorem insert_perm (entry : DirectoryEntry) (entries : List DirectoryEntry) :
    (insert entry entries).Perm (entry :: entries) := by
  induction entries with
  | nil => exact .refl _
  | cons other rest ih =>
    rw [insert]
    split
    · exact (ih.cons other).trans (.swap entry other rest)
    · exact .refl _

theorem byName_perm (entries : List DirectoryEntry) : (byName entries).Perm entries := by
  induction entries with
  | nil => exact .refl _
  | cons entry rest ih => exact (insert_perm entry (byName rest)).trans (ih.cons entry)

@[simp]
theorem mem_byName {entries : List DirectoryEntry} {entry : DirectoryEntry} :
    entry ∈ byName entries ↔ entry ∈ entries :=
  (byName_perm entries).mem_iff

theorem pairwise_insert {entries : List DirectoryEntry}
    (h : entries.Pairwise fun one other => one.name ≤ other.name) (entry : DirectoryEntry) :
    (insert entry entries).Pairwise fun one other => one.name ≤ other.name := by
  induction entries with
  | nil => exact List.pairwise_singleton _ _
  | cons other rest ih =>
    obtain ⟨hfirst, hrest⟩ := List.pairwise_cons.1 h
    rw [insert]
    split
    · rename_i hless
      refine List.pairwise_cons.2 ⟨fun found hfound => ?_, ih hrest⟩
      rcases List.mem_cons.1 ((insert_perm entry rest).mem_iff.1 hfound) with rfl | hfound
      · exact String.lt_asymm hless
      · exact hfirst found hfound
    · rename_i hless
      refine List.pairwise_cons.2 ⟨fun found hfound => ?_, h⟩
      rcases List.mem_cons.1 hfound with rfl | hfound
      · exact hless
      · exact String.le_trans hless (hfirst found hfound)

/-- Entries by name are in order. -/
theorem pairwise_byName (entries : List DirectoryEntry) :
    (byName entries).Pairwise fun one other => one.name ≤ other.name := by
  induction entries with
  | nil => exact .nil
  | cons entry rest ih => exact pairwise_insert ih entry

end DirectoryEntry

/-- Operations on files. All but `entries` follow symbolic links. -/
class MonadFiles (m : Type → Type) where
  /-- The bytes of a file. -/
  readBytes : String → m (Except IoFailure (List UInt8))
  /-- The absolute path behind all links. -/
  canonical : String → m (Except IoFailure String)
  /-- What a path leads to, if it leads anywhere. -/
  kind? : String → m (Option EntryKind)
  /-- The names in a directory, in any order. -/
  entries : String → m (Except IoFailure (List DirectoryEntry))
  /-- Create a directory and those above it. -/
  createDirectories : String → m (Except IoFailure Unit)
  /-- Copy a file over another. -/
  copyFile : String → String → m (Except IoFailure Unit)
  /-- The directory that relative paths are seen from. -/
  workingDir : m String
  /-- The directory that the running program lies in. -/
  programDir : m String

namespace Files

/-- The text of a file. -/
def readText {m : Type → Type} [Monad m] [MonadFiles m] (path : String) :
    m (Except IoFailure String) := do
  match ← MonadFiles.readBytes path with
  | .error failure => return .error failure
  | .ok bytes =>
    match Utf8.decode? bytes with
    | some text => return .ok (String.ofList text)
    | none => return .error .notText

/-- Whether a path leads to a file. -/
def isFile {m : Type → Type} [Monad m] [MonadFiles m] (path : String) : m Bool := do
  return (← MonadFiles.kind? path) == some .file

/-- Whether a path leads anywhere. -/
def exists? {m : Type → Type} [Monad m] [MonadFiles m] (path : String) : m Bool := do
  return (← MonadFiles.kind? path).isSome

end Files

/-- A place in the state of `m` that holds one value. -/
structure Cell (m : Type → Type) (α : Type) where
  get : m α
  set : α → m Unit

end SfcBundler
