import SfcBundler.Files.Access
import SfcBundler.Path

/-!
# File trees

A file system held in memory: directories with named entries, files with bytes, and symbolic
links. Paths are followed step by step, links included, with the limits of a common system.

## Main definitions

* `Node`, `FileTree`: the tree, and a tree with a working directory
* `FileTree.locate`: the place that a path leads to
* `FileTree.readBytes`, `FileTree.canonical`, `FileTree.kind?`, `FileTree.entries`: reading
* `FileTree.write`, `FileTree.createDirectories`, `FileTree.copyFile`, `FileTree.remove`: changing
* `FileTree.monadFiles`: a state monad over a state with a tree in it has file operations
-/

namespace SfcBundler

/-- An entry of a file tree. -/
inductive Node where
  | file (bytes : List UInt8)
  | link (target : String)
  | directory (entries : List (String × Node))

namespace Node

/-- The entries of a directory by name; no others. -/
def entries : Node → List (String × Node)
  | directory entries => entries
  | _ => []

/-- The entry of a directory with a name. -/
def child? (node : Node) (name : String) : Option Node := node.entries.lookup name

/-- The node below `node` at a place, links not followed. -/
def at? (node : Node) : List String → Option Node
  | [] => some node
  | name :: rest => (node.child? name).bind fun child => child.at? rest

/-- Entries with one put in under its name, in the order of names. -/
def insertEntry (name : String) (node : Node) : List (String × Node) → List (String × Node)
  | [] => [(name, node)]
  | (other, old) :: rest =>
    if name = other then (name, node) :: rest
    else if name < other then (name, node) :: (other, old) :: rest
    else (other, old) :: insertEntry name node rest

/-- The tree with the node at a place replaced, or taken away where `new` is `none`. Missing
directories on the way are made. -/
def replace (node : Node) (new : Option Node) : List String → Node
  | [] => new.getD node
  | [name] =>
    match new with
    | some child => directory (insertEntry name child node.entries)
    | none => directory (node.entries.filter fun entry => entry.1 != name)
  | name :: next :: rest =>
    let child := (node.child? name).getD (directory [])
    directory (insertEntry name (child.replace new (next :: rest)) node.entries)

end Node

/-- A file system in memory: the root directory and the place of the working directory. -/
structure FileTree where
  root : Node
  workingDir : String

namespace FileTree

/-- How many links a path may lead through. -/
def maxLinks : Nat := 40

/-- How many bytes a segment may have. -/
def maxNameBytes : Nat := 255

/-- How many bytes a path may have. -/
def maxPathBytes : Nat := 4095

/-- Where a path leads: a place from the root, with the node there unless its name is free. -/
structure Located where
  place : List String
  node : Option Node

/-- The segments of a path's text. -/
def steps (path : String) : List String :=
  (Text.fields '/' path.toList).map String.ofList

/-- Follow steps from a place whose node is a directory, up to the first link, which `jump` takes
from: it is given the place where the link's target begins, and all steps still to take. The last
step's own link is followed only if `follow`. -/
def walkSteps (tree : FileTree) (follow : Bool)
    (jump : List String → List String → Except IoFailure Located) (place : List String) :
    List String → Except IoFailure Located
  | [] => .ok ⟨place, tree.root.at? place⟩
  | step :: rest =>
    if step = "" || step = "." then tree.walkSteps follow jump place rest
    else if step = ".." then tree.walkSteps follow jump place.dropLast rest
    else if step.utf8ByteSize > maxNameBytes then .error .nameTooLong
    else match (tree.root.at? place).bind (·.child? step) with
      | none => if rest.isEmpty then .ok ⟨place ++ [step], none⟩ else .error .notFound
      | some (.directory _) => tree.walkSteps follow jump (place ++ [step]) rest
      | some (.file bytes) =>
        if rest.isEmpty then .ok ⟨place ++ [step], some (.file bytes)⟩ else .error .notDirectory
      | some (.link target) =>
        if rest.isEmpty && !follow then .ok ⟨place ++ [step], some (.link target)⟩
        else jump (if Path.isAbsolute target then [] else place) (steps target ++ rest)

/-- Follow steps from a place whose node is a directory. `links` more links may be followed, the
last step's own link only if `follow`. -/
def walk (tree : FileTree) (follow : Bool) :
    Nat → List String → List String → Except IoFailure Located
  | 0 => tree.walkSteps follow fun _ _ => .error .tooManyLinks
  | links + 1 => tree.walkSteps follow (tree.walk follow links)

/-- The place that a path leads to; a link at its end is followed only if `follow`. -/
def locate (tree : FileTree) (path : String) (follow : Bool) : Except IoFailure Located :=
  if path.toList.contains '\x00' then .error .nulInName
  else if path.isEmpty then .error .notFound
  else if path.utf8ByteSize > maxPathBytes then .error .nameTooLong
  else
    let start := if Path.isAbsolute path then "" else tree.workingDir
    tree.walk follow maxLinks [] (steps start ++ steps path)

/-- The place and node that a path leads to, which must exist. -/
def find (tree : FileTree) (path : String) : Except IoFailure (List String × Node) := do
  let located ← tree.locate path true
  match located.node with
  | some node => return (located.place, node)
  | none => throw .notFound

/-- The text of a place. -/
def placeText (place : List String) : String := "/" ++ "/".intercalate place

/-- The bytes of a file. -/
def readBytes (tree : FileTree) (path : String) : Except IoFailure (List UInt8) := do
  match (← tree.find path).2 with
  | .file bytes => return bytes
  | _ => throw .isDirectory

/-- The path behind all links. -/
def canonical (tree : FileTree) (path : String) : Except IoFailure String := do
  return placeText (← tree.find path).1

/-- What a path leads to. -/
def kind? (tree : FileTree) (path : String) : Option EntryKind :=
  match tree.find path with
  | .ok (_, .file _) => some .file
  | .ok (_, .directory _) => some .directory
  | _ => none

/-- The names in a directory. -/
def entries (tree : FileTree) (path : String) : Except IoFailure (List DirectoryEntry) := do
  match (← tree.find path).2 with
  | .directory entries => return entries.map fun (name, node) =>
      { name, isLink := match node with | .link _ => true | _ => false }
  | _ => throw .notDirectory

/-- The tree with the node at a place replaced or taken away. -/
def replaceAt (tree : FileTree) (place : List String) (new : Option Node) : FileTree :=
  { tree with root := tree.root.replace new place }

/-- Create one directory, whose parent must exist and whose name must be free. -/
def createDirectory (tree : FileTree) (path : String) : Except IoFailure FileTree := do
  let located ← tree.locate path false
  match located.node with
  | some _ => throw .alreadyExists
  | none => return tree.replaceAt located.place (some (.directory []))

/-- The outcome of creating a directory, where one that is there already will do. -/
def settled (tree : FileTree) (path : String) (failure : IoFailure) : Except IoFailure FileTree :=
  if tree.kind? path = some .directory then .ok tree else .error failure

/-- Create a directory after those above it, at most `levels` of them. -/
def createLevels (tree : FileTree) (path : String) : Nat → Except IoFailure FileTree
  | 0 => .error .notFound
  | levels + 1 =>
    match tree.createDirectory path with
    | .ok tree => .ok tree
    | .error .notFound =>
      match Path.parent? path with
      | none | some "" => .error .notFound
      | some parent => do
        let tree ← tree.createLevels parent levels
        match tree.createDirectory path with
        | .ok tree => .ok tree
        | .error failure => tree.settled path failure
    | .error failure => tree.settled path failure

/-- Create a directory and those above it. -/
def createDirectories (tree : FileTree) (path : String) : Except IoFailure FileTree :=
  tree.createLevels path (path.length + 1)

/-- Write a file, over an old one if there is one. -/
def write (tree : FileTree) (path : String) (bytes : List UInt8) : Except IoFailure FileTree := do
  let located ← tree.locate path true
  match located.node with
  | some (.directory _) => throw .isDirectory
  | _ => return tree.replaceAt located.place (some (.file bytes))

/-- Copy a file over another. The target is emptied before the source is read, so a file copied
over itself is left empty. -/
def copyFile (tree : FileTree) (source target : String) : Except IoFailure FileTree := do
  let (place, node) ← tree.find source
  match node with
  | .file bytes =>
    let emptied ← tree.write target []
    let same := match emptied.find target with
      | .ok (targetPlace, _) => targetPlace == place
      | .error _ => false
    emptied.write target (if same then [] else bytes)
  | _ => throw .irregularSource

/-- Take away the file, link or directory at a path, if there is one. -/
def remove (tree : FileTree) (path : String) : FileTree :=
  match tree.locate path false with
  | .ok located => tree.replaceAt located.place none
  | .error _ => tree

/-- Put a node at a path, after the directories above it; a path that is refused changes
nothing. -/
def put (tree : FileTree) (path : String) (node : Node) : FileTree :=
  let tree := match tree.createDirectories (Path.parentDir path) with
    | .ok created => created
    | .error _ => tree
  match tree.locate path (match node with | .file _ => true | _ => false) with
  | .ok located => tree.replaceAt located.place (some node)
  | .error _ => tree

/-- A state that holds a file tree gives its state monad the file operations. -/
@[reducible]
def monadFiles {σ : Type} (tree : σ → FileTree) (setTree : FileTree → σ → σ) :
    MonadFiles (StateM σ) where
  readBytes path := do return (tree (← get)).readBytes path
  canonical path := do return (tree (← get)).canonical path
  kind? path := do return (tree (← get)).kind? path
  entries path := do return (tree (← get)).entries path
  createDirectories path := do
    match (tree (← get)).createDirectories path with
    | .ok changed => modify (setTree changed); return .ok ()
    | .error failure => return .error failure
  copyFile source target := do
    match (tree (← get)).copyFile source target with
    | .ok changed => modify (setTree changed); return .ok ()
    | .error failure => return .error failure
  workingDir := do return (tree (← get)).workingDir
  programDir := return "/"

end FileTree

end SfcBundler
