import SfcBundler.Build.Options
import SfcBundler.Json.Comments
import SfcBundler.Path
import SfcBundler.Plugin.Failure

/-!
# Path aliases

A project's `tsconfig` may name places of the project by aliases: the entry `"@/*": ["src/*"]` of
`compilerOptions.paths` stands for every specifier that starts with `@/`. Only the first target
of an entry counts, and entries of another form are passed over.

## Main definitions

* `Alias`, `Alias.expand?`: one entry, and what it makes of a specifier
* `AliasSet`, `AliasSet.apply`: all entries, the most specific first
* `AliasSet.parse`: the entries of a text
* `AliasSet.ofBuildOptions`: the entries that the build options name
-/

namespace SfcBundler

/-- An alias. One with a wildcard stands for all specifiers that start with its stem, which is
exchanged for the target; another stands for the specifier that is its stem. -/
structure Alias where
  stem : String
  target : String
  wildcard : Bool
deriving Repr, DecidableEq

namespace Alias

/-- The text without the stars at its end. -/
def unstarred (text : String) : String := String.ofList (Text.dropEnd '*' text.toList)

/-- The alias of a pattern and its target, seen from a base directory. -/
def ofEntry (base pattern target : String) : Alias :=
  let wildcard := pattern.toList.getLast? == some '*'
  let target := Path.absolutize target base
  { stem := unstarred pattern
    target := if wildcard then unstarred target else target
    wildcard }

/-- What an alias makes of a specifier, if it stands for it. -/
def expand? (entry : Alias) (specifier : String) : Option String :=
  if entry.wildcard then
    (entry.stem.toList.isPrefixOf? specifier.toList).map fun rest =>
      entry.target ++ String.ofList rest
  else if specifier = entry.stem then some entry.target
  else none

/-- Whether an alias is at least as specific as another: its stem has more bytes, or as many and
it is not the only one of the two without a wildcard. -/
def atLeast (one other : Alias) : Bool :=
  other.stem.utf8ByteSize < one.stem.utf8ByteSize ||
    (other.stem.utf8ByteSize = one.stem.utf8ByteSize && (one.wildcard || !other.wildcard))

end Alias

/-- Aliases, the most specific first. -/
structure AliasSet where
  aliases : List Alias := []
deriving Repr, DecidableEq

namespace AliasSet

/-- What the first fitting alias makes of a specifier; without one it stays as it is. -/
def apply (set : AliasSet) (specifier : String) : String :=
  (set.aliases.findSome? (·.expand? specifier)).getD specifier

/-- The aliases in the fields of a `paths` object. -/
def ofPaths (base : String) (paths : List (String × Json)) : List Alias :=
  paths.filterMap fun (pattern, targets) => do
    let target ← (← (← targets.items?).head?).text?
    return .ofEntry base pattern target

/-- The aliases of a configuration. -/
def ofConfig (base : String) (config : Json) : AliasSet :=
  match (config.field? "compilerOptions").bind (·.field? "paths") with
  | some (.object paths) => ⟨(ofPaths base paths).mergeSort Alias.atLeast⟩
  | _ => {}

/-- The aliases of a configuration's text, which may hold comments. Targets are seen from a base
directory. -/
def parse (text base : String) : Except ConfigError AliasSet :=
  match Json.parseText (Json.stripComments text.toList) with
  | .ok config => .ok (ofConfig base config)
  | .error error => .error (.tsconfig error)

/-- The aliases that build options name. A configuration given as text counts before one in a
file. Targets in a text are seen from the working directory, or else from the directory of the
program; targets in a file from the file's own directory. -/
def ofBuildOptions {m : Type → Type} [Monad m] [MonadFiles m] (options : BuildOptions) :
    m (Except PluginError AliasSet) := do
  match options.tsconfigText.filter (· ≠ ""), options.tsconfig with
  | some text, _ =>
    let base ← match options.workingDir with
      | some dir => pure dir
      | none => MonadFiles.programDir
    return (parse text base).mapError .config
  | none, some path =>
    match ← Files.readText path with
    | .error failure => return .error (.unreadable path failure)
    | .ok text =>
      let base := Path.parentDir (Path.absolutize path (← options.baseDir))
      return (parse text base).mapError .config
  | none, none => return .ok {}

end AliasSet

end SfcBundler
