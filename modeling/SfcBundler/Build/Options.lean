import SfcBundler.Files.Access

/-!
# Build options

## Main definitions

* `Define`: replacements of global identifiers, in the order in which they were first set
* `SourceMapMode`, `BuildOptions`
* `BuildOptions.baseDir`: the working directory of a build

## Main results

* `Define.get?_set`, `Define.get?_setDefault`: what a look-up finds after a setting
-/

namespace SfcBundler

/-- Replacements of global identifiers, each key once. -/
abbrev Define := List (String × String)

namespace Define

/-- The replacement of a key. -/
def get? (define : Define) (key : String) : Option String := define.lookup key

/-- The replacements with one set; a key that is there keeps its place. -/
def set (define : Define) (key value : String) : Define :=
  match define with
  | [] => [(key, value)]
  | (other, old) :: rest =>
    if key = other then (other, value) :: rest else (other, old) :: set rest key value

/-- The replacements with one set unless its key is there. -/
def setDefault (define : Define) (key value : String) : Define :=
  if (define.get? key).isSome then define else define.set key value

/-- The replacements that pairs give one after the other. -/
def ofPairs (pairs : List (String × String)) : Define :=
  pairs.foldl (fun define pair => define.set pair.1 pair.2) []

@[simp]
theorem get?_nil (key : String) : get? [] key = none := rfl

theorem get?_cons (other old : String) (rest : Define) (key : String) :
    get? ((other, old) :: rest) key = if key = other then some old else get? rest key := by
  by_cases h : key = other
  · simp [get?, h]
  · simp [get?, h, List.lookup_cons, beq_false_of_ne h]

theorem get?_set (define : Define) (key value other : String) :
    (define.set key value).get? other = if other = key then some value else define.get? other := by
  induction define with
  | nil => simp [set, get?_cons]
  | cons entry rest ih =>
    obtain ⟨k, v⟩ := entry
    by_cases h : key = k
    · subst h
      by_cases ho : other = key <;> simp [set, get?_cons, ho]
    · by_cases ho : other = k
      · subst ho
        simp [set, get?_cons, h, Ne.symm h]
      · simp [set, get?_cons, h, ho, ih]

theorem get?_setDefault (define : Define) (key value other : String) :
    (define.setDefault key value).get? other =
      if other = key then some ((define.get? key).getD value) else define.get? other := by
  unfold setDefault
  by_cases h : (define.get? key).isSome
  · obtain ⟨old, hold⟩ := Option.isSome_iff_exists.1 h
    by_cases ho : other = key
    · simp [ho, hold]
    · simp [h, ho]
  · have hnone : define.get? key = none := by simpa using h
    rw [if_neg h, get?_set, hnone]
    rfl

end Define

/-- How source maps are given out. -/
inductive SourceMapMode where
  | none
  | linked
  | inline
  | external
  | inlineAndExternal
deriving Repr, DecidableEq

/-- Whether there are source maps at all. -/
def SourceMapMode.isEnabled (mode : SourceMapMode) : Bool := mode != none

/-- What a build is asked to do. -/
structure BuildOptions where
  entryPoints : List String := []
  workingDir : Option String := none
  define : Define := []
  sourceMap : SourceMapMode := .none
  tsconfig : Option String := none
  tsconfigText : Option String := none
  metafile : Bool := false
deriving Repr, DecidableEq

/-- The working directory of a build: its own, or that of the process. -/
def BuildOptions.baseDir {m : Type → Type} [Monad m] [MonadFiles m] (options : BuildOptions) :
    m String :=
  match options.workingDir with
  | some dir => return dir
  | none => MonadFiles.workingDir

end SfcBundler
