import SfcBundler.Proofs.Command.Search

/-!
# Surveys of a directory

A search can be made in a directory alone, with paths that are counted from it. It tells what there
is to find wherever the directory lies, and which paths are asked about on the way: if those fit,
a search from outside finds the same.

## Main definitions

* `Survey`: a computation on the files below a directory, with the paths that it asks about
* `Survey.Mirrors`: a computation in a file tree that gives what a survey says
* `Finding`, `Node.survey`: the files that entries lead to, before any are ignored

## Main results

* `WorkspaceConfig.filesBelow_mirrors`: a search in a file tree mirrors one in the directory alone
* `WorkspaceConfig.findEntries_of_survey`: the entry points of a run are the findings of the survey,
  less those that are ignored where the directory lies
-/

namespace SfcBundler

/-- A computation on the files below a directory: its value, and the paths that it asks about. -/
structure Survey (top : Node) (α : Type) where
  value : α
  asked : List String

namespace Survey

variable {top : Node} {α β γ δ : Type}

instance : Monad (Survey top) where
  pure value := ⟨value, []⟩
  bind first next :=
    match first with
    | ⟨value, asked⟩ =>
      match next value with
      | ⟨result, more⟩ => ⟨result, asked ++ more⟩

theorem value_bind (first : Survey top α) (next : α → Survey top β) :
    (first >>= next).value = (next first.value).value := rfl

theorem asked_bind (first : Survey top α) (next : α → Survey top β) :
    (first >>= next).asked = first.asked ++ (next first.value).asked := rfl

theorem ext {first second : Survey top α} (hvalue : first.value = second.value)
    (hasked : first.asked = second.asked) : first = second := by
  cases first
  cases second
  exact congr (congrArg mk hvalue) hasked

instance : LawfulMonad (Survey top) :=
  LawfulMonad.mk' (Survey top) (fun run => ext rfl (List.append_nil run.asked)) (fun _ _ => rfl)
    fun _ _ _ => ext rfl (List.append_assoc ..)

/-- Ask about a path that is counted from the directory. -/
def ask (answer : FileTree → String → α) (path : String) : Survey top α :=
  ⟨answer top.alone ("/" ++ path), [path]⟩

/-- A survey reads the directory, and writes nothing. -/
instance : MonadFiles (Survey top) where
  readBytes := ask FileTree.readBytes
  canonical := ask FileTree.canonical
  kind? := ask FileTree.kind?
  entries := ask FileTree.entries
  createDirectories _ := return .error .alreadyExists
  copyFile _ _ := return .error .alreadyExists
  workingDir := return ""
  programDir := return ""

section Mirrors

variable {σ : Type} {state : σ} {fits : String → Prop}

/-- A computation that leaves the state as it is and gives what a survey says, if the paths that
the survey asks about fit. -/
def Mirrors (survey : Survey top α) (state : σ) (fits : String → Prop) (related : α → β → Prop)
    (run : StateM σ β) : Prop :=
  (∀ path ∈ survey.asked, fits path) →
    ∃ value, run.run state = (value, state) ∧ related survey.value value

theorem mirrors_pure {related : α → β → Prop} {value : α} {other : β} (h : related value other) :
    (pure value : Survey top α).Mirrors state fits related (pure other) :=
  fun _ => ⟨other, rfl, h⟩

theorem Mirrors.bind {related : α → β → Prop} {further : γ → δ → Prop} {survey : Survey top α}
    {run : StateM σ β} {next : α → Survey top γ} {nextRun : β → StateM σ δ}
    (h : survey.Mirrors state fits related run)
    (hnext : ∀ value other, related value other →
      (next value).Mirrors state fits further (nextRun other)) :
    (survey >>= next).Mirrors state fits further (run >>= nextRun) := by
  intro hfits
  rw [asked_bind] at hfits
  obtain ⟨value, hrun, hvalue⟩ := h fun path hpath => hfits path (List.mem_append_left _ hpath)
  rw [run_bind_of_eq hrun, value_bind]
  exact hnext _ value hvalue fun path hpath => hfits path (List.mem_append_right _ hpath)

theorem Mirrors.map {related : α → β → Prop} {further : γ → δ → Prop} {survey : Survey top α}
    {run : StateM σ β} {f : α → γ} {g : β → δ} (h : survey.Mirrors state fits related run)
    (hmap : ∀ value other, related value other → further (f value) (g other)) :
    (do return f (← survey) : Survey top γ).Mirrors state fits further (do return g (← run)) :=
  h.bind fun value other hvalue => mirrors_pure (hmap value other hvalue)

theorem mirrors_mapM {item : Type} {related : α → β → Prop} {step : item → Survey top α}
    {stepRun : item → StateM σ β} {items : List item}
    (h : ∀ item ∈ items, (step item).Mirrors state fits related (stepRun item)) :
    (items.mapM step).Mirrors state fits (List.Forall₂ related) (items.mapM stepRun) := by
  induction items with
  | nil => exact mirrors_pure .nil
  | cons item rest ih =>
    rw [List.mapM_cons, List.mapM_cons]
    refine (h item List.mem_cons_self).bind ?_
    intro value other hvalue
    refine (ih fun later hlater => h later (List.mem_cons_of_mem _ hlater)).bind ?_
    intro values others hvalues
    exact mirrors_pure (.cons hvalue hvalues)

/-- An answer mirrors the one in the directory alone, if the two are related where the path fits. -/
theorem mirrors_ask {related : α → β → Prop} {answer : FileTree → String → α} {path : String}
    {run : StateM σ β} {value : β} (hrun : run.run state = (value, state))
    (h : fits path → related (answer top.alone ("/" ++ path)) value) :
    (ask answer path : Survey top α).Mirrors state fits related run :=
  fun hfits => ⟨value, hrun, h (hfits path (List.mem_singleton.2 rfl))⟩

end Mirrors

end Survey

/-- A file that an entry leads to, counted from the directory that is surveyed. -/
structure Finding where
  path : String
  /-- Whether the file is the entry itself, which is never ignored. -/
  named : Bool
deriving Repr, DecidableEq

/-- A relative path that ends in the name of something. -/
structure Path.EndsInName (path : String) : Prop where
  relative : isAbsolute path = false
  exists_name : ∃ name, (FileTree.steps path).getLast? = some name ∧ IsStep name.toList

namespace Path

variable {path name : String}

/-- What is left out in front of the segments of a path is not the last of them. -/
theorem exists_split {text last : List Char} (h : (Text.fields '/' text).getLast? = some last)
    (hlast : IsStep last) :
    ∃ front body, split text = (front, (Text.fields '/' body).reverse.dropWhile isTrivial) ∧
      (Text.fields '/' body).getLast? = some last := by
  have hcons (first : List Char) (rest : List Char) :
      (first :: Text.fields '/' rest).getLast? = (Text.fields '/' rest).getLast? := by
    rw [← List.singleton_append, List.getLast?_append_of_ne_nil _ (Text.fields_ne_nil '/' rest)]
  have hslash (rest : List Char) :
      Text.fields '/' ('/' :: rest) = [] :: Text.fields '/' rest := by
    rw [Text.fields, if_pos rfl]
  unfold split
  split
  rename_i front body hshape
  refine ⟨front, body, rfl, ?_⟩
  split at hshape
  · cases hshape
    rwa [hslash, hcons] at h
  · have htrivial := hlast.notTrivial
    rw [← Option.some.inj (show some ['.'] = some last from h)] at htrivial
    cases htrivial
  · rename_i rest
    cases hshape
    have hdot : Text.fields '/' ('.' :: '/' :: rest) = ['.'] :: Text.fields '/' rest := by
      rw [Text.fields, if_neg (by decide), hslash]
    rwa [hdot, hcons, ← hcons [], ← hslash] at h
  · cases hshape
    exact h

theorem fileName?_of_getLast? (h : (FileTree.steps path).getLast? = some name)
    (hname : IsStep name.toList) : fileName? path = some name := by
  have hlast : (Text.fields '/' path.toList).getLast? = some name.toList := by
    rw [FileTree.steps, List.getLast?_map] at h
    obtain ⟨last, hlast, rfl⟩ := Option.map_eq_some_iff.1 h
    rw [hlast, String.toList_ofList]
  obtain ⟨front, body, hsplit, hbody⟩ := exists_split hlast hname
  obtain ⟨before, hfields⟩ := List.getLast?_eq_some_iff.1 hbody
  rw [hfields, List.reverse_append, List.reverse_singleton, List.singleton_append,
    List.dropWhile_cons_of_neg (by simp [hname.notTrivial])] at hsplit
  rw [fileName?, hsplit]
  dsimp only
  rw [if_neg hname.ne_up, String.ofList_toList]

/-- The name of a file is the same, wherever its path is seen from. -/
theorem EndsInName.fileName?_join (h : EndsInName path) {dir : String} (hdir : isAbsolute dir) :
    fileName? (join dir path) = fileName? path := by
  obtain ⟨name, hlast, hstep⟩ := h.exists_name
  obtain ⟨front, -, hjoin⟩ := exists_front hdir
  rw [fileName?_of_getLast? hlast hstep]
  refine fileName?_of_getLast? ?_ hstep
  rw [hjoin path h.relative, FileTree.steps_append_slash,
    List.getLast?_append_of_ne_nil _ (FileTree.steps_ne_nil path), hlast]

end Path

namespace WorkspaceConfig

/-- What an entry leads to, before anything is ignored. -/
def findingsOf {m : Type → Type} [Monad m] [MonadFiles m] (entry : String) : m (List Finding) := do
  match ← MonadFiles.kind? entry with
  | some .file => return [⟨entry, true⟩]
  | some .directory =>
    let files ← filesBelow [] entry maxLevels
    return (files.filter fun path => isKnown path && !isPartial path).map (⟨·, false⟩)
  | none => return []

/-- What entries lead to. -/
def findings {m : Type → Type} [Monad m] [MonadFiles m] (entries : List String) :
    m (List Finding) := do
  return (← entries.mapM findingsOf).flatten

end WorkspaceConfig

/-- What entries lead to in a directory alone. -/
def Node.survey (top : Node) (entries : List String) : Survey top (List Finding) :=
  WorkspaceConfig.findings entries

namespace WorkspaceConfig

variable {σ : Type} [MonadFiles (StateM σ)] {disk : σ → Snapshot} {state : σ} {tree : FileTree}
  {top : Node} {dir : String} {base : List String}

/-- A place below a directory, and the same place where the directory lies. -/
def SamePlace (base : List String) (own place : String) : Prop :=
  ∃ names, (∀ name ∈ names, Path.IsStep name.toList) ∧ own = FileTree.placeText names ∧
    place = FileTree.placeText (base ++ names)

theorem SamePlace.beq_eq {own other place otherPlace : String}
    (hbase : ∀ name ∈ base, Path.IsStep name.toList) (h : SamePlace base own place)
    (hother : SamePlace base other otherPlace) : (otherPlace == place) = (other == own) := by
  obtain ⟨names, hnames, rfl, rfl⟩ := h
  obtain ⟨others, hothers, rfl, rfl⟩ := hother
  have hbelow {names : List String} (hnames : ∀ name ∈ names, Path.IsStep name.toList) :
      ∀ name ∈ base ++ names, Path.IsStep name.toList := by
    intro name hname
    rcases List.mem_append.1 hname with hname | hname
    · exact hbase name hname
    · exact hnames name hname
  rw [Bool.eq_iff_iff, beq_iff_eq, beq_iff_eq,
    FileTree.placeText_inj (hbelow hothers) (hbelow hnames), FileTree.placeText_inj hothers hnames,
    List.append_right_inj]

/-- Files that were found, and what they are where the directory lies. -/
def SameFiles (dir : String) (found files : List String) : Prop :=
  files = found.map (Path.join dir) ∧ ∀ path ∈ found, Path.EndsInName path

theorem SameFiles.flatten {found files : List (List String)}
    (h : List.Forall₂ (SameFiles dir) found files) : SameFiles dir found.flatten files.flatten := by
  induction h with
  | nil => exact ⟨rfl, by simp⟩
  | cons hfirst _ ih =>
    obtain ⟨rfl, hnamed⟩ := hfirst
    obtain ⟨hrest, hrestNamed⟩ := ih
    refine ⟨by rw [List.flatten_cons, List.flatten_cons, List.map_append, hrest], ?_⟩
    intro path hpath
    rw [List.flatten_cons, List.mem_append] at hpath
    exact hpath.elim (hnamed path) (hrestNamed path)

/-- A search in a file tree that finds what the survey finds. -/
def Searches (top : Node) (tree : FileTree) (dir : String) (state : σ)
    (survey : Survey top (List String)) (run : StateM σ (List String)) : Prop :=
  survey.Mirrors state (top.Fits tree dir) (SameFiles dir) run

theorem survey_filesBelow_succ (above : List String) (path : String) (levels : Nat) :
    (filesBelow above path (levels + 1) : Survey top _) = do
      match ← MonadFiles.canonical path, ← MonadFiles.entries path with
      | .ok place, .ok entries =>
        let found ← (DirectoryEntry.byName entries).mapM (filesOfEntry (place :: above) path levels)
        return found.flatten
      | _, _ => return [] := by
  rfl

section

variable (hdisk : ReadsDisk disk) (htree : disk state = tree.snapshot)
  (hlies : top.LiesAt tree dir base)
include hdisk htree hlies

open Survey (mirrors_ask mirrors_pure mirrors_mapM)

theorem mirrors_kind? (path : String) :
    (MonadFiles.kind? path : Survey top _).Mirrors state (top.Fits tree dir)
      (fun own kind => own = kind ∧ (own = some .file → Path.EndsInName path))
      (MonadFiles.kind? (Path.join dir path) : StateM σ _) := by
  refine mirrors_ask (hdisk.kind? _ state) ?_
  intro hfits
  rw [htree]
  refine ⟨(hlies.kind?_join hfits).symm, ?_⟩
  intro hfile
  exact ⟨hfits.keeps.1, hlies.exists_name hfile⟩

theorem mirrors_entries (path : String) :
    (MonadFiles.entries path : Survey top _).Mirrors state (top.Fits tree dir) (SameOutcome Eq)
      (MonadFiles.entries (Path.join dir path) : StateM σ _) := by
  refine mirrors_ask (hdisk.entries _ state) ?_
  intro hfits
  rw [htree]
  exact hlies.entries_join hfits

theorem mirrors_canonical (path : String) :
    (MonadFiles.canonical path : Survey top _).Mirrors state (top.Fits tree dir)
      (SameOutcome (SamePlace base)) (MonadFiles.canonical (Path.join dir path) : StateM σ _) := by
  refine mirrors_ask (hdisk.canonical _ state) ?_
  intro hfits
  rw [htree]
  exact hlies.canonical_join hfits

omit hdisk htree in
/-- Whether a place was passed on the way is the same wherever the directory lies. -/
theorem contains_eq {aboveOwn above : List String} {own place : String}
    (habove : List.Forall₂ (SamePlace base) aboveOwn above) (hplace : SamePlace base own place) :
    above.contains place = aboveOwn.contains own := by
  induction habove with
  | nil => rfl
  | cons hfirst _ ih =>
    rw [List.contains_cons, List.contains_cons, ih, hfirst.beq_eq hlies.place hplace]

omit hdisk htree hlies in
/-- Every place has a text. -/
theorem contains_empty {aboveOwn above : List String}
    (habove : List.Forall₂ (SamePlace base) aboveOwn above) :
    above.contains "" = aboveOwn.contains "" := by
  induction habove with
  | nil => rfl
  | cons hfirst _ ih =>
    obtain ⟨names, -, rfl, rfl⟩ := hfirst
    have hne (place : List String) : ("" == FileTree.placeText place) = false := by
      refine beq_false_of_ne ?_
      intro hempty
      have hlist := congrArg String.toList hempty
      rw [FileTree.toList_placeText] at hlist
      cases hlist
    rw [List.contains_cons, List.contains_cons, ih, hne, hne]

omit hdisk htree hlies in
theorem filesBehind_mirrors {levels : Nat} {path : String} {aboveOwn above : List String}
    (hbelow : Searches top tree dir state (filesBelow aboveOwn path levels)
      (filesBelow above (Path.join dir path) levels))
    {own target : Except IoFailure String}
    (htarget : SameOutcome (fun own target => above.contains target = aboveOwn.contains own)
      own target) :
    Searches top tree dir state (filesBehind aboveOwn path levels own)
      (filesBehind above (Path.join dir path) levels target) := by
  cases htarget with
  | error failure other => exact mirrors_pure ⟨rfl, by simp⟩
  | ok hcontains =>
    rw [filesBehind, filesBehind, hcontains]
    split
    · exact mirrors_pure ⟨rfl, by simp⟩
    · exact hbelow

theorem filesOfEntry_mirrors {levels : Nat} {path : String} {aboveOwn above : List String}
    (habove : List.Forall₂ (SamePlace base) aboveOwn above) (entry : DirectoryEntry)
    (hbelow : Searches top tree dir state (filesBelow aboveOwn (Path.join path entry.name) levels)
      (filesBelow above (Path.join dir (Path.join path entry.name)) levels)) :
    Searches top tree dir state (filesOfEntry aboveOwn path levels entry)
      (filesOfEntry above (Path.join dir path) levels entry) := by
  rw [filesOfEntry, filesOfEntry, Path.join_join]
  refine (mirrors_kind? hdisk htree hlies _).bind ?_
  rintro own kind ⟨rfl, hfile⟩
  cases own with
  | none => exact mirrors_pure ⟨rfl, by simp⟩
  | some kind =>
    cases kind with
    | file =>
      refine mirrors_pure ⟨rfl, ?_⟩
      intro found hfound
      rw [List.mem_singleton.1 hfound]
      exact hfile rfl
    | directory =>
      -- only the way through a link can lead back
      by_cases hlink : entry.isLink
      · simp only [if_pos hlink]
        refine (mirrors_canonical hdisk htree hlies _).bind ?_
        intro own target htarget
        refine filesBehind_mirrors hbelow ?_
        cases htarget with
        | error failure other => exact .error failure other
        | ok hplace => exact .ok (contains_eq hlies habove hplace)
      · simp only [if_neg hlink]
        exact filesBehind_mirrors hbelow (.ok (contains_empty habove))

/-- A search in a file tree finds what one in the directory alone finds. -/
theorem filesBelow_mirrors (levels : Nat) (path : String) {aboveOwn above : List String}
    (habove : List.Forall₂ (SamePlace base) aboveOwn above) :
    Searches top tree dir state (filesBelow aboveOwn path levels)
      (filesBelow above (Path.join dir path) levels) := by
  induction levels generalizing path aboveOwn above with
  | zero => exact mirrors_pure ⟨rfl, by simp⟩
  | succ levels ih =>
    rw [filesBelow_succ, survey_filesBelow_succ]
    refine (mirrors_canonical hdisk htree hlies path).bind ?_
    intro own place hplace
    refine (mirrors_entries hdisk htree hlies path).bind ?_
    intro ownEntries entries hentries
    cases hplace with
    | error failure other => exact mirrors_pure ⟨rfl, by simp⟩
    | ok hplace =>
      cases hentries with
      | error failure other => exact mirrors_pure ⟨rfl, by simp⟩
      | @ok entries _ hsame =>
        -- the entries are the same on both sides, and each of them is searched alike
        subst hsame
        have hstep : ∀ entry ∈ DirectoryEntry.byName entries, Searches top tree dir state _ _ :=
          fun entry _ => filesOfEntry_mirrors hdisk htree hlies (.cons hplace habove) entry
            (ih (Path.join path entry.name) (.cons hplace habove))
        exact (mirrors_mapM hstep).map fun _ _ => SameFiles.flatten

/-- Whether a finding is an entry point where the directory lies. -/
def isKept (config : WorkspaceConfig) (dir : String) (finding : Finding) : Bool :=
  finding.named || !config.isIgnored (Path.join dir finding.path)

/-- Entry points where the directory lies, given what the survey finds. -/
structure Keeps (config : WorkspaceConfig) (dir : String) (found : List Finding)
    (entries : List String) : Prop where
  eq : entries = (found.filter (config.isKept dir)).map fun finding => Path.join dir finding.path
  relative : ∀ finding ∈ found, Path.isAbsolute finding.path = false

omit hdisk htree hlies in
theorem Keeps.flatten {config : WorkspaceConfig} {found : List (List Finding)}
    {entries : List (List String)} (h : List.Forall₂ (config.Keeps dir) found entries) :
    config.Keeps dir found.flatten entries.flatten := by
  induction h with
  | nil => exact ⟨rfl, by simp⟩
  | cons hfirst _ ih =>
    refine ⟨?_, ?_⟩
    · rw [List.flatten_cons, List.flatten_cons, List.filter_append, List.map_append, hfirst.eq,
        ih.eq]
    · intro finding hfinding
      rw [List.flatten_cons, List.mem_append] at hfinding
      exact hfinding.elim (hfirst.relative finding) (ih.relative finding)

omit hdisk htree hlies in
/-- A file that was found is an entry point where the directory lies if it is one to search for,
and not ignored there. -/
theorem shouldProcess_join (config : WorkspaceConfig) {path : String} (h : Path.EndsInName path)
    (hdir : Path.isAbsolute dir) : config.shouldProcess (Path.join dir path) =
      (config.isKept dir ⟨path, false⟩ && (isKnown path && !isPartial path)) := by
  have hname := h.fileName?_join hdir
  have hknown : isKnown (Path.join dir path) = isKnown path := by
    rw [isKnown, isKnown, Path.extension?, Path.extension?, hname]
  have hpartial : isPartial (Path.join dir path) = isPartial path := by
    rw [isPartial, isPartial, hname]
  rw [shouldProcess, hknown, hpartial, isKept, Bool.false_or, Bool.and_comm]

theorem entriesOf_mirrors (config : WorkspaceConfig) (entry : String) (hdir : Path.isAbsolute dir) :
    (findingsOf entry : Survey top _).Mirrors state (top.Fits tree dir) (config.Keeps dir)
      (config.entriesOf (Path.join dir entry)) := by
  rw [findingsOf, entriesOf]
  refine (mirrors_kind? hdisk htree hlies entry).bind ?_
  rintro own kind ⟨rfl, hfile⟩
  cases own with
  | none => exact mirrors_pure ⟨rfl, by simp⟩
  | some kind =>
    cases kind with
    | file =>
      refine mirrors_pure ⟨rfl, ?_⟩
      intro finding hfinding
      rw [List.mem_singleton.1 hfinding]
      exact (hfile rfl).relative
    | directory =>
      refine (filesBelow_mirrors hdisk htree hlies maxLevels entry .nil).map ?_
      rintro found files ⟨rfl, hnamed⟩
      refine ⟨?_, ?_⟩
      · rw [List.filter_map, List.filter_map, List.filter_filter, List.map_map]
        refine congrArg _ (List.filter_congr ?_)
        intro path hpath
        exact shouldProcess_join config (hnamed path hpath) hdir
      · intro finding hfinding
        obtain ⟨path, hpath, rfl⟩ := List.mem_map.1 hfinding
        exact (hnamed path (List.mem_of_mem_filter hpath)).relative

/-- The entry points of a run are the findings of the survey, less those that are ignored where the
directory lies. -/
theorem findEntries_mirrors (config : WorkspaceConfig) {entries : List String}
    (hdir : Path.isAbsolute dir) (hroots : config.roots = entries.map (Path.join dir)) :
    (top.survey entries).Mirrors state (top.Fits tree dir) (config.Keeps dir)
      config.findEntries := by
  rw [Node.survey, findings, findEntries, hroots, List.mapM_map]
  have hstep : ∀ entry ∈ entries, (findingsOf entry : Survey top _).Mirrors state
      (top.Fits tree dir) (config.Keeps dir) (config.entriesOf (Path.join dir entry)) :=
    fun entry _ => entriesOf_mirrors hdisk htree hlies config entry hdir
  exact (mirrors_mapM hstep).map fun _ _ => Keeps.flatten

end

end WorkspaceConfig

end SfcBundler
