import SfcBundler.Command.Config
import SfcBundler.Proofs.Files.Subtree
import SfcBundler.Proofs.Plugin.Site

/-!
# Searching directories

What a search finds below a directory, read off the files alone: every file that the directory leads
to, links followed, except on ways that come back to a directory they went through.

## Main definitions

* `Snapshot.IsOrderly`: files whose names and paths are as a file system has them
* `ReadsDisk`: file operations that read files held in the state
* `Snapshot.Finds`, `Snapshot.Holds`: the files below a directory, with links and without
* `WorkspaceConfig.LeadsTo`, `WorkspaceConfig.Gathers`: the entry points that a root stands for, and
  those of all roots

## Main results

* `FileTree.isOrderly_snapshot`, `FileTree.readsDisk`: the files of a tree are orderly, if its names
  are, and its operations read them
* `WorkspaceConfig.filesBelow_run`: a search finds what is there
* `WorkspaceConfig.findEntries_run`: the entry points of a run are those that its roots lead to
* `WorkspaceConfig.Gathers.mem_of_holds`: a file below a root is an entry point
* `WorkspaceConfig.findEntries_present`: roots that lead nowhere are passed over
-/

namespace SfcBundler

/-- Files whose names and paths are as a file system has them. -/
structure Snapshot.IsOrderly (disk : Snapshot) : Prop where
  /-- A name in a directory is a step. -/
  named : ∀ path entries entry, disk.entries path = .ok entries → entry ∈ entries →
    Path.IsStep entry.name.toList
  /-- No path that is followed is longer than a path may be. -/
  bounded : ∀ path entries, disk.entries path = .ok entries →
    path.utf8ByteSize ≤ FileTree.maxPathBytes
  /-- What is behind all links is a path. -/
  placed : ∀ path place, disk.canonical path = .ok place → place ≠ ""

namespace FileTree

/-- A tree as files that are only read. -/
def snapshot (tree : FileTree) : Snapshot where
  readBytes := tree.readBytes
  canonical := tree.canonical
  kind? := tree.kind?
  entries := tree.entries
  workingDir := tree.workingDir
  programDir := "/"

/-- A tree in which all names are steps. -/
def IsNamed (tree : FileTree) : Prop := ∀ path entries entry, tree.entries path = .ok entries →
  entry ∈ entries → Path.IsStep entry.name.toList

/-- The files of a tree are orderly, if its names are. -/
theorem isOrderly_snapshot {tree : FileTree} (h : tree.IsNamed) : tree.snapshot.IsOrderly where
  named := h
  bounded := by
    intro path entries hentries
    obtain ⟨found, hfound, -⟩ := exists_of_bind_ok hentries
    exact le_of_find hfound
  placed := by
    intro path place hplace hnil
    obtain ⟨found, -, hplace⟩ := exists_of_bind_ok hplace
    have htext : placeText found.1 = place := Except.ok.inj hplace
    rw [hnil, placeText] at htext
    have hlist := congrArg String.toList htext
    simp at hlist

end FileTree

/-- File operations that read files held in the state, and leave the state as it is. -/
structure ReadsDisk {σ : Type} [MonadFiles (StateM σ)] (disk : σ → Snapshot) : Prop where
  kind? : ∀ path state, (MonadFiles.kind? path : StateM σ _).run state =
    ((disk state).kind? path, state)
  canonical : ∀ path state, (MonadFiles.canonical path : StateM σ _).run state =
    ((disk state).canonical path, state)
  entries : ∀ path state, (MonadFiles.entries path : StateM σ _).run state =
    ((disk state).entries path, state)
  workingDir : ∀ state, (MonadFiles.workingDir : StateM σ _).run state =
    ((disk state).workingDir, state)

/-- The operations of a state with a tree in it read that tree. -/
theorem FileTree.readsDisk {σ : Type} (tree : σ → FileTree) (setTree : FileTree → σ → σ) :
    letI := FileTree.monadFiles tree setTree
    ReadsDisk fun state => (tree state).snapshot := by
  let files := FileTree.monadFiles tree setTree
  exact ⟨fun _ _ => rfl, fun _ _ => rfl, fun _ _ => rfl, fun _ => rfl⟩

/-- The files below a directory, on a way that came through the directories `above`. Links are
followed, unless they lead back to a directory on the way. -/
inductive Snapshot.Finds (disk : Snapshot) : List String → String → String → Prop
  | file {above : List String} {dir place : String} {entries : List DirectoryEntry}
    {entry : DirectoryEntry} : disk.canonical dir = .ok place → disk.entries dir = .ok entries →
    entry ∈ entries → disk.kind? (Path.join dir entry.name) = some .file →
    Finds disk above dir (Path.join dir entry.name)
  | deeper {above : List String} {dir place path : String} {entries : List DirectoryEntry}
    {entry : DirectoryEntry} : disk.canonical dir = .ok place → disk.entries dir = .ok entries →
    entry ∈ entries → disk.kind? (Path.join dir entry.name) = some .directory →
    (entry.isLink → ∃ target, disk.canonical (Path.join dir entry.name) = .ok target ∧
      target ∉ place :: above) →
    Finds disk (place :: above) (Path.join dir entry.name) path → Finds disk above dir path

/-- The directory that files are found below can be read. -/
theorem Snapshot.Finds.exists_entries {disk : Snapshot} {above : List String} {dir path : String}
    (h : disk.Finds above dir path) : ∃ entries, disk.entries dir = .ok entries := by
  cases h with
  | file _ hentries => exact ⟨_, hentries⟩
  | deeper _ hentries => exact ⟨_, hentries⟩

/-- The files below a directory that no link to a directory is on the way to. -/
inductive Snapshot.Holds (disk : Snapshot) : String → String → Prop
  | file {dir : String} {entries : List DirectoryEntry} {entry : DirectoryEntry} :
    disk.entries dir = .ok entries → entry ∈ entries →
    disk.kind? (Path.join dir entry.name) = some .file → Holds disk dir (Path.join dir entry.name)
  | deeper {dir path : String} {entries : List DirectoryEntry} {entry : DirectoryEntry} :
    disk.entries dir = .ok entries → entry ∈ entries →
    disk.kind? (Path.join dir entry.name) = some .directory → ¬ entry.isLink →
    Holds disk (Path.join dir entry.name) path → Holds disk dir path

/-- A file that no link is on the way to is found, whatever the way came through. -/
theorem Snapshot.Holds.finds {disk : Snapshot}
    (hsettled : ∀ dir entries, disk.entries dir = .ok entries →
      ∃ place, disk.canonical dir = .ok place)
    {dir path : String} (h : disk.Holds dir path) (above : List String) :
    disk.Finds above dir path := by
  induction h generalizing above with
  | @file dir entries entry hentries hentry hkind =>
    obtain ⟨place, hplace⟩ := hsettled dir entries hentries
    exact .file hplace hentries hentry hkind
  | @deeper dir path entries entry hentries hentry hkind hlink _ ih =>
    obtain ⟨place, hplace⟩ := hsettled dir entries hentries
    exact .deeper hplace hentries hentry hkind (fun hother => absurd hother hlink)
      (ih (place :: above))

/-- A name below a directory makes a longer path. -/
theorem Path.size_join {dir name : String} (h : IsStep name.toList) :
    dir.utf8ByteSize + 1 ≤ (join dir name).utf8ByteSize := by
  have hname : 1 ≤ name.utf8ByteSize := by
    refine Nat.one_le_iff_ne_zero.2 fun hzero => ?_
    have htrivial := h.notTrivial
    rw [String.utf8ByteSize_eq_zero_iff.1 hzero] at htrivial
    cases htrivial
  have hrelative : isAbsoluteText name.toList = false := by
    cases hshape : name.toList with
    | nil => rfl
    | cons c rest =>
      have hslash : c ≠ '/' := by
        rintro rfl
        exact h.noSlash (hshape ▸ List.mem_cons_self)
      simp [isAbsoluteText, hslash]
  -- whatever stands between them, both stay whole
  obtain ⟨between, hjoin⟩ : ∃ between, join dir name = dir ++ between ++ name := by
    rw [join, joinText, hrelative, Bool.false_or]
    split
    · rename_i hnil
      have hdir : dir = "" := by simpa using hnil
      exact ⟨"", by simp [hdir]⟩
    · split
      · exact ⟨"", by simp⟩
      · exact ⟨"/", by rw [← String.toList_inj]; simp⟩
  rw [hjoin, String.utf8ByteSize_append, String.utf8ByteSize_append]
  omega

section Search

variable {σ : Type} {state : σ}

theorem exists_run_mapM {α β : Type} {step : α → StateM σ β} {holds : α → β → Prop}
    {items : List α}
    (h : ∀ item ∈ items, ∃ value, (step item).run state = (value, state) ∧ holds item value) :
    ∃ values, (items.mapM step).run state = (values, state) ∧
      (∀ value ∈ values, ∃ item ∈ items, holds item value) ∧
      ∀ item ∈ items, ∃ value ∈ values, holds item value := by
  induction items with
  | nil => exact ⟨[], rfl, by simp, by simp⟩
  | cons item rest ih =>
    obtain ⟨value, hvalue, hholds⟩ := h item List.mem_cons_self
    obtain ⟨values, hvalues, hsound, hcomplete⟩ :=
      ih fun other hother => h other (List.mem_cons_of_mem _ hother)
    refine ⟨value :: values, ?_, ?_, ?_⟩
    · rw [List.mapM_cons, run_bind_of_eq hvalue, run_bind_of_eq hvalues]
      rfl
    · intro found hfound
      rcases List.mem_cons.1 hfound with rfl | hfound
      · exact ⟨item, List.mem_cons_self, hholds⟩
      · obtain ⟨other, hother, hheld⟩ := hsound found hfound
        exact ⟨other, List.mem_cons_of_mem _ hother, hheld⟩
    · intro other hother
      rcases List.mem_cons.1 hother with rfl | hother
      · exact ⟨value, List.mem_cons_self, hholds⟩
      · obtain ⟨found, hfound, hheld⟩ := hcomplete other hother
        exact ⟨found, List.mem_cons_of_mem _ hfound, hheld⟩

/-- Items that give nothing can be left out of a walk over all of them. -/
theorem exists_run_mapM_filter {α β : Type} {step : α → StateM σ (List β)} {keep : α → Bool}
    {items : List α}
    (h : ∀ item ∈ items, ∃ values, (step item).run state = (values, state) ∧
      (keep item = false → values = [])) :
    ∃ kept all, ((items.filter keep).mapM step).run state = (kept, state) ∧
      (items.mapM step).run state = (all, state) ∧ kept.flatten = all.flatten := by
  induction items with
  | nil => exact ⟨[], [], rfl, rfl, rfl⟩
  | cons item rest ih =>
    obtain ⟨values, hvalues, hnone⟩ := h item List.mem_cons_self
    obtain ⟨kept, all, hkept, hall, hflatten⟩ :=
      ih fun other hother => h other (List.mem_cons_of_mem _ hother)
    have hcons : ((item :: rest).mapM step).run state = (values :: all, state) := by
      rw [List.mapM_cons, run_bind_of_eq hvalues, run_bind_of_eq hall]
      rfl
    cases hkeep : keep item with
    | false =>
      -- an item that is left out would have given nothing
      refine ⟨kept, values :: all, ?_, hcons, ?_⟩
      · rwa [List.filter_cons_of_neg (by simp [hkeep])]
      · rw [List.flatten_cons, hnone hkeep, List.nil_append, hflatten]
    | true =>
      refine ⟨values :: kept, values :: all, ?_, hcons, ?_⟩
      · rw [List.filter_cons_of_pos hkeep, List.mapM_cons, run_bind_of_eq hvalues,
          run_bind_of_eq hkept]
        rfl
      · rw [List.flatten_cons, List.flatten_cons, hflatten]

namespace WorkspaceConfig

variable [MonadFiles (StateM σ)] {disk : σ → Snapshot}

/-- The files below a directory that is found behind `target`, which must not be on the way. -/
def filesBehind {m : Type → Type} [Monad m] [MonadFiles m] (above : List String) (path : String)
    (levels : Nat) : Except IoFailure String → m (List String)
  | .ok target => if above.contains target then return [] else filesBelow above path levels
  | .error _ => return []

/-- The files that an entry of a directory leads to. What is no link is behind nothing. -/
def filesOfEntry {m : Type → Type} [Monad m] [MonadFiles m] (above : List String) (dir : String)
    (levels : Nat) (entry : DirectoryEntry) : m (List String) := do
  let path := Path.join dir entry.name
  match ← MonadFiles.kind? path with
  | none => return []
  | some .file => return [path]
  | some .directory =>
    if entry.isLink then do filesBehind above path levels (← MonadFiles.canonical path)
    else filesBehind above path levels (.ok "")

theorem filesBelow_succ (above : List String) (dir : String) (levels : Nat) :
    (filesBelow above dir (levels + 1) : StateM σ _) = do
      match ← MonadFiles.canonical dir, ← MonadFiles.entries dir with
      | .ok place, .ok entries =>
        let found ← (DirectoryEntry.byName entries).mapM (filesOfEntry (place :: above) dir levels)
        return found.flatten
      | _, _ => return [] :=
  rfl

/-- A list that a search of so many levels may give: only files that are there, and all of them if
the levels suffice for the paths. -/
structure IsSearch (disk : Snapshot) (above : List String) (dir : String) (levels : Nat)
    (files : List String) : Prop where
  sound : ∀ path ∈ files, disk.Finds above dir path
  complete : disk.IsOrderly → "" ∉ above → FileTree.maxPathBytes < dir.utf8ByteSize + levels →
    ∀ path, disk.Finds above dir path → path ∈ files

/-- What an entry of a directory leads to, by what is found below it. -/
inductive Reaches (disk : Snapshot) (above : List String) (dir : String) (entry : DirectoryEntry)
    (path : String) : Prop
  | file : disk.kind? (Path.join dir entry.name) = some .file → path = Path.join dir entry.name →
    Reaches disk above dir entry path
  | deeper : disk.kind? (Path.join dir entry.name) = some .directory →
    (entry.isLink → ∃ target, disk.canonical (Path.join dir entry.name) = .ok target ∧
      target ∉ above) →
    disk.Finds above (Path.join dir entry.name) path → Reaches disk above dir entry path

theorem Reaches.isSome {disk : Snapshot} {above : List String} {dir path : String}
    {entry : DirectoryEntry} (h : Reaches disk above dir entry path) :
    (disk.kind? (Path.join dir entry.name)).isSome := by
  cases h with
  | file hkind => rw [hkind, Option.isSome_some]
  | deeper hkind => rw [hkind, Option.isSome_some]

theorem finds_iff {disk : Snapshot} {above : List String} {dir place path : String}
    {entries : List DirectoryEntry} (hplace : disk.canonical dir = .ok place)
    (hentries : disk.entries dir = .ok entries) :
    disk.Finds above dir path ↔
      ∃ entry ∈ entries, Reaches disk (place :: above) dir entry path := by
  constructor
  · intro h
    cases h with
    | file _ hother hentry hkind =>
      obtain rfl := Except.ok.inj (hentries.symm.trans hother)
      exact ⟨_, hentry, .file hkind rfl⟩
    | deeper hsame hother hentry hkind hlink hfinds =>
      obtain rfl := Except.ok.inj (hentries.symm.trans hother)
      obtain rfl := Except.ok.inj (hplace.symm.trans hsame)
      exact ⟨_, hentry, .deeper hkind hlink hfinds⟩
  · rintro ⟨entry, hentry, hreaches⟩
    cases hreaches with
    | file hkind hpath =>
      rw [hpath]
      exact .file hplace hentries hentry hkind
    | deeper hkind hlink hfinds => exact .deeper hplace hentries hentry hkind hlink hfinds

theorem filesBehind_run {levels : Nat} {above : List String} {path : String}
    (hbelow : ∃ files, (filesBelow above path levels : StateM σ _).run state = (files, state) ∧
      IsSearch (disk state) above path levels files)
    (target : Except IoFailure String) :
    ∃ files, (filesBehind above path levels target : StateM σ _).run state = (files, state) ∧
      ((∃ place, target = .ok place ∧ place ∉ above) →
        IsSearch (disk state) above path levels files) ∧
      ((¬ ∃ place, target = .ok place ∧ place ∉ above) → files = []) := by
  obtain ⟨files, hfiles, hsearch⟩ := hbelow
  cases target with
  | error failure => exact ⟨[], rfl, by simp, fun _ => rfl⟩
  | ok place =>
    rw [filesBehind]
    -- a way back to a directory above is not followed
    by_cases hplace : place ∈ above
    · rw [if_pos (by simpa using hplace)]
      exact ⟨[], rfl, by simp [hplace], fun _ => rfl⟩
    · rw [if_neg (by simpa using hplace)]
      exact ⟨files, hfiles, fun _ => hsearch, fun hback => absurd ⟨place, rfl, hplace⟩ hback⟩

/-- An entry that leads to a directory gives what is behind it: where it is a link, the target
decides, and else there is nothing to decide. -/
theorem filesOfEntry_directory_run (h : ReadsDisk disk) (levels : Nat) (above : List String)
    {dir : String} {entry : DirectoryEntry}
    (hkind : (disk state).kind? (Path.join dir entry.name) = some .directory) :
    ∃ target, (filesOfEntry above dir levels entry : StateM σ _).run state =
        (filesBehind above (Path.join dir entry.name) levels target : StateM σ _).run state ∧
      if entry.isLink then (disk state).canonical (Path.join dir entry.name) = target
      else target = .ok "" := by
  rw [filesOfEntry, run_bind_of_eq (h.kind? _ state), hkind]
  dsimp only
  by_cases hlink : entry.isLink
  · rw [if_pos hlink, run_bind_of_eq (h.canonical _ state)]
    exact ⟨_, rfl, if_pos hlink ▸ rfl⟩
  · rw [if_neg hlink]
    exact ⟨_, rfl, if_neg hlink ▸ rfl⟩

/-- An entry of a directory gives what it leads to, if the search below it does. -/
theorem filesOfEntry_run (h : ReadsDisk disk) {levels : Nat} {above : List String} {dir : String}
    {entry : DirectoryEntry}
    (hbelow : ∃ files, (filesBelow above (Path.join dir entry.name) levels : StateM σ _).run state =
      (files, state) ∧ IsSearch (disk state) above (Path.join dir entry.name) levels files) :
    ∃ files, (filesOfEntry above dir levels entry : StateM σ _).run state = (files, state) ∧
      (∀ path ∈ files, Reaches (disk state) above dir entry path) ∧
      ((disk state).IsOrderly → "" ∉ above → Path.IsStep entry.name.toList →
        FileTree.maxPathBytes < dir.utf8ByteSize + (levels + 1) →
        ∀ path, Reaches (disk state) above dir entry path → path ∈ files) := by
  have hrun : (filesOfEntry above dir levels entry : StateM σ _).run state = _ :=
    run_bind_of_eq (h.kind? (Path.join dir entry.name) state) _
  cases hkind : (disk state).kind? (Path.join dir entry.name) with
  | none =>
    rw [hkind] at hrun
    refine ⟨[], hrun, by simp, ?_⟩
    intro _ _ _ _ path hreaches
    exact absurd hreaches.isSome (by simp [hkind])
  | some kind =>
    cases kind with
    | file =>
      rw [hkind] at hrun
      refine ⟨[Path.join dir entry.name], hrun, ?_, ?_⟩
      · intro path hpath
        exact .file hkind (List.mem_singleton.1 hpath)
      · intro _ _ _ _ path hreaches
        cases hreaches with
        | file _ hpath => exact List.mem_singleton.2 hpath
        | deeper hother => simp [hkind] at hother
    | directory =>
      obtain ⟨target, hbehind, htarget⟩ := filesOfEntry_directory_run h levels above hkind
      obtain ⟨files, hfiles, hsearch, hnone⟩ := filesBehind_run hbelow target
      have hway : (∃ place, target = .ok place ∧ place ∉ above) → entry.isLink →
          ∃ place, (disk state).canonical (Path.join dir entry.name) = .ok place ∧
            place ∉ above := by
        intro hplace hlink
        rw [if_pos hlink] at htarget
        rwa [htarget]
      refine ⟨files, hbehind.trans hfiles, ?_, ?_⟩
      · intro path hpath
        by_cases hplace : ∃ place, target = .ok place ∧ place ∉ above
        · exact .deeper hkind (hway hplace) ((hsearch hplace).sound path hpath)
        · simp [hnone hplace] at hpath
      · intro horderly habove hname hlevels path hreaches
        cases hreaches with
        | file hother => simp [hkind] at hother
        | deeper _ hlink hfinds =>
          -- no directory on the way has an empty path, so what is no link is always followed
          have hplace : ∃ place, target = .ok place ∧ place ∉ above := by
            by_cases his : entry.isLink
            · rw [if_pos his] at htarget
              exact htarget ▸ hlink his
            · rw [if_neg his] at htarget
              exact ⟨"", htarget, habove⟩
          -- the path has grown, so one level less will do
          have hsize : dir.utf8ByteSize + 1 ≤ (Path.join dir entry.name).utf8ByteSize :=
            Path.size_join hname
          exact (hsearch hplace).complete horderly habove (by omega) path hfinds

/-- A search finds what is there. -/
theorem filesBelow_run (h : ReadsDisk disk) (state : σ) (levels : Nat) (above : List String)
    (dir : String) :
    ∃ files, (filesBelow above dir levels : StateM σ _).run state = (files, state) ∧
      IsSearch (disk state) above dir levels files := by
  induction levels generalizing above dir with
  | zero =>
    refine ⟨[], rfl, by simp, ?_⟩
    intro horderly _ hlevels path hfinds
    -- no path of a directory is that long
    obtain ⟨entries, hentries⟩ := hfinds.exists_entries
    have hbound := horderly.bounded dir entries hentries
    omega
  | succ levels ih =>
    rw [filesBelow_succ, run_bind_of_eq (h.canonical dir state),
      run_bind_of_eq (h.entries dir state)]
    cases hplace : (disk state).canonical dir with
    | error failure =>
      refine ⟨[], rfl, by simp, ?_⟩
      intro _ _ _ path hfinds
      cases hfinds with
      | file hother => simp [hplace] at hother
      | deeper hother => simp [hplace] at hother
    | ok place =>
      cases hentries : (disk state).entries dir with
      | error failure =>
        refine ⟨[], rfl, by simp, ?_⟩
        intro _ _ _ path hfinds
        obtain ⟨entries, hother⟩ := hfinds.exists_entries
        simp [hentries] at hother
      | ok entries =>
        obtain ⟨found, hfound, hsound, hcomplete⟩ :=
          exists_run_mapM fun entry (_ : entry ∈ DirectoryEntry.byName entries) =>
            filesOfEntry_run h (ih (place :: above) (Path.join dir entry.name))
        refine ⟨found.flatten, run_bind_of_eq hfound _, ?_, ?_⟩
        · intro path hpath
          obtain ⟨files, hfiles, hpath⟩ := List.mem_flatten.1 hpath
          obtain ⟨entry, hentry, hreaches, -⟩ := hsound files hfiles
          exact (finds_iff hplace hentries).2
            ⟨entry, DirectoryEntry.mem_byName.1 hentry, hreaches path hpath⟩
        · intro horderly habove hlevels path hfinds
          obtain ⟨entry, hentry, hreaches⟩ := (finds_iff hplace hentries).1 hfinds
          obtain ⟨files, hfiles, -, hall⟩ := hcomplete entry (DirectoryEntry.mem_byName.2 hentry)
          have hplaces : "" ∉ place :: above := by
            rw [List.mem_cons, not_or]
            exact ⟨(horderly.placed dir place hplace).symm, habove⟩
          have hstep := horderly.named dir entries entry hentries hentry
          have hpath := hall horderly hplaces hstep hlevels path hreaches
          exact List.mem_flatten.2 ⟨files, hfiles, hpath⟩

/-- The entry points that a root stands for: itself, if it is a file, and what a search of it finds
otherwise. A root that leads nowhere stands for none. -/
inductive LeadsTo (config : WorkspaceConfig) (disk : Snapshot) (root : String) : String → Prop
  | self : disk.kind? root = some .file → LeadsTo config disk root root
  | below {path : String} : disk.kind? root = some .directory → disk.Finds [] root path →
    config.shouldProcess path → LeadsTo config disk root path

/-- The entry points of a configuration are those that its roots lead to: none besides, and all of
them in orderly files. Files named as roots are never left out. -/
structure Gathers (config : WorkspaceConfig) (disk : Snapshot) (entries : List String) : Prop where
  sound : ∀ path ∈ entries, ∃ root ∈ config.roots, config.LeadsTo disk root path
  named : ∀ root ∈ config.roots, disk.kind? root = some .file → root ∈ entries
  complete : disk.IsOrderly → ∀ root ∈ config.roots, ∀ path, config.LeadsTo disk root path →
    path ∈ entries

/-- A file that is to be built and lies below a root, with no link on the way to it, is an entry
point. -/
theorem Gathers.mem_of_holds {config : WorkspaceConfig} {disk : Snapshot} {entries : List String}
    (h : config.Gathers disk entries) (horderly : disk.IsOrderly)
    (hsettled : ∀ dir entries, disk.entries dir = .ok entries →
      ∃ place, disk.canonical dir = .ok place)
    {root path : String} (hroot : root ∈ config.roots) (hkind : disk.kind? root = some .directory)
    (hholds : disk.Holds root path) (hshould : config.shouldProcess path) : path ∈ entries := by
  apply h.complete horderly root hroot
  exact .below hkind (hholds.finds hsettled []) hshould

/-- The configuration without the roots that lead nowhere. -/
def present (config : WorkspaceConfig) (disk : Snapshot) : WorkspaceConfig :=
  { config with roots := config.roots.filter fun root => (disk.kind? root).isSome }

theorem LeadsTo.isSome {config : WorkspaceConfig} {disk : Snapshot} {root path : String}
    (h : config.LeadsTo disk root path) : (disk.kind? root).isSome := by
  cases h with
  | self hkind => rw [hkind, Option.isSome_some]
  | below hkind => rw [hkind, Option.isSome_some]

theorem entriesOf_run (h : ReadsDisk disk) (state : σ) (config : WorkspaceConfig) (root : String) :
    ∃ files, (config.entriesOf root : StateM σ _).run state = (files, state) ∧
      (∀ path ∈ files, config.LeadsTo (disk state) root path) ∧
      ((disk state).kind? root = some .file → root ∈ files) ∧
      ((disk state).IsOrderly → ∀ path, config.LeadsTo (disk state) root path → path ∈ files) := by
  rw [entriesOf, run_bind_of_eq (h.kind? root state)]
  cases hkind : (disk state).kind? root with
  | none =>
    refine ⟨[], rfl, by simp, nofun, ?_⟩
    intro _ path hleads
    exact absurd hleads.isSome (by simp [hkind])
  | some kind =>
    cases kind with
    | file =>
      refine ⟨[root], rfl, ?_, fun _ => List.mem_singleton.2 rfl, ?_⟩
      · intro path hpath
        rw [List.mem_singleton.1 hpath]
        exact .self hkind
      · intro _ path hleads
        cases hleads with
        | self => exact List.mem_singleton.2 rfl
        | below hother => simp [hkind] at hother
    | directory =>
      obtain ⟨files, hfiles, hsearch⟩ := filesBelow_run h state maxLevels [] root
      refine ⟨files.filter config.shouldProcess, run_bind_of_eq hfiles _, ?_, nofun, ?_⟩
      · intro path hpath
        obtain ⟨hmem, hshould⟩ := List.mem_filter.1 hpath
        exact .below hkind (hsearch.sound path hmem) hshould
      · intro horderly path hleads
        cases hleads with
        | self hother => simp [hkind] at hother
        | below _ hfinds hshould =>
          -- there are more levels than any path has bytes, so the search is not cut short
          have hlevels : FileTree.maxPathBytes < root.utf8ByteSize + maxLevels :=
            Nat.lt_add_left _ (by decide)
          have hmem := hsearch.complete horderly List.not_mem_nil hlevels path hfinds
          exact List.mem_filter.2 ⟨hmem, hshould⟩

/-- The entry points of a run are those that its roots lead to. -/
theorem findEntries_run (h : ReadsDisk disk) (state : σ) (config : WorkspaceConfig) :
    ∃ entries, (config.findEntries : StateM σ _).run state = (entries, state) ∧
      config.Gathers (disk state) entries := by
  obtain ⟨found, hfound, hsound, hcomplete⟩ :=
    exists_run_mapM fun root (_ : root ∈ config.roots) => entriesOf_run h state config root
  refine ⟨found.flatten, run_bind_of_eq hfound _, ?_, ?_, ?_⟩
  · intro path hpath
    obtain ⟨files, hfiles, hpath⟩ := List.mem_flatten.1 hpath
    obtain ⟨root, hroot, hleads, -⟩ := hsound files hfiles
    exact ⟨root, hroot, hleads path hpath⟩
  · intro root hroot hkind
    obtain ⟨files, hfiles, -, hself, -⟩ := hcomplete root hroot
    exact List.mem_flatten.2 ⟨files, hfiles, hself hkind⟩
  · intro horderly root hroot path hleads
    obtain ⟨files, hfiles, -, -, hall⟩ := hcomplete root hroot
    exact List.mem_flatten.2 ⟨files, hfiles, hall horderly path hleads⟩

/-- Roots that lead nowhere are passed over: the entry points are those of a configuration that
does not name them. -/
theorem findEntries_present (h : ReadsDisk disk) (state : σ) (config : WorkspaceConfig) :
    ((config.present (disk state)).findEntries : StateM σ _).run state =
      (config.findEntries : StateM σ _).run state := by
  have hroots : ∀ root ∈ config.roots, ∃ files,
      (config.entriesOf root : StateM σ _).run state = (files, state) ∧
        (((disk state).kind? root).isSome = false → files = []) := by
    -- a root that is not there stands for no file
    intro root _
    obtain ⟨files, hfiles, hsound, -⟩ := entriesOf_run h state config root
    refine ⟨files, hfiles, ?_⟩
    intro hnone
    apply List.eq_nil_iff_forall_not_mem.2
    intro path hpath
    exact absurd (hsound path hpath).isSome (by simp [hnone])
  obtain ⟨kept, all, hkept, hall, hflatten⟩ := exists_run_mapM_filter hroots
  have hentries : (config.findEntries : StateM σ _).run state = (all.flatten, state) :=
    run_bind_of_eq hall _
  rw [hentries, ← hflatten]
  exact run_bind_of_eq hkept _

end WorkspaceConfig

end Search

end SfcBundler
