import SfcBundler.Proofs.Files.Ways

/-!
# Trees inside trees

A directory in a file tree is the root of a tree of its own. A path that is counted from there and
stays below leads to the same place in the large tree as in the small one, unless the system's
limits come in between.

## Main definitions

* `Node.alone`: a directory as the root of a tree
* `Node.Keeps`: a path that is counted from a directory and stays below
* `FileTree.Holds`: a directory that lies at a path in a tree
* `Node.Fits`: a path that stays below, and that no limit forbids where the directory lies
* `Node.LiesAt`: a directory at a place in a tree, with what paths that fit lead to

## Main results

* `FileTree.walk_below`: steps that stay below lead to the same place
* `Node.exists_liesAt`: a directory that a tree holds lies at a place
* `Node.LiesAt.kind?_join`, `Node.LiesAt.entries_join`, `Node.LiesAt.canonical_join`: what is there
  is what is there in the directory alone
-/

namespace SfcBundler

/-- Two computations that both succeed, with related values, or both fail. -/
inductive SameOutcome {ε α β : Type} (related : α → β → Prop) : Except ε α → Except ε β → Prop
  | ok {value : α} {other : β} : related value other → SameOutcome related (.ok value) (.ok other)
  | error (failure other : ε) : SameOutcome related (.error failure) (.error other)

theorem SameOutcome.bind {ε α β γ δ : Type} {related : α → β → Prop} {next : γ → δ → Prop}
    {first : Except ε α} {second : Except ε β} {f : α → Except ε γ} {g : β → Except ε δ}
    (h : SameOutcome related first second)
    (hnext : ∀ value other, related value other → SameOutcome next (f value) (g other)) :
    SameOutcome next (first >>= f) (second >>= g) := by
  cases h with
  | ok hvalue => exact hnext _ _ hvalue
  | error failure other => exact .error failure other

namespace Node

/-- A directory as the root of a tree. -/
def alone (top : Node) : FileTree := ⟨top, "/"⟩

/-- Whether steps from a place below a directory stay below up to the first link, of whose target
and the rest of the way `judge` says so. -/
def keepsSteps (top : Node) (judge : String → List String → List String → Bool)
    (place : List String) : List String → Bool
  | [] => true
  | step :: rest =>
    if step = "" || step = "." then top.keepsSteps judge place rest
    else if step = ".." then !place.isEmpty && top.keepsSteps judge place.dropLast rest
    else match (top.at? place).bind (·.child? step) with
      | some (.directory _) => top.keepsSteps judge (place ++ [step]) rest
      | some (.link target) => judge target place rest
      | _ => true

/-- Whether steps from a place below a directory stay below: none climbs out of it, and no link on
the way leads to the root. Links beyond the first `links` are not followed. -/
def keepsWithin (top : Node) : Nat → List String → List String → Bool
  | 0 => top.keepsSteps fun _ _ _ => true
  | links + 1 => top.keepsSteps fun target place rest =>
    !Path.isAbsolute target && top.keepsWithin links place (FileTree.steps target ++ rest)

/-- A path that is counted from a directory and stays below. -/
def Keeps (top : Node) (path : String) : Prop :=
  Path.isAbsolute path = false ∧ top.keepsWithin FileTree.maxLinks [] (FileTree.steps path)

instance (top : Node) (path : String) : Decidable (top.Keeps path) :=
  inferInstanceAs (Decidable (_ ∧ _))

end Node

/-- A relative path seen from a directory stands behind a slash. -/
theorem Path.exists_front {dir : String} (hdir : isAbsolute dir) :
    ∃ front, (dir = front ∨ dir = front ++ "/") ∧ ∀ path, isAbsolute path = false →
      join dir path = front ++ "/" ++ path := by
  have hne : dir.toList ≠ [] := by
    intro hnil
    rw [isAbsolute, hnil] at hdir
    cases hdir
  by_cases hlast : dir.toList.getLast? = some '/'
  · obtain ⟨front, hfront⟩ := List.getLast?_eq_some_iff.1 hlast
    refine ⟨String.ofList front, .inr ?_, fun path hpath => ?_⟩
    · rw [← String.toList_inj]
      simp [hfront]
    · rw [join, joinText_eq_append hne hpath, if_pos hlast, ← String.toList_inj]
      simp [hfront]
  · refine ⟨dir, .inl rfl, fun path hpath => ?_⟩
    rw [join, joinText_eq_append hne hpath, if_neg hlast, ← String.toList_inj]
    simp

namespace FileTree

variable {tree : FileTree} {top : Node} {links left : Nat} {base place pending : List String}

/-- A place in a directory, seen from where the directory lies. -/
def Located.below (base : List String) (located : Located) : Located :=
  ⟨base ++ located.place, located.node⟩

section Below

variable (htop : tree.root.at? base = some top)
include htop

theorem at?_below (place : List String) : tree.root.at? (base ++ place) = top.at? place := by
  rw [Node.at?_append, htop, Option.bind_some]

/-- Steps that stay below lead to the same place, if what follows the first link does. -/
theorem walkSteps_below {judge : String → List String → List String → Bool}
    {next nextAlone : List String → List String → Except IoFailure Located}
    (hnext : ∀ target place rest, judge target place rest →
      next (if Path.isAbsolute target then [] else base ++ place) (steps target ++ rest) ≠
        .error .tooManyLinks →
      next (if Path.isAbsolute target then [] else base ++ place) (steps target ++ rest) =
        (nextAlone (if Path.isAbsolute target then [] else place) (steps target ++ rest)).map
          (.below base))
    (hkeeps : top.keepsSteps judge place pending)
    (hlinks : tree.walkSteps true next (base ++ place) pending ≠ .error .tooManyLinks) :
    tree.walkSteps true next (base ++ place) pending =
      (top.alone.walkSteps true nextAlone place pending).map (.below base) := by
  -- the cases are those of a step: it stays, it goes up, or it is a name that leads to something
  induction pending generalizing place with
  | nil =>
    rw [walkSteps, walkSteps, at?_below htop]
    rfl
  | cons step rest ih =>
    rw [Node.keepsSteps] at hkeeps
    rw [walkSteps, at?_below htop] at hlinks ⊢
    rw [walkSteps]
    by_cases htrivial : (step = "" || step = ".") = true
    · simp only [if_pos htrivial] at hkeeps hlinks ⊢
      exact ih hkeeps hlinks
    simp only [if_neg htrivial] at hkeeps hlinks ⊢
    by_cases hup : step = ".."
    · simp only [if_pos hup, Bool.and_eq_true] at hkeeps hlinks ⊢
      obtain ⟨hne, hkeeps⟩ := hkeeps
      -- a step up takes back one of the steps below the directory
      have hdrop : (base ++ place).dropLast = base ++ place.dropLast :=
        List.dropLast_append_of_ne_nil (by simpa using hne)
      rw [hdrop] at hlinks ⊢
      exact ih hkeeps hlinks
    simp only [if_neg hup] at hkeeps hlinks ⊢
    by_cases hlong : step.utf8ByteSize > maxNameBytes
    · rw [if_pos hlong, if_pos hlong]
      rfl
    rw [if_neg hlong] at hlinks
    rw [if_neg hlong, if_neg hlong]
    have hroot : top.alone.root = top := rfl
    rw [hroot]
    have happend : base ++ place ++ [step] = base ++ (place ++ [step]) := List.append_assoc ..
    rw [happend] at hlinks ⊢
    cases hchild : (top.at? place).bind (·.child? step) with
    | none => cases rest <;> rfl
    | some child =>
      simp only [hchild] at hkeeps hlinks ⊢
      cases child with
      | file bytes => cases rest <;> rfl
      | directory entries => exact ih hkeeps hlinks
      | link target =>
        -- what remains is to go on from the target, and no longer a matter of these steps
        simp only [Bool.not_true, Bool.and_false, Bool.false_eq_true, if_false] at hlinks ⊢
        exact hnext target place rest hkeeps hlinks

/-- Steps that stay below lead to the same place, unless they take too many links. -/
theorem walk_below (hleft : left ≤ links) (hkeeps : top.keepsWithin links place pending)
    (hlinks : tree.walk true left (base ++ place) pending ≠ .error .tooManyLinks) :
    tree.walk true left (base ++ place) pending =
      (top.alone.walk true links place pending).map (.below base) := by
  induction left generalizing links place pending with
  | zero =>
    rw [walk_eq] at hlinks ⊢
    rw [walk_eq]
    cases links with
    | zero => exact walkSteps_below htop (fun _ _ _ _ hnext => absurd rfl hnext) hkeeps hlinks
    | succ links =>
      exact walkSteps_below htop (fun _ _ _ _ hnext => absurd rfl hnext) hkeeps hlinks
  | succ left ih =>
    obtain ⟨links, rfl⟩ : ∃ more, links = more + 1 := ⟨links - 1, by omega⟩
    refine walkSteps_below htop ?_ hkeeps hlinks
    intro target place rest hjudge hnext
    obtain ⟨hrelative, hjudge⟩ := Bool.and_eq_true_iff.1 hjudge
    -- no link on the way leads to the root
    have hif (first second : List String) :
        (if Path.isAbsolute target then first else second) = second :=
      if_neg (by simpa using hrelative)
    rw [hif] at hnext ⊢
    rw [hif]
    exact ih (by omega) hjudge hnext

end Below

/-- A directory that lies at a path in a tree. -/
structure Holds (tree : FileTree) (dir : String) (top : Node) : Prop where
  isAbsolute : Path.isAbsolute dir
  isDirectory : ∃ entries, top = .directory entries
  found : ∃ base, tree.find dir = .ok (base, top)

/-- Whether a limit of the system forbids a path: it is too long, or leads through too many
links. -/
def isLimited (tree : FileTree) (path : String) : Bool :=
  match tree.locate path true with
  | .error .nameTooLong => true
  | .error .tooManyLinks => true
  | _ => false

theorem exists_of_isLimited {path : String} (h : tree.isLimited path) :
    ∃ failure, tree.locate path true = .error failure := by
  rw [isLimited] at h
  cases hlocate : tree.locate path true with
  | error failure => exact ⟨failure, rfl⟩
  | ok located =>
    rw [hlocate] at h
    cases h

end FileTree

/-- A path that is counted from a directory fits it where it lies: it stays below, and the limits
of the system forbid it there only if they do so anyway. -/
structure Node.Fits (top : Node) (tree : FileTree) (dir path : String) : Prop where
  keeps : top.Keeps path
  limited : tree.isLimited (Path.join dir path) → top.alone.isLimited ("/" ++ path)

instance (top : Node) (tree : FileTree) (dir path : String) : Decidable (top.Fits tree dir path) :=
  decidable_of_iff (top.Keeps path ∧
      (tree.isLimited (Path.join dir path) → top.alone.isLimited ("/" ++ path)))
    ⟨fun h => ⟨h.1, h.2⟩, fun h => ⟨h.keeps, h.limited⟩⟩

namespace FileTree

variable {tree : FileTree} {top : Node} {dir : String}

/-- The way to a directory, taken once for all paths that go on from there. -/
theorem Holds.exists_base (h : tree.Holds dir top) :
    ∃ base, tree.root.at? base = some top ∧ (∀ name ∈ base, Path.IsStep name.toList) ∧
      ∃ left ≤ maxLinks, ∀ path, Path.isAbsolute path = false →
        tree.walk true maxLinks [] (steps (Path.join dir path)) =
          tree.walk true left base (steps path) := by
  obtain ⟨entries, rfl⟩ := h.isDirectory
  obtain ⟨base, hfind⟩ := h.found
  obtain ⟨hnul, hsize, -⟩ := exists_of_locate (find_eq_ok.1 hfind)
  have hwalk : tree.walk true maxLinks [] (steps dir) = .ok ⟨base, some (.directory entries)⟩ := by
    rw [← locate_of_isAbsolute h.isAbsolute hnul hsize]
    exact find_eq_ok.1 hfind
  -- a slash at the end of the directory's own path is not written twice
  obtain ⟨front, trail, htrail, hdir, hjoin⟩ : ∃ front trail, (trail = [] ∨ trail = [""]) ∧
      steps dir = front ++ trail ∧ ∀ path, Path.isAbsolute path = false →
        steps (Path.join dir path) = front ++ steps path := by
    obtain ⟨front, hfront, hjoin⟩ := Path.exists_front h.isAbsolute
    have hsteps (path : String) (hpath : Path.isAbsolute path = false) :
        steps (Path.join dir path) = steps front ++ steps path := by
      rw [hjoin path hpath, steps_append_slash]
    rcases hfront with hfront | hfront
    · exact ⟨steps front, [], .inl rfl, by rw [hfront, List.append_nil], hsteps⟩
    · refine ⟨steps front, [""], .inr rfl, ?_, hsteps⟩
      have hslash : front ++ "/" = front ++ "/" ++ "" := String.append_empty.symm
      rw [hfront, hslash, steps_append_slash]
      rfl
  rw [hdir] at hwalk
  obtain ⟨htop, left, hleft, hrest⟩ := goesOn_walk htrail [] front hwalk
  have hroot : tree.IsDirectory base := ⟨entries, htop⟩
  refine ⟨base, htop, (ends_of_find hroot.root hfind).place, left, hleft, ?_⟩
  intro path hpath
  rw [hjoin path hpath, hrest]

theorem Holds.nul_notMem (h : tree.Holds dir top) : '\x00' ∉ dir.toList := by
  obtain ⟨base, hfind⟩ := h.found
  exact (exists_of_locate (find_eq_ok.1 hfind)).1

/-- A path below the directory is the path below a root of its own, with the directory in front. -/
theorem Holds.exists_front (h : tree.Holds dir top) : ∃ front : String, '\x00' ∉ front.toList ∧
    ∀ path, Path.isAbsolute path = false → Path.join dir path = front ++ ("/" ++ path) := by
  obtain ⟨front, hfront, hjoin⟩ := Path.exists_front h.isAbsolute
  refine ⟨front, ?_, fun path hpath => by rw [hjoin path hpath, String.append_assoc]⟩
  have hnul := h.nul_notMem
  rcases hfront with rfl | rfl
  · exact hnul
  · rw [String.toList_append, List.mem_append, not_or] at hnul
    exact hnul.1

/-- What a path that fits leads to is there where the directory lies, too. -/
theorem Holds.locate_join (h : tree.Holds dir top) :
    ∃ base, (∀ name ∈ base, Path.IsStep name.toList) ∧ ∀ path, top.Fits tree dir path →
      SameOutcome (fun own located => located = own.below base)
        (top.alone.locate ("/" ++ path) true) (tree.locate (Path.join dir path) true) := by
  obtain ⟨base, htop, hbase, left, hleft, hwalk⟩ := h.exists_base
  refine ⟨base, hbase, ?_⟩
  intro path hfits
  obtain ⟨hrelative, hkeeps⟩ := hfits.keeps
  have halone : Path.isAbsolute ("/" ++ path) := by
    rw [Path.isAbsolute, String.toList_append]
    rfl
  have hjoined : Path.isAbsolute (Path.join dir path) := by
    rw [Path.isAbsolute, Path.join, String.toList_ofList]
    exact Path.isAbsoluteText_joinText h.isAbsolute
  obtain ⟨front, hfrontNul, hjoin⟩ := h.exists_front
  have hends := hjoin path hrelative
  -- a path that is refused for its text is refused in both places
  by_cases hnul : '\x00' ∈ path.toList
  · rw [locate_of_nul tree true (by simp [hends, hnul]),
      locate_of_nul top.alone true (by simp [hnul])]
    exact .error _ _
  have hjoinedNul : '\x00' ∉ (Path.join dir path).toList := by
    simp [hends, hnul, hfrontNul]
  have haloneNul : '\x00' ∉ ("/" ++ path).toList := by
    simp [hnul]
  -- and so is one that a limit forbids
  have hforbidden (hlimit : tree.isLimited (Path.join dir path)) :
      SameOutcome (fun own located => located = own.below base)
        (top.alone.locate ("/" ++ path) true) (tree.locate (Path.join dir path) true) := by
    obtain ⟨failure, hown⟩ := exists_of_isLimited (hfits.limited hlimit)
    obtain ⟨other, hreal⟩ := exists_of_isLimited hlimit
    rw [hown, hreal]
    exact .error failure other
  by_cases hsize : (Path.join dir path).utf8ByteSize ≤ maxPathBytes
  · have haloneSize : ("/" ++ path).utf8ByteSize ≤ maxPathBytes := by
      rw [hends, String.utf8ByteSize_append] at hsize
      omega
    have hreal := (locate_of_isAbsolute hjoined hjoinedNul hsize).trans (hwalk path hrelative)
    have hown : top.alone.locate ("/" ++ path) true =
        top.alone.walk true maxLinks [] (steps path) := by
      rw [locate_of_isAbsolute halone haloneNul haloneSize, steps_slash, walk_eq]
      rfl
    by_cases hlinks : tree.walk true left base (steps path) = .error .tooManyLinks
    · apply hforbidden
      rw [isLimited, hreal, hlinks]
    · have hbelow := walk_below htop hleft hkeeps (by rwa [List.append_nil])
      rw [List.append_nil] at hbelow
      rw [hreal, hown, hbelow]
      cases top.alone.walk true maxLinks [] (steps path) with
      | error failure => exact .error failure failure
      | ok located => exact .ok rfl
  · apply hforbidden
    rw [isLimited, locate, if_neg (by simpa using hjoinedNul), if_neg (by simp [hends]),
      if_pos (by omega)]

end FileTree

namespace Node

/-- A directory that lies at a place in a tree: what a path that fits leads to is there. -/
structure LiesAt (top : Node) (tree : FileTree) (dir : String) (base : List String) : Prop where
  isDirectory : top.alone.IsDirectory []
  place : ∀ name ∈ base, Path.IsStep name.toList
  find : ∀ path, top.Fits tree dir path →
    SameOutcome (fun own found => found = (base ++ own.1, own.2))
      (top.alone.find ("/" ++ path)) (tree.find (Path.join dir path))

variable {top : Node} {tree : FileTree} {dir path : String} {base : List String}

theorem exists_liesAt (h : tree.Holds dir top) : ∃ base, top.LiesAt tree dir base := by
  obtain ⟨base, hbase, hlocate⟩ := h.locate_join
  obtain ⟨entries, htop⟩ := h.isDirectory
  refine ⟨base, ⟨entries, congrArg some htop⟩, hbase, ?_⟩
  intro path hfits
  refine (hlocate path hfits).bind ?_
  rintro ⟨place, node⟩ _ rfl
  cases node with
  | none => exact .error _ _
  | some node => exact .ok rfl

namespace LiesAt

variable (h : top.LiesAt tree dir base)
include h

theorem ends {place : List String} {node : Node}
    (hfind : top.alone.find ("/" ++ path) = .ok (place, node)) :
    FileTree.Ends (FileTree.steps path) ⟨place, some node⟩ := by
  have hends := FileTree.ends_of_find h.isDirectory hfind
  refine ⟨hends.place, ?_⟩
  intro bytes hnode
  obtain ⟨name, hname, hstep⟩ := hends.file bytes hnode
  rw [FileTree.steps_slash, ← List.singleton_append,
    List.getLast?_append_of_ne_nil _ (FileTree.steps_ne_nil path)] at hname
  exact ⟨name, hname, hstep⟩

/-- A path that leads to a file ends in the file's name. -/
theorem exists_name (hkind : top.alone.kind? ("/" ++ path) = some .file) :
    ∃ name, (FileTree.steps path).getLast? = some name ∧ Path.IsStep name.toList := by
  rw [FileTree.kind?] at hkind
  split at hkind
  · rename_i place bytes hfind
    exact (h.ends hfind).file bytes rfl
  · cases hkind
  · cases hkind

variable (hfits : top.Fits tree dir path)
include hfits

theorem kind?_join : tree.kind? (Path.join dir path) = top.alone.kind? ("/" ++ path) := by
  have hfind := h.find path hfits
  rw [FileTree.kind?, FileTree.kind?]
  generalize top.alone.find ("/" ++ path) = own at hfind ⊢
  generalize tree.find (Path.join dir path) = found at hfind ⊢
  cases hfind with
  | error failure other => rfl
  | @ok own found hfound =>
    obtain ⟨place, node⟩ := own
    rw [hfound]
    cases node <;> rfl

theorem entries_join : SameOutcome Eq (top.alone.entries ("/" ++ path))
    (tree.entries (Path.join dir path)) := by
  refine (h.find path hfits).bind ?_
  rintro ⟨place, node⟩ _ rfl
  cases node with
  | directory entries => exact .ok rfl
  | file bytes => exact .error _ _
  | link target => exact .error _ _

/-- Behind all links, a path leads to a place that is shifted as the directory is. -/
theorem canonical_join : SameOutcome (fun own found =>
      ∃ place, (∀ name ∈ place, Path.IsStep name.toList) ∧ own = FileTree.placeText place ∧
        found = FileTree.placeText (base ++ place))
    (top.alone.canonical ("/" ++ path)) (tree.canonical (Path.join dir path)) := by
  have hfind := h.find path hfits
  have hends (place : List String) (node : Node)
      (hown : top.alone.find ("/" ++ path) = .ok (place, node)) :
      ∀ name ∈ place, Path.IsStep name.toList := (h.ends hown).place
  rw [FileTree.canonical, FileTree.canonical]
  generalize top.alone.find ("/" ++ path) = own at hfind hends ⊢
  generalize tree.find (Path.join dir path) = found at hfind ⊢
  cases hfind with
  | error failure other => exact .error failure other
  | @ok own found hfound =>
    rw [hfound]
    exact .ok ⟨own.1, hends own.1 own.2 rfl, rfl, rfl⟩

end LiesAt

end Node

end SfcBundler
