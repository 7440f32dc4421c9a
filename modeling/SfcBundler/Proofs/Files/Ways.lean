import Mathlib.Data.List.Basic
import SfcBundler.Files.Tree
import SfcBundler.Proofs.Path.Placed

/-!
# Ways through a file tree

A path is a way through a file tree, step by step and from link to link. A way that ends in a
directory goes on from there; a way that ends at a file has the file's name as its last step.

## Main definitions

* `FileTree.jump`: what follows the first link of a way
* `FileTree.GoesOn`: ways that go on from the directory that a shorter one ends in
* `FileTree.FirstStep`: how a way takes its first step
* `FileTree.Ends`: what can be said of the end of a way

## Main results

* `FileTree.goesOn_walk`: ways go on from a directory
* `FileTree.find_eq_ok`, `FileTree.locate_of_isAbsolute`: a path that is followed is walked
* `FileTree.ends_of_find`: what a path leads to
* `FileTree.placeText_inj`: a place has a text of its own
-/

namespace SfcBundler

/-- A computation of two steps that does not fail, taken apart. -/
theorem exists_of_bind_ok {α β ε : Type} {first : Except ε α} {next : α → Except ε β} {value : β}
    (h : first >>= next = .ok value) : ∃ before, first = .ok before ∧ next before = .ok value := by
  cases first with
  | error error => cases h
  | ok before => exact ⟨before, rfl, h⟩

theorem Node.at?_append (node : Node) (front back : List String) :
    node.at? (front ++ back) = (node.at? front).bind (·.at? back) := by
  induction front generalizing node with
  | nil => rfl
  | cons name front ih =>
    rw [List.cons_append, at?, at?, Option.bind_assoc]
    exact congrArg (node.child? name).bind (funext fun child => ih child)

namespace FileTree

variable {tree : FileTree} {links : Nat} {base place pending rest : List String}

/-- What follows the first link of a way, if `links` may be followed. -/
def jump (tree : FileTree) (follow : Bool) :
    Nat → List String → List String → Except IoFailure Located
  | 0 => fun _ _ => .error .tooManyLinks
  | links + 1 => tree.walk follow links

theorem walk_eq (tree : FileTree) (follow : Bool) (links : Nat) :
    tree.walk follow links = tree.walkSteps follow (tree.jump follow links) := by
  cases links with
  | zero => rfl
  | succ links => rfl

theorem steps_ne_nil (path : String) : steps path ≠ [] := by
  rw [steps, ne_eq, List.map_eq_nil_iff]
  exact Text.fields_ne_nil '/' _

/-- Where a way ends in a directory, though a slash may stand behind it, longer ways go on from
there. -/
def GoesOn (tree : FileTree) (trail base : List String) (top : Node) (links : Nat)
    (run : List String → List String → Except IoFailure Located) : Prop :=
  ∀ start front, run start (front ++ trail) = .ok ⟨base, some top⟩ →
    tree.root.at? base = some top ∧
      ∃ left ≤ links, ∀ rest, run start (front ++ rest) = tree.walk true left base rest

theorem goesOn_walkSteps {trail : List String} {entries : List (String × Node)}
    {next : List String → List String → Except IoFailure Located}
    (htrail : trail = [] ∨ trail = [""]) (hwalk : tree.walk true links = tree.walkSteps true next)
    (hnext : tree.GoesOn trail base (.directory entries) links next) :
    tree.GoesOn trail base (.directory entries) links (tree.walkSteps true next) := by
  intro start front h
  induction front generalizing start with
  | nil =>
    have hstart : tree.walkSteps true next start trail = .ok ⟨start, tree.root.at? start⟩ := by
      rcases htrail with rfl | rfl <;> rfl
    obtain ⟨rfl, hnode⟩ := Located.mk.inj (Except.ok.inj (hstart.symm.trans h))
    refine ⟨hnode, links, Nat.le_refl links, ?_⟩
    intro rest
    rw [hwalk, List.nil_append]
  | cons step front ih =>
    simp only [List.cons_append, walkSteps] at h ⊢
    by_cases htrivial : (step = "" || step = ".") = true
    · simp only [if_pos htrivial] at h ⊢
      exact ih start h
    simp only [if_neg htrivial] at h ⊢
    by_cases hup : step = ".."
    · simp only [if_pos hup] at h ⊢
      exact ih start.dropLast h
    simp only [if_neg hup] at h ⊢
    by_cases hlong : step.utf8ByteSize > maxNameBytes
    · rw [if_pos hlong] at h
      cases h
    simp only [if_neg hlong] at h ⊢
    -- the way ends in a directory, so no step before may end elsewhere
    cases hchild : (tree.root.at? start).bind (·.child? step) with
    | none =>
      simp only [hchild] at h
      split at h <;> cases h
    | some child =>
      simp only [hchild] at h ⊢
      cases child with
      | file bytes =>
        dsimp only at h
        split at h <;> cases h
      | directory entries => exact ih (start ++ [step]) h
      | link target =>
        simp only [Bool.not_true, Bool.and_false, Bool.false_eq_true, if_false,
          ← List.append_assoc] at h ⊢
        exact hnext _ _ h

theorem goesOn_walk {trail : List String} (htrail : trail = [] ∨ trail = [""])
    {entries : List (String × Node)} :
    tree.GoesOn trail base (.directory entries) links (tree.walk true links) := by
  induction links with
  | zero => exact goesOn_walkSteps htrail (walk_eq tree true 0) nofun
  | succ links ih =>
    refine goesOn_walkSteps htrail (walk_eq tree true (links + 1)) ?_
    intro start front h
    obtain ⟨hnode, left, hleft, hrest⟩ := ih start front h
    exact ⟨hnode, left, by omega, hrest⟩

theorem steps_append_slash (front back : String) :
    steps (front ++ "/" ++ back) = steps front ++ steps back := by
  have hlist : (front ++ "/" ++ back).toList = front.toList ++ '/' :: back.toList := by
    simp
  rw [steps, hlist, Text.fields_append_mark, List.map_append]
  rfl

theorem steps_slash (path : String) : steps ("/" ++ path) = "" :: steps path :=
  steps_append_slash "" path

/-! The limits of the system -/

theorem exists_of_locate {path : String} {follow : Bool} {located : Located}
    (h : tree.locate path follow = .ok located) :
    '\x00' ∉ path.toList ∧ path.utf8ByteSize ≤ maxPathBytes ∧
      tree.walk follow maxLinks []
        (steps (if Path.isAbsolute path then "" else tree.workingDir) ++ steps path) =
          .ok located := by
  rw [locate] at h
  split at h
  · cases h
  rename_i hnul
  split at h
  · cases h
  split at h
  · cases h
  rename_i hsize
  exact ⟨by simpa using hnul, Nat.le_of_not_lt hsize, h⟩

/-- No place is looked for under a name with a nul. -/
theorem locate_of_nul (tree : FileTree) {path : String} (follow : Bool)
    (h : '\x00' ∈ path.toList) : tree.locate path follow = .error .nulInName := by
  rw [locate, if_pos (by simpa using h)]

theorem le_of_find {path : String} {found : List String × Node} (h : tree.find path = .ok found) :
    path.utf8ByteSize ≤ maxPathBytes := by
  obtain ⟨located, hlocated, -⟩ := exists_of_bind_ok h
  exact (exists_of_locate hlocated).2.1

theorem locate_of_isAbsolute {path : String} (hpath : Path.isAbsolute path)
    (hnul : '\x00' ∉ path.toList) (hsize : path.utf8ByteSize ≤ maxPathBytes) :
    tree.locate path true = tree.walk true maxLinks [] (steps path) := by
  have hne : path.isEmpty = false := by
    cases hempty : path.isEmpty with
    | false => rfl
    | true =>
      rw [String.isEmpty_iff.1 hempty] at hpath
      cases hpath
  rw [locate, if_neg (by simpa using hnul), if_neg (by simp [hne]), if_neg (by omega), if_pos hpath]
  dsimp only
  rw [walk_eq]
  rfl

theorem find_eq_ok {path : String} {place : List String} {node : Node} :
    tree.find path = .ok (place, node) ↔ tree.locate path true = .ok ⟨place, some node⟩ := by
  constructor
  · intro h
    obtain ⟨⟨_, node?⟩, hlocated, hnode⟩ := exists_of_bind_ok h
    cases node? with
    | none => cases hnode
    | some node =>
      cases hnode
      exact hlocated
  · intro h
    rw [find, h]
    rfl

/-! Where a way ends -/

/-- What can be said of the end of a way: its place takes only steps, and if a file is there, the
last of the way was the file's name. -/
structure Ends (pending : List String) (located : Located) : Prop where
  place : ∀ name ∈ located.place, Path.IsStep name.toList
  file : ∀ bytes, located.node = some (.file bytes) →
    ∃ name, pending.getLast? = some name ∧ Path.IsStep name.toList

theorem Ends.cons {located : Located} (h : Ends rest located) (step : String) :
    Ends (step :: rest) located where
  place := h.place
  file := by
    intro bytes hnode
    obtain ⟨name, hname, hstep⟩ := h.file bytes hnode
    exact ⟨name, by rw [List.getLast?_cons, hname, Option.getD_some], hstep⟩

/-- A last step that is a name may lead anywhere. -/
theorem Ends.of_link {located : Located} {front : List String} {step : String}
    (h : Ends (front ++ rest) located) (hstep : Path.IsStep step.toList) :
    Ends (step :: rest) located := by
  by_cases hrest : rest = []
  · subst hrest
    exact ⟨h.place, fun _ _ => ⟨step, rfl, hstep⟩⟩
  · refine Ends.cons ⟨h.place, ?_⟩ step
    intro bytes hnode
    obtain ⟨name, hname, hlast⟩ := h.file bytes hnode
    rw [List.getLast?_append_of_ne_nil _ hrest] at hname
    exact ⟨name, hname, hlast⟩

/-- A place whose node is a directory. -/
def IsDirectory (tree : FileTree) (place : List String) : Prop :=
  ∃ entries, tree.root.at? place = some (.directory entries)

theorem IsDirectory.dropLast (h : tree.IsDirectory place) : tree.IsDirectory place.dropLast := by
  obtain ⟨entries, hplace⟩ := h
  rcases List.eq_nil_or_concat' place with rfl | ⟨front, name, rfl⟩
  · exact ⟨entries, hplace⟩
  · rw [List.dropLast_concat]
    rw [Node.at?_append] at hplace
    obtain ⟨node, hfront, hchild⟩ := Option.bind_eq_some_iff.1 hplace
    refine ⟨node.entries, hfront.trans ?_⟩
    -- only a directory has a child
    cases node with
    | directory entries => rfl
    | file bytes => cases hchild
    | link target => cases hchild

theorem notMem_steps {path step : String} (h : step ∈ steps path) : '/' ∉ step.toList := by
  obtain ⟨segment, hsegment, rfl⟩ := List.mem_map.1 h
  rw [String.toList_ofList]
  exact Text.notMem_of_mem_fields hsegment

theorem isStep_of_ne {step : String} (htrivial : ¬ (step = "" || step = ".") = true)
    (hup : step ≠ "..") (hslash : '/' ∉ step.toList) : Path.IsStep step.toList where
  notTrivial := by
    rw [Bool.or_eq_true, decide_eq_true_eq, decide_eq_true_eq, not_or] at htrivial
    rw [Path.isTrivial, Bool.or_eq_false_iff, beq_eq_false_iff_ne, beq_eq_false_iff_ne]
    refine ⟨fun hnil => htrivial.1 ?_, fun hdot => htrivial.2 ?_⟩
    · rw [← String.toList_inj, hnil, String.toList_empty]
    · rw [← String.toList_inj, hdot]
      rfl
  ne_up hdots := hup (by rw [← String.toList_inj, hdots]; rfl)
  noSlash := hslash

/-- How a way takes its first step, when it comes to an end. -/
inductive FirstStep (tree : FileTree)
    (next : List String → List String → Except IoFailure Located) (place : List String)
    (step : String) (rest : List String) (located : Located) : Prop
  | stay (h : tree.walkSteps true next place rest = .ok located)
  | up (h : tree.walkSteps true next place.dropLast rest = .ok located)
  | down (hstep : Path.IsStep step.toList) (hdir : tree.IsDirectory (place ++ [step]))
    (h : tree.walkSteps true next (place ++ [step]) rest = .ok located)
  | last (hstep : Path.IsStep step.toList) (hrest : rest = [])
    (hplace : located.place = place ++ [step])
  | link (hstep : Path.IsStep step.toList) (target : String)
    (h : next (if Path.isAbsolute target then [] else place) (steps target ++ rest) = .ok located)

theorem firstStep_of_walkSteps {next : List String → List String → Except IoFailure Located}
    {step : String} {located : Located} (hslash : '/' ∉ step.toList)
    (h : tree.walkSteps true next place (step :: rest) = .ok located) :
    tree.FirstStep next place step rest located := by
  rw [walkSteps] at h
  by_cases htrivial : (step = "" || step = ".") = true
  · rw [if_pos htrivial] at h
    exact .stay h
  rw [if_neg htrivial] at h
  by_cases hup : step = ".."
  · rw [if_pos hup] at h
    exact .up h
  rw [if_neg hup] at h
  by_cases hlong : step.utf8ByteSize > maxNameBytes
  · rw [if_pos hlong] at h
    cases h
  rw [if_neg hlong] at h
  have hstep : Path.IsStep step.toList := isStep_of_ne htrivial hup hslash
  -- what stands at the end of a way, a file or nothing, stands nowhere else
  have hlast {node : Option Node} {failure : IoFailure}
      (hend : (if rest.isEmpty then .ok ⟨place ++ [step], node⟩ else .error failure) =
        (.ok located : Except IoFailure Located)) :
      tree.FirstStep next place step rest located := by
    split at hend
    · obtain rfl := Except.ok.inj hend
      exact .last hstep (List.isEmpty_iff.1 ‹_›) rfl
    · cases hend
  cases hchild : (tree.root.at? place).bind (·.child? step) with
  | none =>
    rw [hchild] at h
    exact hlast h
  | some child =>
    rw [hchild] at h
    cases child with
    | file bytes => exact hlast h
    | directory entries =>
      refine .down hstep ⟨entries, ?_⟩ h
      rw [Node.at?_append, ← hchild]
      exact congrArg _ (funext fun node => Option.bind_fun_some _)
    | link target =>
      simp only [Bool.not_true, Bool.and_false, Bool.false_eq_true, if_false] at h
      exact .link hstep target h

theorem ends_of_walkSteps {next : List String → List String → Except IoFailure Located}
    {located : Located} (hroot : tree.IsDirectory [])
    (hnext : ∀ start rest, tree.IsDirectory start → (∀ name ∈ start, Path.IsStep name.toList) →
      (∀ step ∈ rest, '/' ∉ step.toList) → ∀ located, next start rest = .ok located →
        Ends rest located)
    (hdir : tree.IsDirectory place) (hplace : ∀ name ∈ place, Path.IsStep name.toList)
    (hpending : ∀ step ∈ pending, '/' ∉ step.toList)
    (h : tree.walkSteps true next place pending = .ok located) : Ends pending located := by
  induction pending generalizing place with
  | nil =>
    rw [walkSteps] at h
    obtain rfl := Except.ok.inj h
    obtain ⟨entries, hdir⟩ := hdir
    refine ⟨hplace, ?_⟩
    intro bytes hnode
    cases hdir.symm.trans hnode
  | cons step rest ih =>
    obtain ⟨hslash, hrest⟩ := List.forall_mem_cons.1 hpending
    have hdeeper (hstep : Path.IsStep step.toList) :
        ∀ name ∈ place ++ [step], Path.IsStep name.toList :=
      List.forall_mem_append.2 ⟨hplace, List.forall_mem_singleton.2 hstep⟩
    cases firstStep_of_walkSteps hslash h with
    | stay h => exact (ih hdir hplace hrest h).cons step
    | up h =>
      have hdrop : ∀ name ∈ place.dropLast, Path.IsStep name.toList := fun name hname =>
        hplace name (List.dropLast_subset place hname)
      exact (ih hdir.dropLast hdrop hrest h).cons step
    | down hstep hbelow h => exact (ih hbelow (hdeeper hstep) hrest h).cons step
    | last hstep hnone hend =>
      subst hnone
      exact ⟨hend ▸ hdeeper hstep, fun _ _ => ⟨step, rfl, hstep⟩⟩
    | link hstep target h =>
      have hmore : ∀ other ∈ steps target ++ rest, '/' ∉ other.toList :=
        List.forall_mem_append.2 ⟨fun other hother => notMem_steps hother, hrest⟩
      have hends : Ends (steps target ++ rest) located := by
        split at h
        -- a link to the root starts there
        · exact hnext [] _ hroot nofun hmore located h
        · exact hnext place _ hdir hplace hmore located h
      exact hends.of_link hstep

theorem ends_of_walk {located : Located} (hroot : tree.IsDirectory [])
    (hdir : tree.IsDirectory place) (hplace : ∀ name ∈ place, Path.IsStep name.toList)
    (hpending : ∀ step ∈ pending, '/' ∉ step.toList)
    (h : tree.walk true links place pending = .ok located) : Ends pending located := by
  induction links generalizing place pending located with
  | zero =>
    refine ends_of_walkSteps hroot ?_ hdir hplace hpending h
    intro start rest _ _ _ located hrun
    cases hrun
  | succ links ih =>
    refine ends_of_walkSteps hroot ?_ hdir hplace hpending h
    intro start rest hstart hnames hsteps located hrun
    exact ih hstart hnames hsteps hrun

/-- A path that leads somewhere takes only steps on the way, once all links are followed, and ends
in the name of a file if it leads to one. -/
theorem ends_of_find {path : String} {node : Node} (hroot : tree.IsDirectory [])
    (h : tree.find path = .ok (place, node)) : Ends (steps path) ⟨place, some node⟩ := by
  obtain ⟨-, -, hwalk⟩ := exists_of_locate (find_eq_ok.1 h)
  have hslash : ∀ step ∈ steps (if Path.isAbsolute path then "" else tree.workingDir) ++
      steps path, '/' ∉ step.toList := by
    intro step hstep
    rcases List.mem_append.1 hstep with hstep | hstep
    · exact notMem_steps hstep
    · exact notMem_steps hstep
  have hends := ends_of_walk hroot hroot nofun hslash hwalk
  refine ⟨hends.place, ?_⟩
  intro bytes hnode
  obtain ⟨name, hname, hstep⟩ := hends.file bytes hnode
  rw [List.getLast?_append_of_ne_nil _ (steps_ne_nil path)] at hname
  exact ⟨name, hname, hstep⟩

/-- Where there is a directory, the root is one. -/
theorem IsDirectory.root (h : tree.IsDirectory place) : tree.IsDirectory [] := by
  obtain ⟨entries, hplace⟩ := h
  cases place with
  | nil => exact ⟨entries, hplace⟩
  | cons name rest =>
    obtain ⟨child, hchild, -⟩ := Option.bind_eq_some_iff.1 hplace
    refine ⟨tree.root.entries, ?_⟩
    cases hroot : tree.root with
    | directory entries => rfl
    | file bytes =>
      rw [hroot] at hchild
      cases hchild
    | link target =>
      rw [hroot] at hchild
      cases hchild

theorem toList_placeText (place : List String) :
    (placeText place).toList = '/' :: Text.join ['/'] (place.map String.toList) := by
  rw [placeText, String.toList_append, String.toList_intercalate]
  have hjoin (pieces : List (List Char)) : ['/'].intercalate pieces = Text.join ['/'] pieces := by
    induction pieces with
    | nil => rfl
    | cons piece pieces ih =>
      cases pieces with
      | nil => simp [Text.join]
      | cons next pieces => rw [List.intercalate_cons_cons, ih, Text.join, List.append_assoc]
  rw [← hjoin]
  rfl

/-- A place has a text of its own. -/
theorem placeText_inj {first second : List String}
    (hfirst : ∀ name ∈ first, Path.IsStep name.toList)
    (hsecond : ∀ name ∈ second, Path.IsStep name.toList) :
    placeText first = placeText second ↔ first = second := by
  refine ⟨?_, congrArg placeText⟩
  intro h
  have hsteps {place : List String} (hplace : ∀ name ∈ place, Path.IsStep name.toList) :
      Path.normalize (placeText place).toList = ⟨true, place.map String.toList⟩ := by
    rw [toList_placeText]
    refine Path.normalize_of_isStep ?_
    intro segment hsegment
    obtain ⟨name, hname, rfl⟩ := List.mem_map.1 hsegment
    exact hplace name hname
  have hsegments := congrArg Path.Normal.segments
    ((hsteps hfirst).symm.trans ((congrArg (fun text => Path.normalize text.toList) h).trans
      (hsteps hsecond)))
  exact List.map_injective_iff.2 (fun _ _ hlist => String.toList_inj.1 hlist) hsegments

end FileTree

end SfcBundler
