import SfcBundler.Proofs.Plugin.Relocation

/-!
# A build does not depend on where the project lies

Two builds of a project in two directories take the same rounds. After each of them they have built
the same modules, met as many errors, and go on with specifiers that mean the same.

## Main definitions

* `Site.next`: a round of a site, as a function
* `Project.outline`: what a build gives, told without its directory
* `Project.ofStyles`, `Project.snapshot`: a project of style sheets, and files that hold a project

## Main results

* `Site.round_run`: a round depends on the site, the walk and the frontier alone
* `Project.next_same`: a round keeps two walks in step
* `Project.outline_eq`: a project that can be moved is built the same in all ordinary directories
-/

namespace SfcBundler

namespace Site

variable (site : Site)

/-- A round of a site: the walk and the frontier after it. -/
def next (walk : Walk) (frontier : List ResolveArgs) : Walk × List ResolveArgs :=
  let (walk, pending) := walk.takeAllResolved (frontier.map fun args => (args, site.resolved args))
  walk.takeAllLoaded (pending.map fun module => (module, site.outcome module))

theorem eq_map_of_answers {α β : Type} {answer : α → β} {questions : List α} {pairs : List (α × β)}
    (hquestions : pairs.map Prod.fst = questions)
    (hanswers : ∀ question given, (question, given) ∈ pairs → given = answer question) :
    pairs = questions.map fun question => (question, answer question) := by
  rw [← hquestions, List.map_map]
  refine (List.map_id pairs).symm.trans (List.map_congr_left fun pair hpair => ?_)
  exact Prod.ext rfl (hanswers pair.1 pair.2 hpair)

theorem resolveAll_run (frontier : List ResolveArgs) (before : List Request) :
    (frontier.mapM fun args => do return (args, ← site.hosted.resolve args)).run
        (site.session.withRequests before) =
      (frontier.map fun args => (args, site.resolved args), site.session.withRequests before) := by
  obtain ⟨hquestions, hresolve⟩ :=
    Answered.of_mapM site.hosted.resolve frontier (site.session.withRequests before)
  obtain ⟨hsession, hresolved⟩ := answered_resolve hresolve
  exact Prod.ext (eq_map_of_answers hquestions hresolved) hsession

theorem loadAll_run (pending : List PendingModule) (before : List Request) :
    ∃ after, (pending.mapM fun module => do return (module, ← site.hosted.load module)).run
        (site.session.withRequests before) =
      (pending.map fun module => (module, site.outcome module),
        site.session.withRequests after) := by
  obtain ⟨hquestions, hload⟩ :=
    Answered.of_mapM site.hosted.load pending (site.session.withRequests before)
  obtain ⟨hsession, hloaded⟩ := answered_load hload
  exact ⟨_, Prod.ext (eq_map_of_answers hquestions hloaded) hsession⟩

/-- A round depends on the site, the walk and the frontier alone. -/
theorem round_run (walk : Walk) (frontier : List ResolveArgs) (before : List Request) :
    ∃ after, (site.hosted.round walk frontier).run (site.session.withRequests before) =
      (site.next walk frontier, site.session.withRequests after) := by
  rw [Build.round, run_bind_of_eq (site.resolveAll_run frontier before)]
  obtain ⟨after, hload⟩ := site.loadAll_run
    (walk.takeAllResolved (frontier.map fun args => (args, site.resolved args))).2 before
  exact ⟨after, by rw [run_bind_of_eq hload]; rfl⟩

end Site

namespace Project

variable {project : Project} {dir dir' : String} {disk disk' : Snapshot}

/-! ### Walks in step -/

theorem forall₂_toList {α β : Type} {related : α → β → Prop} {item? : Option α} {item?' : Option β}
    (h : Option.Rel related item? item?') : List.Forall₂ related item?.toList item?'.toList := by
  cases h with
  | none => exact .nil
  | some hitem => exact .cons hitem .nil

section Walk

variable {walk walk' : Walk}

theorem SameWalk.withErrors (h : SameWalk dir dir' walk walk') {errors errors' : List Message}
    (herrors : errors.length = errors'.length) :
    SameWalk dir dir' (walk.withErrors errors) (walk'.withErrors errors') where
  seen := h.seen
  modules := h.modules
  errors := by simp [Walk.withErrors, h.errors, herrors]

theorem SameWalk.withWarnings (h : SameWalk dir dir' walk walk')
    (warnings warnings' : List Message) :
    SameWalk dir dir' (walk.withWarnings warnings) (walk'.withWarnings warnings') :=
  ⟨h.seen, h.modules, h.errors⟩

/-- Keys of one module are keys of one module in the other directory, too. -/
theorem biUnique_sameKey (habsolute : Path.isAbsolute dir) (habsolute' : Path.isAbsolute dir') :
    Relator.BiUnique (SameKey dir dir') := by
  constructor
  · rintro ⟨space, path⟩ ⟨other, path'⟩ ⟨target, place⟩ ⟨rfl, steps, hsteps, rfl, hplace⟩
      ⟨rfl, steps', hsteps', rfl, hplace'⟩
    rw [Path.place_injective habsolute' hsteps hsteps' (hplace.symm.trans hplace')]
  · rintro ⟨target, place⟩ ⟨space, path⟩ ⟨other, path'⟩ ⟨rfl, steps, hsteps, hplace, rfl⟩
      ⟨rfl, steps', hsteps', hplace', rfl⟩
    rw [Path.place_injective habsolute hsteps hsteps' (hplace.symm.trans hplace')]

variable (habsolute : Path.isAbsolute dir) (habsolute' : Path.isAbsolute dir')
include habsolute habsolute'

theorem contains_same (h : SameWalk dir dir' walk walk') {key key' : ModuleKey}
    (hkey : SameKey dir dir' key key') : walk.seen.contains key = walk'.seen.contains key' := by
  rw [Bool.eq_iff_iff, List.contains_iff_mem, List.contains_iff_mem]
  exact List.rel_mem (biUnique_sameKey habsolute habsolute') hkey h.seen

/-- A specifier that leads to the same leaves the same module to be loaded, or none. -/
theorem takeResolved_same (h : SameWalk dir dir' walk walk')
    {target target' : Except Message ResolveResult}
    (htarget : project.SameTarget dir dir' target target') (args args' : ResolveArgs) :
    SameWalk dir dir' (walk.takeResolved args target).1 (walk'.takeResolved args' target').1 ∧
      Option.Rel (project.SamePending dir dir') (walk.takeResolved args target).2
        (walk'.takeResolved args' target').2 := by
  cases htarget with
  | error message message' => exact ⟨h.withErrors rfl, .none⟩
  | @external result result' herrors herrors' hexternal hexternal' =>
    simp only [Walk.takeResolved, herrors, herrors', hexternal, hexternal', List.isEmpty_nil,
      Bool.not_true, Bool.false_eq_true, if_false, if_true]
    exact ⟨h.withWarnings _ _, .none⟩
  | @module result result' herrors herrors' hexternal hexternal' hspace hplace hdata =>
    simp only [Walk.takeResolved, herrors, herrors', hexternal, hexternal', ← hspace,
      List.isEmpty_nil, Bool.not_true, Bool.false_eq_true, if_false]
    generalize hkind : (if result.space = "" then fileSpace else result.space) = space
    have hwarned := h.withWarnings result.warnings result'.warnings
    have hkey : SameKey dir dir' (space, result.path) (space, result'.path) := ⟨rfl, hplace⟩
    -- the key was seen in both walks or in none
    rw [contains_same habsolute habsolute' hwarned hkey]
    split
    · exact ⟨hwarned, .none⟩
    · exact ⟨⟨.cons hkey hwarned.seen, hwarned.modules, hwarned.errors⟩, .some ⟨hplace, rfl, hdata⟩⟩

/-- Specifiers that mean the same leave the same modules to be loaded. -/
theorem takeAllResolved_same {site site' : Site}
    (hresolved : ∀ args args', project.SameSpecifier dir dir' args args' →
      project.SameTarget dir dir' (site.resolved args) (site'.resolved args'))
    {frontier frontier' : List ResolveArgs}
    (hfrontier : List.Forall₂ (project.SameSpecifier dir dir') frontier frontier')
    (h : SameWalk dir dir' walk walk') :
    SameWalk dir dir'
        (walk.takeAllResolved (frontier.map fun args => (args, site.resolved args))).1
        (walk'.takeAllResolved (frontier'.map fun args => (args, site'.resolved args))).1 ∧
      List.Forall₂ (project.SamePending dir dir')
        (walk.takeAllResolved (frontier.map fun args => (args, site.resolved args))).2
        (walk'.takeAllResolved (frontier'.map fun args => (args, site'.resolved args))).2 := by
  induction hfrontier generalizing walk walk' with
  | nil => exact ⟨h, .nil⟩
  | @cons args args' rest rest' hargs _ ih =>
    obtain ⟨hnext, hpending⟩ :=
      takeResolved_same habsolute habsolute' h (hresolved args args' hargs) args args'
    obtain ⟨hlast, hmore⟩ := ih hnext
    exact ⟨hlast, List.rel_append (forall₂_toList hpending) hmore⟩

omit habsolute habsolute' in
/-- Modules that load the same are taken in the same. -/
theorem takeLoaded_same (h : SameWalk dir dir' walk walk')
    {outcome outcome' : Except Message LoadedModule}
    (houtcome : project.SameOutcome dir dir' outcome outcome') (pending pending' : PendingModule) :
    SameWalk dir dir' (walk.takeLoaded pending outcome).1 (walk'.takeLoaded pending' outcome').1 ∧
      List.Forall₂ (project.SameSpecifier dir dir') (walk.takeLoaded pending outcome).2
        (walk'.takeLoaded pending' outcome').2 := by
  cases houtcome with
  | error message message' => exact ⟨h.withErrors rfl, .nil⟩
  | @loaded loaded loaded' herrors hmodule himports =>
    have hwarned := h.withWarnings loaded.warnings loaded'.warnings
    simp only [Walk.takeLoaded]
    -- a module is kept if its load left no errors, and both loads left as many
    by_cases hfailed : loaded.errors = []
    · have hfailed' : loaded'.errors = [] :=
        List.eq_nil_of_length_eq_zero (by simp [← herrors, hfailed])
      rw [if_neg (by simp [hfailed]), if_neg (by simp [hfailed'])]
      exact ⟨⟨hwarned.seen, List.rel_append hwarned.modules (.cons hmodule .nil), hwarned.errors⟩,
        himports⟩
    · have hfailed' : loaded'.errors ≠ [] := fun hnil =>
        hfailed (List.eq_nil_of_length_eq_zero (by simp [herrors, hnil]))
      rw [if_pos (by simp [hfailed]), if_pos (by simp [hfailed'])]
      exact ⟨hwarned.withErrors (by simp [herrors]), .nil⟩

omit habsolute habsolute' in
theorem takeAllLoaded_same {site site' : Site}
    (houtcome : ∀ pending pending', project.SamePending dir dir' pending pending' →
      project.SameOutcome dir dir' (site.outcome pending) (site'.outcome pending'))
    {pending pending' : List PendingModule}
    (hpending : List.Forall₂ (project.SamePending dir dir') pending pending')
    (h : SameWalk dir dir' walk walk') :
    SameWalk dir dir'
        (walk.takeAllLoaded (pending.map fun module => (module, site.outcome module))).1
        (walk'.takeAllLoaded (pending'.map fun module => (module, site'.outcome module))).1 ∧
      List.Forall₂ (project.SameSpecifier dir dir')
        (walk.takeAllLoaded (pending.map fun module => (module, site.outcome module))).2
        (walk'.takeAllLoaded (pending'.map fun module => (module, site'.outcome module))).2 := by
  induction hpending generalizing walk walk' with
  | nil => exact ⟨h, .nil⟩
  | @cons module module' rest rest' hmodule _ ih =>
    obtain ⟨hnext, himports⟩ := takeLoaded_same h (houtcome module module' hmodule) module module'
    obtain ⟨hlast, hmore⟩ := ih hnext
    exact ⟨hlast, List.rel_append himports hmore⟩

end Walk

/-! ### Builds -/

/-- The entry points of a build mean the same. -/
theorem entryFrontier_same (habsolute : Path.isAbsolute dir) (habsolute' : Path.isAbsolute dir')
    {entries : List String} (hentries : ∀ entry ∈ entries, Keeps [] entry) :
    List.Forall₂ (project.SameSpecifier dir dir') (Build.entryFrontier dir entries)
      (Build.entryFrontier dir' entries) :=
  forall₂_map_of_mem fun entry hentry => .written [] rfl (Path.leadsTo_self habsolute)
    (Path.leadsTo_self habsolute') (hentries entry hentry) .none

section Build

variable {entries : List String} (hportable : project.IsPortable entries)
  (hlies : project.LiesAt disk dir) (hlies' : project.LiesAt disk' dir')
  (hdir : Path.IsOrdinary dir) (hdir' : Path.IsOrdinary dir')
include hportable hlies hlies' hdir hdir'

/-- A round keeps two walks in step. -/
theorem next_same {walk walk' : Walk} {frontier frontier' : List ResolveArgs}
    (h : SameWalk dir dir' walk walk')
    (hfrontier : List.Forall₂ (project.SameSpecifier dir dir') frontier frontier') :
    SameWalk dir dir' ((project.site disk dir).next walk frontier).1
        ((project.site disk' dir').next walk' frontier').1 ∧
      List.Forall₂ (project.SameSpecifier dir dir')
        ((project.site disk dir).next walk frontier).2
        ((project.site disk' dir').next walk' frontier').2 := by
  have hresolved (args args' : ResolveArgs) (hargs : project.SameSpecifier dir dir' args args') :=
    resolved_same hdir hdir' disk disk' hlies.isAbsolute hlies'.isAbsolute hargs
  obtain ⟨hwalk, hpending⟩ :=
    takeAllResolved_same hlies.isAbsolute hlies'.isAbsolute hresolved hfrontier h
  exact takeAllLoaded_same
    (fun _ _ hmodule => outcome_same hportable hlies hlies' hdir hdir' hmodule) hpending hwalk

/-- So do all rounds, and they come to an end together. -/
theorem rounds_same (limit : Nat) {walk walk' : Walk} {frontier frontier' : List ResolveArgs}
    (h : SameWalk dir dir' walk walk')
    (hfrontier : List.Forall₂ (project.SameSpecifier dir dir') frontier frontier')
    (before before' : List Request) :
    Option.Rel (SameWalk dir dir')
      (((project.site disk dir).hosted.rounds limit walk frontier).run
        ((project.site disk dir).session.withRequests before)).1
      (((project.site disk' dir').hosted.rounds limit walk' frontier').run
        ((project.site disk' dir').session.withRequests before')).1 := by
  induction limit generalizing walk walk' frontier frontier' before before' with
  | zero =>
    cases hfrontier with
    | nil => exact .some h
    | cons hargs hrest => exact .none
  | succ limit ih =>
    cases hfrontier with
    | nil => exact .some h
    | @cons args args' rest rest' hargs hrest =>
      obtain ⟨after, hround⟩ := (project.site disk dir).round_run walk (args :: rest) before
      obtain ⟨after', hround'⟩ := (project.site disk' dir').round_run walk' (args' :: rest') before'
      obtain ⟨hnext, hmore⟩ := next_same hportable hlies hlies' hdir hdir' h (.cons hargs hrest)
      rw [Build.rounds, Build.rounds, run_bind_of_eq hround, run_bind_of_eq hround']
      exact ih hnext hmore after after'

end Build

/-- What a build of a project gives, told without the directory: the namespace, the loader and the
way from the directory of every module in order, and how many errors there are. -/
def outline (project : Project) (disk : Snapshot) (dir : String) (limit : Nat)
    (entries : List String) : Option (List (String × Loader × Option String) × Nat) :=
  (((project.site disk dir).build limit entries).run (project.site disk dir).opened).1.map
    fun result => (result.modules.map fun module =>
      (module.space, module.loader, Path.relativeTo? module.path dir), result.errors.length)

/-- A build gives what its rounds do, as no start or end hook does anything. -/
theorem build_run_eq (limit : Nat) (entries : List String) :
    (((project.site disk dir).build limit entries).run (project.site disk dir).opened).1 =
      (((project.site disk dir).hosted.rounds limit {} (Build.entryFrontier dir entries)).run
        (project.site disk dir).session).1.map (·.result) := by
  have hdir : (BuildOptions.baseDir (m := StateM Session)
      (project.site disk dir).hosted.options).run (project.site disk dir).session =
        (dir, (project.site disk dir).session) := rfl
  have hstart : (Build.runStart (project.site disk dir).hosted.options
      ((project.site disk dir).hosted.hooks (·.onStart))).run (project.site disk dir).session =
        ([], (project.site disk dir).session) := Site.runStart_run
  rw [Site.build_run, Build.run_of_start hstart hdir, StateT.run_bind]
  rcases ((project.site disk dir).hosted.rounds limit {} (Build.entryFrontier dir entries)).run
    (project.site disk dir).session with ⟨_ | walk, final⟩
  · rfl
  · rfl

/-- The same modules are told the same. -/
theorem map_outline_eq (habsolute : Path.isAbsolute dir) (habsolute' : Path.isAbsolute dir')
    {modules modules' : List OutputModule}
    (h : List.Forall₂ (SameModule dir dir') modules modules') :
    (modules.map fun module => (module.space, module.loader, Path.relativeTo? module.path dir)) =
      modules'.map fun module =>
        (module.space, module.loader, Path.relativeTo? module.path dir') := by
  induction h with
  | nil => rfl
  | @cons module module' rest rest' hmodule _ ih =>
    obtain ⟨steps, hsteps, hpath, hpath'⟩ := hmodule.place
    rw [List.map_cons, List.map_cons, ih, hmodule.space, hmodule.loader, hpath, hpath',
      Path.relativeTo?_place habsolute hsteps, Path.relativeTo?_place habsolute' hsteps]

/-- A project that can be moved is built the same in all ordinary directories: the same modules by
namespace, loader and way from the directory, in the same order, and as many errors. -/
theorem outline_eq {entries : List String} (hportable : project.IsPortable entries)
    (hlies : project.LiesAt disk dir) (hlies' : project.LiesAt disk' dir')
    (hdir : Path.IsOrdinary dir) (hdir' : Path.IsOrdinary dir') (limit : Nat) :
    project.outline disk dir limit entries = project.outline disk' dir' limit entries := by
  have hstart : SameWalk dir dir' {} {} := ⟨.nil, .nil, rfl⟩
  have hrounds := rounds_same hportable hlies hlies' hdir hdir' limit hstart
    (entryFrontier_same hlies.isAbsolute hlies'.isAbsolute hportable.entries) [] []
  rw [outline, outline, build_run_eq, build_run_eq]
  change Option.map _ (Option.map _ (((project.site disk dir).hosted.rounds limit {} _).run
    ((project.site disk dir).session.withRequests [])).1) =
    Option.map _ (Option.map _ (((project.site disk' dir').hosted.rounds limit {} _).run
      ((project.site disk' dir').session.withRequests [])).1)
  -- from here on only the walks count at which the rounds have arrived
  generalize (((project.site disk dir).hosted.rounds limit {} _).run _).1 = walk?,
    (((project.site disk' dir').hosted.rounds limit {} _).run _).1 = walk?' at hrounds
  cases hrounds with
  | none => rfl
  | some hwalk =>
    simp only [Option.map_some, hwalk.errors,
      map_outline_eq hlies.isAbsolute hlies'.isAbsolute hwalk.modules]

/-! ### Projects of style sheets -/

/-- A project of components with nothing but a style block, which is all of their source. The files
are named by their paths in the project. -/
def ofStyles (files : List (String × String)) : Project where
  answer
    | _, _ :: _ :: source :: _ =>
      .ok (Json.ofFields [("styles", .array [Json.ofFields [("code", source)]])])
    | _, _ => .ok .null
  file? steps := (files.find? fun file => Text.fields '/' file.1.toList = steps).map
    fun file => Utf8.encode file.2.toList

/-- Files that hold a project in a directory, and nothing else. -/
def snapshot (project : Project) (dir : String) : Snapshot where
  readBytes path :=
    let file := if Path.isAbsolute path then
      ((Path.stepsTo dir).isPrefixOf? (Path.stepsTo path)).bind project.file? else none
    match file with
    | some bytes => .ok bytes
    | none => .error .notFound
  canonical path := .ok path
  kind? _ := none
  entries _ := .error .notFound
  workingDir := dir
  programDir := dir

theorem liesAt_snapshot (project : Project) (habsolute : Path.isAbsolute dir) :
    project.LiesAt (project.snapshot dir) dir where
  isAbsolute := habsolute
  reads steps hsteps := by
    have hprefix : (Path.stepsTo dir).isPrefixOf? (Path.stepsTo (Path.place dir steps)) =
        some steps :=
      List.isPrefixOf?_eq_some_iff_append_eq.2 (Path.stepsTo_place habsolute hsteps).symm
    simp only [snapshot, Path.isAbsolute_place habsolute hsteps, hprefix, if_true, Option.bind_some]
    cases project.file? steps <;> rfl

section Styles

variable {files : List (String × String)}

theorem compiled_ofStyles (files : List (String × String)) (source : String) :
    (ofStyles files).compiled source = .ok { styles := [{ code := source }] } := rfl

theorem isImpersonal_ofStyles (files : List (String × String)) :
    (ofStyles files).IsImpersonal := by
  intro id name id' name' rest
  cases rest <;> rfl

theorem exists_of_file? {steps : List (List Char)} {bytes : List UInt8}
    (h : (ofStyles files).file? steps = some bytes) : ∃ file ∈ files,
      Text.fields '/' file.1.toList = steps ∧ Utf8.encode file.2.toList = bytes := by
  obtain ⟨file, hfile, hbytes⟩ := Option.map_eq_some_iff.1 h
  exact ⟨file, List.mem_of_find?_eq_some hfile, by simpa using List.find?_some hfile, hbytes⟩

/-- Whether the last step of a path is the name of a component file. -/
def namesComponent (path : String) : Bool :=
  (Text.fields '/' path.toList).getLast?.any ComponentFile.isFile

theorem holdsComponents_ofStyles (h : ∀ file ∈ files, namesComponent file.1) :
    (ofStyles files).HoldsComponents := by
  intro steps bytes hfile
  obtain ⟨file, hmem, rfl, -⟩ := exists_of_file? hfile
  obtain ⟨name, hlast, hname⟩ := (Option.any_eq_true _ _).1 (h file hmem)
  obtain ⟨front, hfront⟩ := List.getLast?_eq_some_iff.1 hlast
  exact ⟨front, name, hfront, hname⟩

/-- What makes a project of style sheets one that can be moved. -/
theorem isPortable_ofStyles {entries : List String}
    (hcomponents : ∀ file ∈ files, namesComponent file.1)
    (hmild : ∀ file ∈ files, ∀ step ∈ Text.fields '/' file.1.toList, Json.IsMild step)
    (hentries : ∀ entry ∈ entries, Keeps [] entry)
    (himports : ∀ file ∈ files,
      ∀ found ∈ Scan.imports (ComponentFile.decodeSource (Utf8.encode file.2.toList)) .css,
        Keeps (Text.fields '/' file.1.toList).dropLast found.1) :
    (ofStyles files).IsPortable entries where
  impersonal := isImpersonal_ofStyles files
  components := holdsComponents_ofStyles hcomponents
  mild steps bytes hfile := by
    obtain ⟨file, hmem, rfl, -⟩ := exists_of_file? hfile
    exact hmild file hmem
  entries := hentries
  imports front name bytes component part served hfile hcompiled hserved := by
    obtain ⟨file, hmem, hsteps, rfl⟩ := exists_of_file? hfile
    rw [compiled_ofStyles] at hcompiled
    obtain rfl := Except.ok.inj hcompiled
    have himport := himports file hmem
    rw [hsteps, List.dropLast_concat] at himport
    -- the first style block is the only part
    match part with
    | .script => cases hserved
    | .template => cases hserved
    | .style 0 =>
      obtain rfl := Option.some.inj hserved
      exact himport
    | .style (index + 1) => cases hserved

end Styles

/-- Two components that import each other, in a directory with a blank in its name and in the
root. -/
theorem outline_eq_shop :
    let shop := ofStyles [("App.vue", "@import './a/B.vue'"), ("a/B.vue", "@import '../App.vue'")]
    shop.outline (shop.snapshot "/srv/the shop") "/srv/the shop" 9 ["App.vue"] =
        shop.outline (shop.snapshot "/") "/" 9 ["App.vue"] ∧
      shop.outline (shop.snapshot "/") "/" 9 ["App.vue"] = some
        ([("file", .js, some "App.vue"),
          ("sfc-style", .css, some "App.vue?type=style&index=0"), ("file", .js, some "a/B.vue"),
          ("sfc-style", .css, some "a/B.vue?type=style&index=0")], 0) := by
  intro shop
  have hportable : shop.IsPortable ["App.vue"] :=
    isPortable_ofStyles (by decide) (by decide) (by decide +kernel) (by decide +kernel)
  refine ⟨outline_eq hportable (liesAt_snapshot shop (by decide)) (liesAt_snapshot shop (by decide))
    (by decide) (by decide) 9, ?_⟩
  decide +kernel

end Project

namespace Project

/-! ### Projects that cannot be moved -/

/-- A project of style sheets with entry points. A build in each directory, the one at home among
them, meets the given number of errors. -/
structure Sample where
  files : List (String × String)
  entries : List String
  home : String × Nat
  others : List (String × Nat)

namespace Sample

/-- The project of a sample. -/
def project (sample : Sample) : Project := ofStyles sample.files

/-- The number of errors of a build of a sample in a directory, if it ends within nine rounds. -/
def errors? (sample : Sample) (dir : String) : Option Nat :=
  (sample.project.outline (sample.project.snapshot dir) dir 9 sample.entries).map Prod.snd

/-- A project of component files with relative entry points and an executor that ignores names. Its
builds end, those in the other directories with more or fewer errors than the one at home. -/
structure IsRefutation (sample : Sample) : Prop where
  impersonal : sample.project.IsImpersonal
  components : sample.project.HoldsComponents
  relative : ∀ entry ∈ sample.entries, Path.isAbsolute entry = false
  lies : ∀ build ∈ sample.home :: sample.others,
    sample.project.LiesAt (sample.project.snapshot build.1) build.1
  errors : ∀ build ∈ sample.home :: sample.others, sample.errors? build.1 = some build.2
  differs : sample.others ≠ [] ∧ ∀ build ∈ sample.others, build.2 ≠ sample.home.2

theorem isRefutation_of_errors {sample : Sample}
    (hcomponents : ∀ file ∈ sample.files, namesComponent file.1)
    (hrelative : ∀ entry ∈ sample.entries, Path.isAbsolute entry = false)
    (hdirs : ∀ build ∈ sample.home :: sample.others, Path.isAbsolute build.1)
    (herrors : ∀ build ∈ sample.home :: sample.others, sample.errors? build.1 = some build.2)
    (hdiffers : sample.others ≠ [] ∧ ∀ build ∈ sample.others, build.2 ≠ sample.home.2) :
    sample.IsRefutation where
  impersonal := isImpersonal_ofStyles sample.files
  components := holdsComponents_ofStyles hcomponents
  relative := hrelative
  lies build hbuild := liesAt_snapshot sample.project (hdirs build hbuild)
  errors := herrors
  differs := hdiffers

/-- A question mark in a directory is taken for the start of the query, a quote of either kind for
the end of a specifier. A backslash becomes a slash, and a control is not read back from its
escape. -/
def oddDirectories : Sample :=
  ⟨[("A.vue", "")], ["A.vue"], ("/p", 0),
    [("/p?", 1), ("/p\x22", 1), ("/p\x27", 1), ("/p\\", 1), ("/p\t", 1)]⟩

/-- An absolute import names a directory. -/
def absoluteImport : Sample :=
  ⟨[("A.vue", "@import '/p/A.vue'")], ["A.vue"], ("/p", 0), [("/q", 1)]⟩

/-- So does an entry point that climbs out of the project. -/
def climbingEntry : Sample := ⟨[("A.vue", "")], ["../p/A.vue"], ("/p", 0), [("/q", 1)]⟩

/-- What stands behind a quote in the path of a file is taken for an absolute import. It leads to
nothing in all directories, but at home it leads to the same nothing as an entry point. -/
def quotedName : Sample :=
  ⟨[("\x27 import\x27/p/?.vue", "")], ["\x27 import\x27/p/?.vue", "?.vue?type=style&index=0"],
    ("/p", 3), [("/q", 4)]⟩

/-- With slashes for its backslashes the address of a part climbs out of the project. At home it
comes back to where an entry point leads, too. -/
def backslashedName : Sample :=
  ⟨[("..\\p\\?.vue", "")], ["..\\p\\?.vue", "?.vue?type=style&index=0"],
    ("/p", 1), [("/q", 2)]⟩

theorem errors_oddDirectories : ∀ build ∈ oddDirectories.home :: oddDirectories.others,
    oddDirectories.errors? build.1 = some build.2 := by decide +kernel

theorem errors_absoluteImport : ∀ build ∈ absoluteImport.home :: absoluteImport.others,
    absoluteImport.errors? build.1 = some build.2 := by decide +kernel

theorem errors_climbingEntry : ∀ build ∈ climbingEntry.home :: climbingEntry.others,
    climbingEntry.errors? build.1 = some build.2 := by decide +kernel

theorem errors_quotedName : ∀ build ∈ quotedName.home :: quotedName.others,
    quotedName.errors? build.1 = some build.2 := by decide +kernel

theorem errors_backslashedName : ∀ build ∈ backslashedName.home :: backslashedName.others,
    backslashedName.errors? build.1 = some build.2 := by decide +kernel

/-- None of the conditions on directories, specifiers and names can be left out. -/
theorem isRefutation_samples :
    [oddDirectories, absoluteImport, climbingEntry, quotedName, backslashedName].Forall
      IsRefutation :=
  ⟨isRefutation_of_errors (by decide +kernel) (by decide) (by decide) errors_oddDirectories
      (by decide),
    isRefutation_of_errors (by decide +kernel) (by decide) (by decide) errors_absoluteImport
      (by decide),
    isRefutation_of_errors (by decide +kernel) (by decide) (by decide) errors_climbingEntry
      (by decide),
    isRefutation_of_errors (by decide +kernel) (by decide) (by decide) errors_quotedName
      (by decide),
    isRefutation_of_errors (by decide +kernel) (by decide) (by decide) errors_backslashedName
      (by decide)⟩

end Sample

end Project

end SfcBundler
