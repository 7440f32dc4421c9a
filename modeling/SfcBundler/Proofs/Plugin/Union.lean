import SfcBundler.Proofs.Plugin.Walk

/-!
# Builds of several entry points

What a site's walk loads is the least set of modules that the entry points lead to and that holds
whatever its modules lead to. The rounds in which it is found, and the order of the entry points,
do not show in it. So to build entry points together is to build each on its own.

## Main definitions

* `Site.IsClosed`: a set of loads that holds what entry points and its own modules lead to

## Main results

* `Site.Walks.loaded_subset`: a walk loads nothing outside of a closed set
* `Site.Walks.isClosed`: what a walk has loaded at its end is closed
* `Site.build_union`: a build of the entry points of two builds gives what the two give
-/

namespace SfcBundler.Site

variable {site : Site} {entries : List String} {course : Course} {final : Session}

/-- A set of loads that holds what entry points lead to and what its own modules lead to. -/
structure IsClosed (site : Site) (entries : List String)
    (loads : PendingModule → Except Message LoadedModule → Prop) : Prop where
  start : ∀ args ∈ Build.entryFrontier site.baseDir entries, ∀ pending,
    Walk.target? (site.resolved args) = some pending → loads pending (site.outcome pending)
  imports : ∀ source importer args pending, loads source (site.outcome source) →
    Walk.delivered? (site.outcome source) = some importer → args ∈ Walk.importsOf importer →
    Walk.target? (site.resolved args) = some pending → loads pending (site.outcome pending)

namespace Walks

/-- A walk loads nothing outside of a closed set. -/
theorem loaded_subset (h : site.Walks entries course final)
    {loads : PendingModule → Except Message LoadedModule → Prop}
    (hclosed : site.IsClosed entries loads) {pending : PendingModule}
    {outcome : Except Message LoadedModule} (hloaded : (pending, outcome) ∈ course.loaded) :
    loads pending outcome := by
  obtain rfl := h.follows.loaded pending outcome hloaded
  refine h.loaded_induction (motive := fun pending => loads pending (site.outcome pending))
    hclosed.start ?_ hloaded
  intro source importer args pending _ hsource
  exact hclosed.imports source importer args pending hsource

/-- What a walk has loaded at its end is closed. -/
theorem isClosed (h : site.Walks entries course final)
    (hposix : IsPosix course.walk.result.modules) (hfrontier : course.frontier = []) :
    site.IsClosed entries fun pending outcome => (pending, outcome) ∈ course.loaded := by
  constructor
  · intro args hargs pending htarget
    -- an entry point carries nothing, so it leads to no part
    have hnone (data) : ComponentFile.carried? args.data ≠ some data := by
      rw [data_of_mem_start hargs]
      nofun
    refine h.mem_loaded hposix ((h.sound.mem_asked_iff hfrontier).2 (.inl hargs)) htarget
      (fits_of_target (fun data hdata => absurd hdata (hnone data)) htarget) ?_
    exact fun data part hdata => absurd (carried_of_target htarget hdata) (hnone data)
  · intro source importer args pending hsource hdelivered hargs htarget
    have hmodule : importer ∈ course.walk.result.modules :=
      h.sound.mem_modules.2 ⟨source, _, hsource, hdelivered⟩
    have hcarried (data) (hdata : ComponentFile.carried? args.data = some data) :=
      carried_of_delivered (h.fits hsource) hdelivered (Walk.data_of_mem_importsOf hargs ▸ hdata)
    refine h.mem_loaded hposix
      ((h.sound.mem_asked_iff hfrontier).2 (.inr ⟨importer, hmodule, hargs⟩)) htarget
      (fits_of_target (fun data hdata => (hcarried data hdata).1) htarget) ?_
    intro data part hdata
    -- the component was compiled for the importer, or the importer is a part of it
    rcases (hcarried data (carried_of_target htarget hdata)).2 with hkey | ⟨other, hother⟩
    · rw [← (Prod.mk.inj ((key_of_delivered hdelivered).trans hkey)).2]
      exact hposix importer hmodule
    · exact h.isClean hposix hsource data other hother

/-- The errors of a walk that came to its end: of what it asked for, and of what it loaded. -/
theorem mem_errors (h : site.Walks entries course final) (hfrontier : course.frontier = [])
    {message : Message} :
    message ∈ course.walk.result.errors ↔
      (∃ args, (args ∈ Build.entryFrontier site.baseDir entries ∨
        ∃ importer ∈ course.walk.result.modules, args ∈ Walk.importsOf importer) ∧
          message ∈ args.errorsOf (site.resolved args)) ∨
      ∃ pending outcome, (pending, outcome) ∈ course.loaded ∧
        message ∈ pending.errorsOf outcome := by
  rw [h.sound.mem_errors]
  refine or_congr_left ⟨?_, ?_⟩
  · rintro ⟨args, answer, hanswer, hmessage⟩
    obtain rfl := h.follows.resolved args answer hanswer
    have hargs : args ∈ course.resolved.map Prod.fst := List.mem_map_of_mem hanswer
    exact ⟨args, (h.sound.mem_asked_iff hfrontier).1 hargs, hmessage⟩
  · rintro ⟨args, hargs, hmessage⟩
    obtain ⟨⟨_, answer⟩, hanswer, rfl⟩ :=
      List.mem_map.1 ((h.sound.mem_asked_iff hfrontier).2 hargs)
    obtain rfl := h.follows.resolved _ answer hanswer
    exact ⟨_, _, hanswer, hmessage⟩

end Walks

section Union

variable {one other both : List String} {courseOne courseOther : Course}
  {finalOne finalOther : Session}

theorem mem_entryFrontier_of_iff (hboth : ∀ entry, entry ∈ both ↔ entry ∈ one ∨ entry ∈ other)
    {dir : String} {args : ResolveArgs} :
    args ∈ Build.entryFrontier dir both ↔
      args ∈ Build.entryFrontier dir one ∨ args ∈ Build.entryFrontier dir other := by
  simp only [Build.entryFrontier, List.mem_map, hboth]
  grind

/-- What two walks have loaded is closed for the entry points of both. -/
theorem isClosed_union (hone : site.Walks one courseOne finalOne)
    (hother : site.Walks other courseOther finalOther)
    (hboth : ∀ entry, entry ∈ both ↔ entry ∈ one ∨ entry ∈ other)
    (hposixOne : IsPosix courseOne.walk.result.modules)
    (hposixOther : IsPosix courseOther.walk.result.modules)
    (hfrontierOne : courseOne.frontier = []) (hfrontierOther : courseOther.frontier = []) :
    site.IsClosed both fun pending outcome =>
      (pending, outcome) ∈ courseOne.loaded ∨ (pending, outcome) ∈ courseOther.loaded := by
  have hclosedOne := hone.isClosed hposixOne hfrontierOne
  have hclosedOther := hother.isClosed hposixOther hfrontierOther
  constructor
  · intro args hargs pending htarget
    rcases (mem_entryFrontier_of_iff hboth).1 hargs with hargs | hargs
    · exact .inl (hclosedOne.start args hargs pending htarget)
    · exact .inr (hclosedOther.start args hargs pending htarget)
  · intro source importer args pending hsource hdelivered hargs htarget
    rcases hsource with hsource | hsource
    · exact .inl (hclosedOne.imports source importer args pending hsource hdelivered hargs htarget)
    · exact .inr
        (hclosedOther.imports source importer args pending hsource hdelivered hargs htarget)

/-- A walk from some of the entry points of another loads what the other loads too. -/
theorem Walks.loaded_mono (hone : site.Walks one courseOne finalOne)
    (hother : site.Walks other courseOther finalOther)
    (hposix : IsPosix courseOther.walk.result.modules) (hfrontier : courseOther.frontier = [])
    (hsubset : ∀ entry ∈ one, entry ∈ other) {pending : PendingModule}
    {outcome : Except Message LoadedModule} (hloaded : (pending, outcome) ∈ courseOne.loaded) :
    (pending, outcome) ∈ courseOther.loaded := by
  have hclosed := hother.isClosed hposix hfrontier
  have hclosedOne : site.IsClosed one fun pending outcome =>
      (pending, outcome) ∈ courseOther.loaded := by
    refine ⟨fun args hargs => ?_, hclosed.imports⟩
    obtain ⟨entry, hentry, rfl⟩ := List.mem_map.1 hargs
    exact hclosed.start _ (List.mem_map_of_mem (hsubset entry hentry))
  exact hone.loaded_subset hclosedOne hloaded

/-- A walk from the entry points of two walks loads what the two load. -/
theorem Walks.loaded_union (h : site.Walks both course final)
    (hone : site.Walks one courseOne finalOne) (hother : site.Walks other courseOther finalOther)
    (hboth : ∀ entry, entry ∈ both ↔ entry ∈ one ∨ entry ∈ other)
    (hposixOne : IsPosix courseOne.walk.result.modules)
    (hposixOther : IsPosix courseOther.walk.result.modules)
    (hfrontierOne : courseOne.frontier = []) (hfrontierOther : courseOther.frontier = [])
    (hfrontier : course.frontier = []) {pending : PendingModule}
    {outcome : Except Message LoadedModule} :
    (pending, outcome) ∈ course.loaded ↔
      (pending, outcome) ∈ courseOne.loaded ∨ (pending, outcome) ∈ courseOther.loaded := by
  have hclosed := isClosed_union hone hother hboth hposixOne hposixOther hfrontierOne hfrontierOther
  -- a module of the walk is one of the two others, so its path is as theirs are
  have hposix : IsPosix course.walk.result.modules := by
    intro module hmodule
    obtain ⟨source, reply, hsource, hdelivered⟩ := h.sound.mem_modules.1 hmodule
    rcases h.loaded_subset hclosed hsource with hloaded | hloaded
    · exact hposixOne module (hone.sound.mem_modules.2 ⟨source, reply, hloaded, hdelivered⟩)
    · exact hposixOther module (hother.sound.mem_modules.2 ⟨source, reply, hloaded, hdelivered⟩)
  constructor
  · exact h.loaded_subset hclosed
  · rintro (hloaded | hloaded)
    · exact hone.loaded_mono h hposix hfrontier (fun entry hentry => (hboth entry).2 (.inl hentry))
        hloaded
    · exact hother.loaded_mono h hposix hfrontier
        (fun entry hentry => (hboth entry).2 (.inr hentry)) hloaded

/-- The modules of two walks are those of a walk from the entry points of both. -/
theorem Walks.modules_union (h : site.Walks both course final)
    (hone : site.Walks one courseOne finalOne) (hother : site.Walks other courseOther finalOther)
    (hloaded : ∀ pending outcome, (pending, outcome) ∈ course.loaded ↔
      (pending, outcome) ∈ courseOne.loaded ∨ (pending, outcome) ∈ courseOther.loaded)
    {module : OutputModule} :
    module ∈ course.walk.result.modules ↔
      module ∈ courseOne.walk.result.modules ∨ module ∈ courseOther.walk.result.modules := by
  rw [h.sound.mem_modules, hone.sound.mem_modules, hother.sound.mem_modules]
  simp only [hloaded, or_and_right, exists_or]

/-- So are the errors. -/
theorem Walks.errors_union (h : site.Walks both course final)
    (hone : site.Walks one courseOne finalOne) (hother : site.Walks other courseOther finalOther)
    (hboth : ∀ entry, entry ∈ both ↔ entry ∈ one ∨ entry ∈ other)
    (hloaded : ∀ pending outcome, (pending, outcome) ∈ course.loaded ↔
      (pending, outcome) ∈ courseOne.loaded ∨ (pending, outcome) ∈ courseOther.loaded)
    (hfrontierOne : courseOne.frontier = []) (hfrontierOther : courseOther.frontier = [])
    (hfrontier : course.frontier = []) {message : Message} :
    message ∈ course.walk.result.errors ↔
      message ∈ courseOne.walk.result.errors ∨ message ∈ courseOther.walk.result.errors := by
  rw [h.mem_errors hfrontier, hone.mem_errors hfrontierOne, hother.mem_errors hfrontierOther]
  simp only [mem_entryFrontier_of_iff hboth, h.modules_union hone hother hloaded, hloaded,
    or_and_right, exists_or]
  grind

/-- A walk from the entry points of two walks comes to its end as well. -/
theorem Walks.exists_frontier_eq_nil (hone : site.Walks one courseOne finalOne)
    (hother : site.Walks other courseOther finalOther)
    (hboth : ∀ entry, entry ∈ both ↔ entry ∈ one ∨ entry ∈ other)
    (hposixOne : IsPosix courseOne.walk.result.modules)
    (hposixOther : IsPosix courseOther.walk.result.modules)
    (hfrontierOne : courseOne.frontier = []) (hfrontierOther : courseOther.frontier = []) :
    ∃ limit course final, (site.hosted.recordRounds limit
      { frontier := Build.entryFrontier site.baseDir both }).run site.session = (course, final) ∧
      course.frontier = [] := by
  have hclosed := isClosed_union hone hother hboth hposixOne hposixOther hfrontierOne hfrontierOther
  -- one round more than there are keys to load
  let keys := courseOne.loadedKeys ++ courseOther.loadedKeys
  obtain ⟨⟨course, final⟩, hrounds⟩ : ∃ reached, (site.hosted.recordRounds (keys.length + 1)
      { frontier := Build.entryFrontier site.baseDir both }).run site.session = reached := ⟨_, rfl⟩
  refine ⟨keys.length + 1, course, final, hrounds, ?_⟩
  refine (Build.recordRounds_progress hrounds).resolve_right fun hmore => ?_
  have hwalks := walks_of_recordRounds hrounds
  have hsubset : course.loadedKeys ⊆ keys := by
    intro key hkey
    obtain ⟨⟨pending, outcome⟩, hmem, rfl⟩ := List.mem_map.1 hkey
    rcases hwalks.loaded_subset hclosed hmem with hloaded | hloaded
    · exact List.mem_append_left _ (List.mem_map_of_mem hloaded)
    · exact List.mem_append_right _ (List.mem_map_of_mem hloaded)
  have hlength : course.loaded.length ≤ keys.length := by
    rw [← List.length_map (f := fun item => item.1.key)]
    exact hwalks.sound.nodup.length_le_of_subset hsubset
  rw [List.length_nil] at hmore
  omega

theorem runEnd_run (hend : site.processors.onEnd = []) (result : BuildResult) (session : Session) :
    (Build.runEnd result (site.hosted.hooks (·.onEnd))).run session = (result, session) := by
  have hfinish : (site.state.finish result).run session = (.ok (), session) := by
    have hnone : site.state.plugin.processors.onEnd = [] := by
      change site.processors.onEnd.map _ = []
      rw [hend, List.map_nil]
    rw [PluginState.finish, hnone]
    rfl
  change (Build.runEnd result [(site.name, fun result =>
    Except.mapError .plugin <$> site.state.finish result)]).run session = _
  rw [Build.runEnd, run_bind_of_eq (run_map_of_eq hfinish _)]
  rfl

/-- A build of the entry points of two builds comes to its end, and its modules and errors are
those of the two. So an entry point that fails takes nothing from another, and the order of entry
points says nothing about what is built. -/
theorem build_union (site : Site) (hend : site.processors.onEnd = [])
    {one other both : List String} (hboth : ∀ entry, entry ∈ both ↔ entry ∈ one ∨ entry ∈ other)
    {limitOne limitOther : Nat} {resultOne resultOther : BuildResult}
    {finalOne finalOther : Session}
    (hone : (site.build limitOne one).run site.opened = (some resultOne, finalOne))
    (hother : (site.build limitOther other).run site.opened = (some resultOther, finalOther))
    (hposixOne : IsPosix resultOne.modules) (hposixOther : IsPosix resultOther.modules) :
    (∃ limit result final, (site.build limit both).run site.opened = (some result, final)) ∧
    ∀ limit result final, (site.build limit both).run site.opened = (some result, final) →
      (∀ module, module ∈ result.modules ↔
        module ∈ resultOne.modules ∨ module ∈ resultOther.modules) ∧
      (∀ message, message ∈ result.errors ↔
        message ∈ resultOne.errors ∨ message ∈ resultOther.errors) := by
  by_cases hfailed : site.failed = []
  · obtain ⟨hwalksOne, hfrontierOne, hendedOne⟩ := walks_of_build hfailed hone
    obtain ⟨hwalksOther, hfrontierOther, hendedOther⟩ := walks_of_build hfailed hother
    rw [runEnd_run hend] at hendedOne hendedOther
    obtain rfl := congrArg Prod.fst hendedOne
    obtain rfl := congrArg Prod.fst hendedOther
    constructor
    · obtain ⟨limit, course, final, hcourse, hfrontier⟩ := hwalksOne.exists_frontier_eq_nil
        hwalksOther hboth hposixOne hposixOther hfrontierOne hfrontierOther
      exact ⟨limit, exists_build_of_walk hfailed hcourse hfrontier⟩
    · intro limit result final hrun
      obtain ⟨hwalks, hfrontier, hended⟩ := walks_of_build hfailed hrun
      rw [runEnd_run hend] at hended
      obtain rfl := congrArg Prod.fst hended
      have hloaded (pending) (outcome) : (pending, outcome) ∈ (site.course limit both).loaded ↔
          (pending, outcome) ∈ (site.course limitOne one).loaded ∨
            (pending, outcome) ∈ (site.course limitOther other).loaded :=
        hwalks.loaded_union hwalksOne hwalksOther hboth hposixOne hposixOther hfrontierOne
          hfrontierOther hfrontier
      exact ⟨fun module => hwalks.modules_union hwalksOne hwalksOther hloaded,
        fun message => hwalks.errors_union hwalksOne hwalksOther hboth hloaded hfrontierOne
          hfrontierOther hfrontier⟩
  · -- a start hook fails, so all three builds are the same
    obtain ⟨result, -, hsame⟩ := build_run_of_failed hfailed
    rw [hsame] at hone hother
    cases hone
    cases hother
    refine ⟨⟨0, _, _, hsame 0 both⟩, fun limit result final hrun => ?_⟩
    rw [hsame] at hrun
    cases hrun
    simp

end Union

/-- A site of a component with one style sheet, and of a script. -/
def shop : Site where
  answer _ _ := .ok (.object [("styles", .array [.object [("code", .string "p \x7b\x7d")]])])
  disk :=
    { readBytes := fun path =>
        if path = "/a.vue" ∨ path = "/b.js" then .ok [] else .error .notFound
      canonical := .ok
      kind? := fun _ => none
      entries := fun _ => .ok []
      workingDir := "/"
      programDir := "/" }
  options := {}

/-- The missing script does not show in what the component is built as. -/
theorem build_union_shop : ∃ resultOne resultOther finalOne finalOther,
    (shop.build 2 ["/a.vue"]).run shop.opened = (some resultOne, finalOne) ∧
    (shop.build 1 ["/b.js", "/c.js"]).run shop.opened = (some resultOther, finalOther) ∧
    resultOne.modules.map (·.path) = ["/a.vue", "/a.vue?type=style&index=0"] ∧
    resultOther.modules.map (·.path) = ["/b.js"] ∧ resultOther.errors.length = 1 ∧
    (∃ limit result final,
      (shop.build limit ["/c.js", "/a.vue", "/b.js"]).run shop.opened = (some result, final)) ∧
    ∀ limit result final,
      (shop.build limit ["/c.js", "/a.vue", "/b.js"]).run shop.opened = (some result, final) →
      (∀ module, module ∈ result.modules ↔
        module ∈ resultOne.modules ∨ module ∈ resultOther.modules) ∧
      (∀ message, message ∈ result.errors ↔
        message ∈ resultOne.errors ∨ message ∈ resultOther.errors) := by
  have hshapeOne : ((shop.build 2 ["/a.vue"]).run shop.opened).1.map
      (fun result => result.modules.map (·.path)) =
        some ["/a.vue", "/a.vue?type=style&index=0"] := by
    decide +kernel
  have hshapeOther : ((shop.build 1 ["/b.js", "/c.js"]).run shop.opened).1.map
      (fun result => (result.modules.map (·.path), result.errors.length)) =
        some (["/b.js"], 1) := by
    decide +kernel
  obtain ⟨resultOne, hrunOne, hpathsOne⟩ := exists_of_map_run hshapeOne
  obtain ⟨resultOther, hrunOther, hshapeOther⟩ := exists_of_map_run hshapeOther
  obtain ⟨hpathsOther, herrors⟩ := Prod.mk.inj hshapeOther
  have hposix (result : BuildResult) (paths : List String)
      (hpaths : result.modules.map (·.path) = paths)
      (hclean : ∀ path ∈ paths, '\\' ∉ path.toList) : IsPosix result.modules := by
    intro module hmodule
    refine hclean module.path ?_
    rw [← hpaths]
    exact List.mem_map_of_mem hmodule
  have hboth (entry : String) : entry ∈ ["/c.js", "/a.vue", "/b.js"] ↔
      entry ∈ ["/a.vue"] ∨ entry ∈ ["/b.js", "/c.js"] := by
    simp only [List.mem_cons, List.not_mem_nil, or_false]
    grind
  exact ⟨resultOne, resultOther, _, _, hrunOne, hrunOther, hpathsOne, hpathsOther, herrors,
    build_union shop rfl hboth hrunOne hrunOther (hposix resultOne _ hpathsOne (by decide))
      (hposix resultOther _ hpathsOther (by decide))⟩

end SfcBundler.Site
