import SfcBundler.Proofs.Plugin.Carried

/-!
# The walk of a site

A build of a site taken apart: its setup, its start hooks, and a walk from its entry points whose
answers follow from the site.

## Main definitions

* `Site.failed`: the errors of the start hooks
* `Site.record`, `Site.course`: a build recorded, and what it asks and is answered
* `Site.Walks`: a walk from entry points
* `Site.IsPosix`: output modules without a backslash in their paths

## Main results

* `Site.walks_of_build`: what a build gives comes from a walk
* `Site.exists_build_of_walk`: a walk that comes to its end gives a build
* `Site.Walks.mem_loaded`: a specifier leads to a load that is as it should be
-/

namespace SfcBundler.Site

variable {site : Site} {entries : List String}

/-- The errors of the start hooks; with any of them nothing is walked. -/
def failed (site : Site) : List Message :=
  site.session.value (Build.runStart site.hosted.options (site.hosted.hooks (·.onStart)))

theorem runStart_run :
    (Build.runStart site.hosted.options (site.hosted.hooks (·.onStart))).run site.session =
      (site.failed, site.session) :=
  site.steady_runStart.quiet []

theorem build_run (limit : Nat) :
    (site.build limit entries).run site.opened = (site.hosted.run limit entries).run site.session :=
  run_bind_of_eq site.host_run _

/-- A build whose start hooks fail gives the same whatever its entry points are, and builds
nothing. -/
theorem build_run_of_failed (hfailed : site.failed ≠ []) : ∃ result : BuildResult,
    result.modules = [] ∧ ∀ limit entries,
      (site.build limit entries).run site.opened = (some result, site.session) := by
  have hended := (site.steady_runEnd { errors := site.failed }).quiet []
  obtain ⟨late, hresult⟩ := Build.exists_of_runEnd hended
  refine ⟨_, congrArg BuildResult.modules hresult, fun limit entries => ?_⟩
  rw [build_run, Build.run_of_start_failed runStart_run hfailed]
  exact run_map_of_eq hended some

/-- A build of a site's entry points, recorded. -/
def record (site : Site) (limit : Nat) (entries : List String) : StateM Session RunRecord := do
  (← site.host).recordRun limit entries

/-- What a build of a site asks and is answered. -/
def course (site : Site) (limit : Nat) (entries : List String) : Course :=
  ((site.record limit entries).run site.opened).1.course

/-- A record changes nothing about a build. -/
theorem build_run_eq_record (site : Site) (limit : Nat) (entries : List String) :
    (site.build limit entries).run site.opened =
      (((site.record limit entries).run site.opened).1.result?,
        ((site.record limit entries).run site.opened).2) := by
  have hbuild : site.build limit entries = (·.result?) <$> site.record limit entries := by
    rw [build, record, map_bind]
    exact bind_congr fun build => build.run_eq_recordRun limit entries
  rw [hbuild, StateT.run_map]
  rfl

/-- A build whose record has a result gives that result. -/
theorem build_run_of_result? {site : Site} {limit : Nat} {entries : List String}
    {result : BuildResult}
    (h : ((site.record limit entries).run site.opened).1.result? = some result) :
    (site.build limit entries).run site.opened =
      (some result, ((site.record limit entries).run site.opened).2) := by
  rw [build_run_eq_record, h]

/-- A walk of a site from entry points: what it was answered follows from the site, and everything
in it is accounted for. -/
structure Walks (site : Site) (entries : List String) (course : Course) (final : Session) :
    Prop where
  follows : site.Follows course final
  sound : course.IsSound (Build.entryFrontier site.baseDir entries)

theorem walks_of_recordRounds {limit : Nat} {course : Course} {final : Session}
    (h : (site.hosted.recordRounds limit
      { frontier := Build.entryFrontier site.baseDir entries }).run site.session =
        (course, final)) : site.Walks entries course final :=
  ⟨recordRounds_follows h, Build.recordRounds_isSound h⟩

/-- What a build gives, when its start hooks succeed, is what a walk that comes to its end gives,
as the end hooks leave it. -/
theorem walks_of_build {limit : Nat} {result : BuildResult} {final : Session}
    (hfailed : site.failed = [])
    (h : (site.build limit entries).run site.opened = (some result, final)) :
    site.Walks entries (site.course limit entries) final ∧
      (site.course limit entries).frontier = [] ∧
      (Build.runEnd (site.course limit entries).walk.result
        (site.hosted.hooks (·.onEnd))).run final = (result, final) := by
  rw [build_run] at h
  have hstart : ((Build.runStart site.hosted.options (site.hosted.hooks (·.onStart))).run
      site.session).1 = [] := by rw [runStart_run, hfailed]
  obtain ⟨dir, course, begun, walked, hdir, hcourse, hfrontier, hended, hrecord⟩ :=
    Build.exists_of_run h hstart
  obtain rfl : site.course limit entries = course := by
    rw [Site.course, record, run_bind_of_eq site.host_run, hrecord]
  rw [runStart_run] at hdir
  obtain ⟨rfl, rfl⟩ := Prod.mk.inj ((site.baseDir_run []).symm.trans hdir)
  have hwalks := walks_of_recordRounds hcourse
  -- the end hooks leave the session as it is
  have hquiet := (site.steady_runEnd (site.course limit entries).walk.result).quiet
    ((site.course limit entries).loaded.flatMap fun item => site.requestsOf item.1)
  rw [← hwalks.follows.session, hended] at hquiet
  obtain rfl := congrArg Prod.snd hquiet
  exact ⟨hwalks, hfrontier, hended⟩

/-- A walk that comes to its end gives a build. -/
theorem exists_build_of_walk {limit : Nat} {course : Course} {final : Session}
    (hfailed : site.failed = [])
    (hcourse : (site.hosted.recordRounds limit
      { frontier := Build.entryFrontier site.baseDir entries }).run site.session = (course, final))
    (hfrontier : course.frontier = []) :
    ∃ result final, (site.build limit entries).run site.opened = (some result, final) := by
  have hstart : (Build.runStart site.hosted.options (site.hosted.hooks (·.onStart))).run
      site.session = ([], site.session) := by rw [runStart_run, hfailed]
  rw [build_run,
    Build.run_of_frontier_eq_nil hstart (site.baseDir_run []) hcourse hfrontier]
  exact ⟨_, _, rfl⟩

/-- Output modules without a backslash in their paths. -/
def IsPosix (modules : List OutputModule) : Prop :=
  ∀ module ∈ modules, '\\' ∉ module.path.toList

namespace Walks

variable {course : Course} {final : Session}

theorem data_of_mem_start {args : ResolveArgs} {dir : String}
    (h : args ∈ Build.entryFrontier dir entries) : args.data = none := by
  obtain ⟨entry, -, rfl⟩ := List.mem_map.1 h
  rfl

/-- Induction along the imports of what a walk of a site loads. -/
theorem loaded_induction (h : site.Walks entries course final) {motive : PendingModule → Prop}
    (hstart : ∀ args ∈ Build.entryFrontier site.baseDir entries, ∀ pending,
      Walk.target? (site.resolved args) = some pending → motive pending)
    (himport : ∀ source importer args pending, (source, site.outcome source) ∈ course.loaded →
      motive source → Walk.delivered? (site.outcome source) = some importer →
      args ∈ Walk.importsOf importer → Walk.target? (site.resolved args) = some pending →
      motive pending)
    {pending : PendingModule} {outcome : Except Message LoadedModule}
    (hloaded : (pending, outcome) ∈ course.loaded) : motive pending := by
  obtain ⟨before, after, hsplit⟩ := List.append_of_mem hloaded
  refine h.sound.loaded_induction (motive := fun _ pending _ => motive pending) ?_ ?_ hsplit
  · intro before pending outcome after args answer hsplit hargs hanswer htarget
    obtain rfl := h.follows.resolved args answer hanswer
    exact hstart args hargs pending htarget
  · intro before pending outcome after front source reply back importer args answer hsplit hbefore
      hsource hdelivered hargs hanswer htarget
    -- the importer was loaded before, and every answer is the one that the site gives
    have hmem : (source, reply) ∈ course.loaded := by simp [hsplit, hbefore]
    obtain rfl := h.follows.loaded source reply hmem
    obtain rfl := h.follows.resolved args answer hanswer
    exact himport source importer args pending hmem hsource hdelivered hargs htarget

/-- All that a walk loads fits. -/
theorem fits (h : site.Walks entries course final) {pending : PendingModule}
    {outcome : Except Message LoadedModule} (hloaded : (pending, outcome) ∈ course.loaded) :
    site.Fits pending := by
  obtain ⟨before, after, hsplit⟩ := List.append_of_mem hloaded
  exact (h.follows.loaded_fits h.sound (fun _ => data_of_mem_start) hsplit).1

/-- The component of a part is loaded from a file among the output modules. -/
theorem exists_entry (h : site.Walks entries course final) {pending : PendingModule}
    {outcome : Except Message LoadedModule} (hloaded : (pending, outcome) ∈ course.loaded)
    {data : ComponentData} {part : Part} (hdata : pending.data = some (.part data part)) :
    ∃ entry ∈ course.walk.result.modules, entry.key = (fileSpace, data.owner) := by
  obtain ⟨before, after, hsplit⟩ := List.append_of_mem hloaded
  obtain ⟨entry, hentry, hkey⟩ :=
    (h.follows.loaded_fits h.sound (fun _ => data_of_mem_start) hsplit).2 data part hdata
  refine ⟨entry, ?_, hkey⟩
  rw [h.sound.modules, hsplit, Walk.delivered_append]
  exact List.mem_append_left _ hentry

theorem isClean (h : site.Walks entries course final) (hposix : IsPosix course.walk.result.modules)
    {pending : PendingModule} {outcome : Except Message LoadedModule}
    (hloaded : (pending, outcome) ∈ course.loaded) : IsClean pending := by
  intro data part hdata
  obtain ⟨entry, hentry, hkey⟩ := h.exists_entry hloaded hdata
  rw [← (Prod.mk.inj hkey).2]
  exact hposix entry hentry

/-- A module that fits and that a resolved specifier leads to is loaded as it is. -/
theorem mem_loaded (h : site.Walks entries course final)
    (hposix : IsPosix course.walk.result.modules) {args : ResolveArgs} {pending : PendingModule}
    (hargs : args ∈ course.resolved.map Prod.fst)
    (htarget : Walk.target? (site.resolved args) = some pending) (hfits : site.Fits pending)
    (hclean : IsClean pending) : (pending, site.outcome pending) ∈ course.loaded := by
  obtain ⟨⟨_, answer⟩, hanswer, rfl⟩ := List.mem_map.1 hargs
  obtain rfl := h.follows.resolved _ answer hanswer
  -- something is loaded for the key, and a key says all of what fits
  have hkey := h.sound.settled _ _ pending hanswer htarget
  obtain ⟨⟨other, outcome⟩, hother, hkey⟩ := List.mem_map.1 hkey
  obtain rfl := (h.fits hother).eq_of_key_eq hfits (h.isClean hposix hother) hclean hkey
  rwa [h.follows.loaded other outcome hother] at hother

end Walks

end SfcBundler.Site
