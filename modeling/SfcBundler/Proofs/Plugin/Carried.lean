import SfcBundler.Proofs.Path.Canonical
import SfcBundler.Proofs.Plugin.Loads
import SfcBundler.Proofs.Walk.Account

/-!
# What modules carry

A module is loaded once, with the data of whichever import came first. That nothing depends on
who came first is because data follows from keys: what a component's modules carry is what the
component's own file is loaded as.

## Main definitions

* `Site.Genuine`: a component that is what its file is loaded as
* `Site.Fits`: a module that waits with the data that its key calls for
* `Site.Follows`: a course that a site's session records

## Main results

* `Site.Fits.eq_of_key_eq`: the key of a module determines all of it
* `Site.fits_of_target`: a specifier leads to a module that fits
* `Site.delivered_cases`: what a module that fits carries, and where its imports are seen from
* `Site.carried_of_delivered`: a module that fits carries a genuine component, or none
* `Site.Follows.loaded_fits`: all that a site loads fits
-/

namespace SfcBundler

theorem fileSpace_ne_empty : fileSpace ≠ "" := by decide

theorem StyleSheet.space_ne_empty : StyleSheet.space ≠ "" := by decide

theorem PartKind.space_ne_fileSpace (kind : PartKind) : kind.space ≠ fileSpace := by
  cases kind <;> decide

theorem PartKind.space_ne_styleSpace (kind : PartKind) : kind.space ≠ StyleSheet.space := by
  cases kind <;> decide

theorem PartKind.space_ne_empty (kind : PartKind) : kind.space ≠ "" := by
  cases kind <;> decide

theorem PartKind.space_injective {kind other : PartKind} (h : kind.space = other.space) :
    kind = other := by
  revert h
  cases kind <;> cases other <;> decide

namespace Site

variable {site : Site} {pending other : PendingModule}

/-- A component that is what its file is loaded as. -/
def Genuine (site : Site) (data : ComponentData) : Prop :=
  ∃ module, Walk.delivered? (site.outcome ⟨data.owner, fileSpace, none⟩) = some module ∧
    module.data = some (.component data)

theorem Genuine.eq_of_owner_eq {data data' : ComponentData} (h : site.Genuine data)
    (h' : site.Genuine data') (howner : data.owner = data'.owner) : data = data' := by
  obtain ⟨module, hmodule, hdata⟩ := h
  obtain ⟨module', hmodule', hdata'⟩ := h'
  rw [howner, hmodule'] at hmodule
  cases hmodule
  exact PluginData.component.inj (Option.some.inj (hdata.symm.trans hdata'))

/-- A module that waits with the data that its key calls for: a part with its component, anything
else with none. -/
inductive Fits (site : Site) (pending : PendingModule) : Prop
  | plain : pending.data = none → (∀ kind : PartKind, pending.space ≠ kind.space) →
    Fits site pending
  | part {data : ComponentData} {part : Part} {owner : String} :
    pending.data = some (.part data part) → pending.space = part.kind.space →
    Part.parse pending.path = .ok (some (owner, part)) →
    Path.toPosix data.owner = Path.toPosix owner → site.Genuine data → Fits site pending

/-- A module whose component's file has no backslash in its path. -/
def IsClean (pending : PendingModule) : Prop :=
  ∀ data part, pending.data = some (.part data part) → '\\' ∉ data.owner.toList

/-- The key of a module determines all of it. -/
theorem Fits.eq_of_key_eq (h : site.Fits pending) (hother : site.Fits other)
    (hclean : IsClean pending) (hclean' : IsClean other) (hkey : pending.key = other.key) :
    pending = other := by
  obtain ⟨path, space, data?⟩ := pending
  obtain ⟨path', space', data?'⟩ := other
  obtain ⟨rfl, rfl⟩ : space = space' ∧ path = path' := Prod.mk.inj hkey
  cases h with
  | plain hdata hspace =>
    cases hother with
    | plain hdata' hspace' =>
      cases hdata
      cases hdata'
      rfl
    | part hdata' hspace' hparse' howner' hgenuine' => exact absurd hspace' (hspace _)
  | part hdata hspace hparse howner hgenuine =>
    cases hother with
    | plain hdata' hspace' => exact absurd hspace (hspace' _)
    | part hdata' hspace' hparse' howner' hgenuine' =>
      obtain ⟨rfl, rfl⟩ := Prod.mk.inj (Option.some.inj (Except.ok.inj (hparse.symm.trans hparse')))
      -- both are parts of one file, and that file is loaded as one component
      rw [← howner', Path.toPosix_of_notMem (hclean _ _ hdata),
        Path.toPosix_of_notMem (hclean' _ _ hdata')] at howner
      obtain rfl := hgenuine.eq_of_owner_eq hgenuine' howner
      cases hdata
      cases hdata'
      rfl

section Target

variable {args : ResolveArgs}

theorem target?_ok {result : ResolveResult} (herrors : result.errors = [])
    (hexternal : result.external = false) (hspace : result.space ≠ "") :
    Walk.target? (.ok result) = some ⟨result.path, result.space, result.data⟩ := by
  simp [Walk.target?, herrors, hexternal, hspace]

theorem target?_credited {result : ResolveResult} (herrors : result.errors = [])
    (hexternal : result.external = false) (hspace : result.space ≠ "") :
    Walk.target? (site.credited args (.ok result)) =
      some ⟨result.path, result.space, result.data⟩ :=
  target?_ok (by rw [herrors]; rfl) hexternal hspace

theorem target?_unclaimed (args : ResolveArgs) :
    Walk.target? (.ok args.unclaimed) = none ∨
    Walk.target? (.ok args.unclaimed) =
      some ⟨Path.absolutize args.path args.resolveDir, fileSpace, none⟩ := by
  rw [ResolveArgs.unclaimed]
  split
  · exact .inr (target?_ok rfl rfl fileSpace_ne_empty)
  · exact .inl (by simp [Walk.target?])

/-- A specifier leads to something plain below the directory that it is seen from, or to a part of
the component that its importer carries. -/
theorem target_cases (h : Walk.target? (site.resolved args) = some pending) :
    (pending.data = none ∧ (∀ kind : PartKind, pending.space ≠ kind.space) ∧
      ∃ specifier, pending.path = Path.absolutize specifier args.resolveDir) ∨
    ∃ data part owner, ComponentFile.carried? args.data = some data ∧
      pending = ⟨site.place args, part.kind.space, some (.part data part)⟩ ∧
      Part.parse pending.path = .ok (some (owner, part)) ∧
      Path.toPosix data.owner = Path.toPosix owner := by
  rw [resolved] at h
  split at h
  · -- the query is not understood, or names no part, or names one, which the importer has to carry
    rw [ComponentFile.resolvePart] at h
    split at h
    · cases h
    · rw [target?_credited rfl rfl fileSpace_ne_empty] at h
      obtain rfl := Option.some.inj h
      exact .inl ⟨rfl, fun kind => kind.space_ne_fileSpace.symm, _, rfl⟩
    · rename_i owner part hparse
      split at h
      · rename_i carried hcarried
        split at h
        · rename_i howner
          rw [target?_credited rfl rfl part.kind.space_ne_empty] at h
          obtain rfl := Option.some.inj h
          exact .inr ⟨carried, part, owner, hcarried, rfl, hparse, howner⟩
        · cases h
      · cases h
  · split at h
    · rw [target?_credited rfl rfl StyleSheet.space_ne_empty] at h
      obtain rfl := Option.some.inj h
      exact .inl ⟨rfl, fun kind => kind.space_ne_styleSpace.symm, _, rfl⟩
    · -- no hook of the plugin claims it
      rcases target?_unclaimed args with hnone | hfile
      · rw [hnone] at h
        cases h
      · rw [hfile] at h
        obtain rfl := Option.some.inj h
        exact .inl ⟨rfl, fun kind => kind.space_ne_fileSpace.symm, _, rfl⟩

/-- A specifier leads to a module that fits, if what its importer carries is genuine. -/
theorem fits_of_target (hcarried : ∀ data, ComponentFile.carried? args.data = some data →
    site.Genuine data) (h : Walk.target? (site.resolved args) = some pending) :
    site.Fits pending := by
  rcases target_cases h with
    ⟨hdata, hspace, -⟩ | ⟨data, part, owner, hdata, hpending, hparse, howner⟩
  · exact .plain hdata hspace
  · rw [hpending] at hparse ⊢
    exact .part rfl rfl hparse howner (hcarried data hdata)

/-- The component of a part is the one that the importer carries. -/
theorem carried_of_target (h : Walk.target? (site.resolved args) = some pending)
    {data : ComponentData} {part : Part} (hdata : pending.data = some (.part data part)) :
    ComponentFile.carried? args.data = some data := by
  rcases target_cases h with ⟨hnone, -⟩ | ⟨data', part', owner, hcarried, rfl, -, -⟩
  · rw [hnone] at hdata
    cases hdata
  · cases hdata
    exact hcarried

end Target

section Delivered

variable {module : OutputModule}

/-- A component's own module carries the component, and its imports are seen from where it lies. -/
theorem exists_of_delivered_component
    (hfile : ComponentFile.isFile pending.path.toList ∧ pending.space = fileSpace)
    (hmodule : Walk.delivered? (site.outcome pending) = some module) :
    ∃ data : ComponentData, data.owner = pending.path ∧ module.data = some (.component data) ∧
      module.resolveDir = Path.parentDir data.owner := by
  obtain ⟨loaded, houtcome, -, rfl⟩ := Walk.delivered?_eq_some.1 hmodule
  obtain ⟨source, component, -, -, hloaded⟩ := exists_of_outcome_component hfile houtcome
  cases hloaded
  exact ⟨_, rfl, rfl, rfl⟩

/-- The module of a part is the part as it is served. It carries the component that it waited with,
and its imports are seen from where the component lies. -/
theorem exists_of_delivered_part {data : ComponentData} {part : Part}
    (hdata : pending.data = some (.part data part)) (hspace : pending.space = part.kind.space)
    (hmodule : Walk.delivered? (site.outcome pending) = some module) :
    ∃ served, data.component.served? site.buildOptions.sourceMap part = some served ∧
      module.contents = served.contents ∧ module.data = some (.component data) ∧
      module.resolveDir = Path.parentDir data.owner := by
  obtain ⟨loaded, houtcome, -, rfl⟩ := Walk.delivered?_eq_some.1 hmodule
  obtain ⟨data', part', served, hdata', -, hserved, hloaded⟩ :=
    exists_of_outcome_part hspace houtcome
  obtain ⟨rfl, rfl⟩ := PluginData.part.inj (Option.some.inj (hdata.symm.trans hdata'))
  cases hloaded
  exact ⟨served, hserved, rfl, rfl, rfl⟩

/-- Anything else carries nothing, and its imports are seen from where it lies. -/
theorem data_of_delivered
    (hfile : ¬ (ComponentFile.isFile pending.path.toList ∧ pending.space = fileSpace))
    (hpart : ∀ kind : PartKind, pending.space ≠ kind.space)
    (hmodule : Walk.delivered? (site.outcome pending) = some module) :
    module.data = none ∧ module.resolveDir = Path.parentDir pending.path ∧
      (StyleSheet.isAddress pending.path.toList ∨ (Loader.ofPath? pending.path).isSome) := by
  obtain ⟨loaded, houtcome, -, rfl⟩ := Walk.delivered?_eq_some.1 hmodule
  exact data_of_outcome hfile hpart houtcome

/-- A module that fits carries nothing, or a component: its own module does, and so does a part of
it. -/
theorem delivered_cases (hfits : site.Fits pending)
    (hmodule : Walk.delivered? (site.outcome pending) = some module) :
    (module.data = none ∧ module.resolveDir = Path.parentDir pending.path ∧
      (StyleSheet.isAddress pending.path.toList ∨ (Loader.ofPath? pending.path).isSome)) ∨
    ∃ data : ComponentData, module.data = some (.component data) ∧
      module.resolveDir = Path.parentDir data.owner ∧ site.Genuine data ∧
      ((pending.key = (fileSpace, data.owner) ∧ ComponentFile.isFile data.owner.toList) ∨
        ∃ part, pending.data = some (.part data part)) := by
  cases hfits with
  | plain hdata hspace =>
    by_cases hfile : ComponentFile.isFile pending.path.toList ∧ pending.space = fileSpace
    · -- its own module carries what was compiled for it
      obtain ⟨data, howner, hcarried, hdir⟩ := exists_of_delivered_component hfile hmodule
      have hpending : pending = ⟨data.owner, fileSpace, none⟩ := by
        rw [howner, ← hdata, ← hfile.2]
      refine .inr ⟨data, hcarried, hdir, ⟨module, hpending ▸ hmodule, hcarried⟩, .inl ⟨?_, ?_⟩⟩
      · rw [hpending]
        rfl
      · rw [howner]
        exact hfile.1
    · exact .inl (data_of_delivered hfile hspace hmodule)
  | @part data part owner hdata hspace hparse howner hgenuine =>
    obtain ⟨served, -, -, hcarried, hdir⟩ := exists_of_delivered_part hdata hspace hmodule
    exact .inr ⟨data, hcarried, hdir, hgenuine, .inr ⟨part, hdata⟩⟩

/-- A module that fits carries a genuine component, or none. It is the component's own module, or
a part of it. -/
theorem carried_of_delivered (hfits : site.Fits pending)
    (hmodule : Walk.delivered? (site.outcome pending) = some module) {data : ComponentData}
    (hcarried : ComponentFile.carried? module.data = some data) :
    site.Genuine data ∧ (pending.key = (fileSpace, data.owner) ∨
      ∃ part, pending.data = some (.part data part)) := by
  rcases delivered_cases hfits hmodule with ⟨hnone, -⟩ | ⟨found, hfound, -, hgenuine, hcase⟩
  · rw [hnone] at hcarried
    cases hcarried
  · rw [hfound] at hcarried
    obtain rfl : found = data := Option.some.inj hcarried
    exact ⟨hgenuine, hcase.imp_left And.left⟩

end Delivered

/-- A course whose answers are those of a site, in a session that holds the requests made. -/
structure Follows (site : Site) (course : Course) (session : Session) : Prop where
  resolved : ∀ args answer, (args, answer) ∈ course.resolved → answer = site.resolved args
  loaded : ∀ pending outcome, (pending, outcome) ∈ course.loaded → outcome = site.outcome pending
  session : session = site.session.withRequests
    (course.loaded.flatMap fun item => site.requestsOf item.1)

section Run

variable {course : Course} {start : List ResolveArgs} {before : List Request} {final : Session}

theorem answered_resolve {resolved : List (ResolveArgs × Except Message ResolveResult)}
    (h : Answered site.hosted.resolve (site.session.withRequests before) resolved final) :
    final = site.session.withRequests before ∧
      ∀ args answer, (args, answer) ∈ resolved → answer = site.resolved args := by
  generalize hstate : site.session.withRequests before = state at h
  induction h with
  | nil => exact ⟨rfl, by simp⟩
  | cons hrun _ ih =>
    subst hstate
    rw [resolve_run] at hrun
    cases hrun
    obtain ⟨hfinal, hanswers⟩ := ih rfl
    refine ⟨hfinal, fun args answer hmem => ?_⟩
    rcases List.mem_cons.1 hmem with heq | hmem
    · cases heq
      rfl
    · exact hanswers args answer hmem

theorem answered_load {loaded : List (PendingModule × Except Message LoadedModule)}
    (h : Answered site.hosted.load (site.session.withRequests before) loaded final) :
    final = site.session.withRequests
        (before ++ loaded.flatMap fun item => site.requestsOf item.1) ∧
      ∀ pending outcome, (pending, outcome) ∈ loaded → outcome = site.outcome pending := by
  -- the answers are taken one by one, from any session on the way
  generalize hstate : site.session.withRequests before = state at h
  induction h generalizing before with
  | nil => exact ⟨by simp [hstate], by simp⟩
  | cons hrun _ ih =>
    subst hstate
    rw [load_run] at hrun
    cases hrun
    obtain ⟨hfinal, hanswers⟩ := ih rfl
    refine ⟨by rw [hfinal, List.flatMap_cons, List.append_assoc], fun pending outcome hmem => ?_⟩
    rcases List.mem_cons.1 hmem with heq | hmem
    · cases heq
      rfl
    · exact hanswers pending outcome hmem

/-- What is asked and answered in the rounds of a site follows from the site. -/
theorem recordRounds_follows {limit : Nat}
    (h : (site.hosted.recordRounds limit { frontier := start }).run site.session =
      (course, final)) :
    site.Follows course final := by
  refine Build.recordRounds_induction (motive := fun course session => site.Follows course session)
    (fun {course after state final} hcourse hround => ?_)
    ⟨by simp, by simp, rfl⟩ h
  obtain ⟨resolved, loaded, between, -, -, hresolve, hload, rfl⟩ :=
    Build.exists_of_recordRound hround
  rw [hcourse.session] at hresolve
  obtain ⟨rfl, hresolved⟩ := answered_resolve hresolve
  obtain ⟨rfl, hloaded⟩ := answered_load hload
  -- what was answered before the round still follows, and the round adds its own answers
  constructor
  · intro args answer hmem
    rcases List.mem_append.1 hmem with hold | hnew
    · exact hcourse.resolved args answer hold
    · exact hresolved args answer hnew
  · intro pending outcome hmem
    rcases List.mem_append.1 hmem with hold | hnew
    · exact hcourse.loaded pending outcome hold
    · exact hloaded pending outcome hnew
  · rw [Course.advance_loaded, List.flatMap_append]

theorem key_of_delivered {module : OutputModule}
    (h : Walk.delivered? (site.outcome pending) = some module) : module.key = pending.key := by
  obtain ⟨loaded, houtcome, -, rfl⟩ := Walk.delivered?_eq_some.1 h
  have hrun := site.load_run pending []
  rw [houtcome] at hrun
  exact Build.loadWith_key hrun

/-- All that a site loads fits, and a part comes after the module of its component. -/
theorem Follows.loaded_fits (h : site.Follows course final) (hsound : course.IsSound start)
    (hstart : ∀ args ∈ start, args.data = none)
    {before after : List (PendingModule × Except Message LoadedModule)}
    {outcome : Except Message LoadedModule}
    (hsplit : course.loaded = before ++ (pending, outcome) :: after) :
    site.Fits pending ∧ ∀ data part, pending.data = some (.part data part) →
      ∃ entry ∈ Walk.delivered before, entry.key = (fileSpace, data.owner) := by
  refine hsound.loaded_induction (motive := fun before pending _ => site.Fits pending ∧
    ∀ data part, pending.data = some (.part data part) →
      ∃ entry ∈ Walk.delivered before, entry.key = (fileSpace, data.owner)) ?_ ?_ hsplit
  · intro before pending outcome after args answer hsplit hargs hanswer htarget
    obtain rfl := h.resolved args answer hanswer
    -- an entry point carries no component
    have hnone (data) : ComponentFile.carried? args.data ≠ some data := by
      rw [hstart args hargs]
      nofun
    exact ⟨fits_of_target (fun data hdata => absurd hdata (hnone data)) htarget,
      fun data part hdata => absurd (carried_of_target htarget hdata) (hnone data)⟩
  · intro before pending outcome after front source reply back importer args answer hsplit hbefore
      hsource hdelivered hargs hanswer htarget
    obtain rfl := h.resolved args answer hanswer
    have hreply : reply = site.outcome source := h.loaded source reply (by simp [hsplit, hbefore])
    rw [hreply] at hdelivered
    have hcarried (data) (hdata : ComponentFile.carried? args.data = some data) :=
      carried_of_delivered hsource.1 hdelivered (Walk.data_of_mem_importsOf hargs ▸ hdata)
    refine ⟨fits_of_target (fun data hdata => (hcarried data hdata).1) htarget,
      fun data part hdata => ?_⟩
    rcases (hcarried data (carried_of_target htarget hdata)).2 with hkey | ⟨other, hother⟩
    · -- the importer is the component's own module
      refine ⟨importer, ?_, (key_of_delivered hdelivered).trans hkey⟩
      rw [hbefore, Walk.mem_delivered]
      exact ⟨source, reply, by simp, hreply ▸ hdelivered⟩
    · -- the importer is another part, which comes after that module itself
      obtain ⟨entry, hentry, hkey⟩ := hsource.2 data other hother
      refine ⟨entry, ?_, hkey⟩
      rw [hbefore, Walk.delivered_append]
      exact List.mem_append_left _ hentry

end Run

end Site

end SfcBundler
