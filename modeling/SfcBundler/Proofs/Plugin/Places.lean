import SfcBundler.Proofs.Plugin.Walk

/-!
# Where modules lie

A walk that begins in an absolute directory finds every module at a path from the root, and what a
module imports is seen from an absolute directory again.

## Main definitions

* `Site.IsPlaced`: a module that waits at a path from the root
* `Site.SeesAbsolute`: imports that are seen from an absolute directory

## Main results

* `Site.isPlaced_of_target`: a specifier leads to a path from the root
* `Site.seesAbsolute_of_delivered`: so do the imports of a module that lies at such a path
* `Site.Walks.isPlaced`: all that a walk loads lies at paths from the root
-/

namespace SfcBundler

theorem ComponentFile.mem_of_isFile {path : List Char} (h : ComponentFile.isFile path) :
    'v' ∈ path := by
  obtain ⟨front, rfl⟩ := List.isSuffixOf_iff_suffix.1 h
  exact List.mem_append_right _ (by decide)

theorem StyleSheet.mem_of_isAddress {path : List Char} (h : StyleSheet.isAddress path) :
    's' ∈ path := by
  rcases Bool.or_eq_true_iff.1 h with h | h
  · obtain ⟨front, rfl⟩ := List.isSuffixOf_iff_suffix.1 h
    exact List.mem_append_right _ (by decide)
  · obtain ⟨front, rfl⟩ := List.isSuffixOf_iff_suffix.1 h
    exact List.mem_append_right _ (by decide)

theorem Loader.extension?_isSome {path : String} (h : (Loader.ofPath? path).isSome) :
    (Path.extension? path).isSome := by
  rw [Loader.ofPath?] at h
  cases hextension : Path.extension? path with
  | some text => rfl
  | none =>
    rw [hextension] at h
    cases h

namespace Site

variable {site : Site} {pending : PendingModule} {args : ResolveArgs}

/-- A module that waits at a path from the root. The file of the component that it waits with lies
in an absolute directory. -/
structure IsPlaced (pending : PendingModule) : Prop where
  path : Path.IsRooted pending.path.toList
  owner : ∀ data part, pending.data = some (.part data part) →
    Path.isAbsolute (Path.parentDir data.owner)

/-- Imports that are seen from an absolute directory. The file of the component that they carry
lies in one too. -/
structure SeesAbsolute (dir : String) (data? : Option PluginData) : Prop where
  dir : Path.isAbsolute dir
  owner : ∀ data, ComponentFile.carried? data? = some data →
    Path.isAbsolute (Path.parentDir data.owner)

/-- A specifier leads to a path from the root. -/
theorem isPlaced_of_target (h : SeesAbsolute args.resolveDir args.data)
    (htarget : Walk.target? (site.resolved args) = some pending) : IsPlaced pending := by
  rcases target_cases htarget with
    ⟨hdata, -, specifier, hpath⟩ | ⟨data, part, owner, hcarried, rfl, -, -⟩
  · refine ⟨?_, fun data part hpart => ?_⟩
    · rw [hpath]
      exact Path.isRooted_absolutize specifier h.dir
    · rw [hdata] at hpart
      cases hpart
  · refine ⟨Path.isRooted_absolutize _ h.dir, fun data' part' hpart => ?_⟩
    cases hpart
    exact h.owner data hcarried

/-- What a module imports is seen from an absolute directory, if the module lies at a path from
the root. -/
theorem seesAbsolute_of_delivered (hfits : site.Fits pending) (hplaced : IsPlaced pending)
    {module : OutputModule} (hmodule : Walk.delivered? (site.outcome pending) = some module) :
    SeesAbsolute module.resolveDir module.data := by
  have habsolute : Path.isAbsolute pending.path := hplaced.path.isAbsoluteText
  rcases delivered_cases hfits hmodule with
    ⟨hnone, hdir, hname⟩ | ⟨data, hdata, hdir, -, hcase⟩
  · refine ⟨?_, fun data hcarried => ?_⟩
    · rw [hdir]
      rcases hname with hstyle | hloader
      · exact Path.isAbsolute_parentDir_of_mem habsolute (StyleSheet.mem_of_isAddress hstyle)
          (by decide) (by decide)
      · exact Path.isAbsolute_parentDir_of_extension habsolute (Loader.extension?_isSome hloader)
    · rw [hnone] at hcarried
      cases hcarried
  · have howner : Path.isAbsolute (Path.parentDir data.owner) := by
      rcases hcase with ⟨hkey, hfile⟩ | ⟨part, hpart⟩
      · -- the component lies where the module does
        rw [(Prod.mk.inj hkey).2] at habsolute
        exact Path.isAbsolute_parentDir_of_mem habsolute (ComponentFile.mem_of_isFile hfile)
          (by decide) (by decide)
      · exact hplaced.owner data part hpart
    refine ⟨hdir ▸ howner, fun found hcarried => ?_⟩
    rw [hdata] at hcarried
    obtain rfl : data = found := Option.some.inj hcarried
    exact howner

namespace Walks

variable {entries : List String} {course : Course} {final : Session}

/-- All that a walk loads lies at paths from the root. -/
theorem isPlaced (h : site.Walks entries course final) (hdir : Path.isAbsolute site.baseDir)
    {outcome : Except Message LoadedModule} (hloaded : (pending, outcome) ∈ course.loaded) :
    IsPlaced pending := by
  refine h.loaded_induction (motive := IsPlaced) ?_ ?_ hloaded
  · intro args hargs pending htarget
    refine isPlaced_of_target ?_ htarget
    obtain ⟨entry, -, rfl⟩ := List.mem_map.1 hargs
    exact ⟨hdir, nofun⟩
  · intro source importer args pending hsource hplaced hdelivered hargs htarget
    have hsees := seesAbsolute_of_delivered (h.fits hsource) hplaced hdelivered
    rw [← Walk.resolveDir_of_mem_importsOf hargs, ← Walk.data_of_mem_importsOf hargs] at hsees
    exact isPlaced_of_target hsees htarget

end Walks

end Site

end SfcBundler
