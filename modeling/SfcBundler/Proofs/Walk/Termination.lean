import Mathlib.Data.Finset.Card
import SfcBundler.Proofs.Walk.Account

/-!
# Walks come to an end

A walk need not end: plugins may make up new modules forever. It does end when what it finds lies
in a finite set of keys. The frontier may grow on the way, but a round that loads nothing new is
the last one, and there are only so many keys to load.

## Main definitions

* `Course.LandsIn`: a course in which every specifier that leads to a module leads into a set

## Main results

* `Course.IsSound.length_loaded_le`: a course loads no more modules than there are keys
* `Build.recordRounds_add`: rounds to spare change nothing about a walk that came to its end
* `Build.run_terminates`: one round more than there are keys is enough
-/

namespace SfcBundler

namespace Course

variable {course : Course} {start : List ResolveArgs} {keys : Finset ModuleKey}

/-- A course in which every specifier that is neither external nor in error leads into a set of
keys. -/
def LandsIn (keys : Finset ModuleKey) (course : Course) : Prop :=
  ∀ args answer pending, (args, answer) ∈ course.resolved →
    Walk.target? answer = some pending → pending.key ∈ keys

theorem IsSound.loadedKeys_subset (h : course.IsSound start) (hlands : course.LandsIn keys) :
    course.loadedKeys.toFinset ⊆ keys := by
  intro key hkey
  obtain ⟨⟨pending, outcome⟩, hloaded, rfl⟩ := List.mem_map.1 (List.mem_toFinset.1 hkey)
  obtain ⟨before, after, hsplit⟩ := List.append_of_mem hloaded
  -- whatever is loaded, a specifier led to it
  obtain ⟨args, answer, hanswer, htarget, -⟩ := h.preceded before pending outcome after hsplit
  exact hlands args answer pending hanswer htarget

/-- A course loads no more modules than there are keys. -/
theorem IsSound.length_loaded_le (h : course.IsSound start) (hlands : course.LandsIn keys) :
    course.loaded.length ≤ keys.card :=
  calc course.loaded.length
      = course.loadedKeys.length := (List.length_map _).symm
    _ = course.loadedKeys.toFinset.card := (List.toFinset_card_of_nodup h.nodup).symm
    _ ≤ keys.card := Finset.card_le_card (h.loadedKeys_subset hlands)

end Course

namespace Build

variable {σ : Type} [MonadFiles (StateM σ)] {build : Build (StateM σ)}

/-- Rounds to spare change nothing about a walk that came to its end. -/
theorem recordRounds_add {limit : Nat} {course after : Course} {state final : σ}
    (h : (build.recordRounds limit course).run state = (after, final))
    (hdone : after.frontier = []) (spare : Nat) :
    (build.recordRounds (limit + spare) course).run state = (after, final) := by
  induction limit generalizing course state with
  | zero =>
    rw [recordRounds_zero] at h
    cases h
    rw [recordRounds_of_frontier_eq_nil build _ hdone]
    rfl
  | succ limit ih =>
    by_cases hfrontier : course.frontier = []
    · rw [recordRounds_of_frontier_eq_nil build _ hfrontier] at h ⊢
      exact h
    · rw [recordRounds_succ build _ hfrontier] at h
      rw [Nat.add_right_comm, recordRounds_succ build _ hfrontier]
      obtain ⟨middle, between, hmiddle, h⟩ := exists_of_run_bind h
      rw [run_bind_of_eq hmiddle]
      exact ih h

/-- A walk that lands in a set of keys comes to its end in one round more than there are keys. -/
theorem frontier_eq_nil_of_landsIn {keys : Finset ModuleKey} {start : List ResolveArgs}
    {course : Course} {state final : σ}
    (h : (build.recordRounds (keys.card + 1) { frontier := start }).run state = (course, final))
    (hlands : course.LandsIn keys) : course.frontier = [] := by
  refine (recordRounds_progress h).resolve_right fun hmore => ?_
  -- each round that goes on loads one more key, and there are fewer keys than rounds
  have hbound := (recordRounds_isSound h).length_loaded_le hlands
  rw [List.length_nil] at hmore
  omega

/-- A run whose start hooks fail has its result whatever the limit is. -/
theorem exists_of_start_failed (entries : List String) {state : σ}
    (hstart : ((runStart build.options (build.hooks (·.onStart))).run state).1 ≠ []) :
    ∃ result final, ∀ limit, (build.run limit entries).run state = (some result, final) := by
  obtain ⟨⟨failed, started⟩, hfailed⟩ : ∃ reached,
    (runStart build.options (build.hooks (·.onStart))).run state = reached := ⟨_, rfl⟩
  rw [hfailed] at hstart
  obtain ⟨⟨result, final⟩, hended⟩ : ∃ reached,
    (runEnd { errors := failed } (build.hooks (·.onEnd))).run started = reached := ⟨_, rfl⟩
  refine ⟨result, final, fun limit => ?_⟩
  rw [run_of_start_failed hfailed hstart]
  exact run_map_of_eq hended some

/-- A run that finds modules only in a finite set of keys, whatever they import, comes to its end:
one round more than there are keys is enough, and with more rounds to spare the run is the same. -/
theorem run_terminates (build : Build (StateM σ)) (entries : List String) (state : σ)
    (keys : Finset ModuleKey)
    (hlands : ((build.recordRun (keys.card + 1) entries).run state).1.course.LandsIn keys) :
    ∃ result final, ∀ limit, keys.card + 1 ≤ limit →
      (build.run limit entries).run state = (some result, final) := by
  by_cases hfailed : ((runStart build.options (build.hooks (·.onStart))).run state).1 = []
  · obtain ⟨started, hstart⟩ : ∃ started,
        (runStart build.options (build.hooks (·.onStart))).run state = ([], started) :=
      ⟨_, Prod.ext hfailed rfl⟩
    obtain ⟨⟨dir, begun⟩, hdir⟩ : ∃ reached,
      (BuildOptions.baseDir (m := StateM σ) build.options).run started = reached := ⟨_, rfl⟩
    obtain ⟨⟨course, walked⟩, hcourse⟩ : ∃ reached,
      (build.recordRounds (keys.card + 1) { frontier := entryFrontier dir entries }).run begun =
        reached := ⟨_, rfl⟩
    -- what the run asks is what its rounds ask
    have hrecord : ((build.recordRun (keys.card + 1) entries).run state).1.course = course := by
      rw [recordRun, run_bind_of_eq hstart, if_neg (by simp), run_bind_of_eq hdir,
        run_bind_of_eq hcourse]
      split <;> rfl
    rw [hrecord] at hlands
    have hfrontier := frontier_eq_nil_of_landsIn hcourse hlands
    obtain ⟨⟨result, final⟩, hended⟩ : ∃ reached,
      (runEnd course.walk.result (build.hooks (·.onEnd))).run walked = reached := ⟨_, rfl⟩
    refine ⟨result, final, fun limit hlimit => ?_⟩
    obtain ⟨spare, rfl⟩ := Nat.exists_eq_add_of_le hlimit
    rw [run_of_frontier_eq_nil hstart hdir (recordRounds_add hcourse hfrontier spare) hfrontier]
    exact run_map_of_eq hended some
  · obtain ⟨result, final, hrun⟩ := exists_of_start_failed entries hfailed
    exact ⟨result, final, fun limit _ => hrun limit⟩

end Build

section Cycle

/-- A plugin of three scripts that import each other in a cycle. -/
def cycle : Build (StateM FileTree) where
  options := { workingDir := some "/" }
  plugins := [{
    name := "cycle"
    hooks := { onLoad := [{
      scope := { filter := fun _ => true }
      run := fun args => return match args.path with
        | "/a.js" => .ok (some { contents := some "import './b.js';import './a.js';" })
        | "/b.js" => .ok (some { contents := some "import './c.js';" })
        | _ => .ok (some { contents := some "import './a.js';" }) }] } }]

/-- The keys of the cycle. -/
def cycleKeys : Finset ModuleKey := {("file", "/a.js"), ("file", "/b.js"), ("file", "/c.js")}

/-- The cycle is walked to its end in four rounds; three, as many as there are keys, would not
do. -/
theorem run_terminates_cycle :
    ((cycle.recordRun (cycleKeys.card + 1) ["/a.js"]).run ringFiles).1.course.LandsIn cycleKeys ∧
    ((cycle.run cycleKeys.card ["/a.js"]).run ringFiles).1.isNone ∧
    ∃ result final, ∀ limit, cycleKeys.card + 1 ≤ limit →
      (cycle.run limit ["/a.js"]).run ringFiles = (some result, final) := by
  have hall : ∀ key ∈ ((cycle.recordRun 4 ["/a.js"]).run ringFiles).1.course.resolved.filterMap
      (fun item => (Walk.target? item.2).map PendingModule.key), key ∈ cycleKeys := by
    decide +kernel
  have hlands : ((cycle.recordRun (cycleKeys.card + 1) ["/a.js"]).run
      ringFiles).1.course.LandsIn cycleKeys := by
    intro args answer pending hmem htarget
    refine hall pending.key (List.mem_filterMap.2 ⟨(args, answer), hmem, ?_⟩)
    rw [htarget]
    rfl
  have hshort : ((cycle.run cycleKeys.card ["/a.js"]).run ringFiles).1.isNone := by
    decide +kernel
  exact ⟨hlands, hshort, Build.run_terminates cycle ["/a.js"] ringFiles cycleKeys hlands⟩

end Cycle

end SfcBundler
