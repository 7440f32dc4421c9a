import SfcBundler.Proofs.Walk.Record

/-!
# What a walk preserves

Whatever the plugins answer, a walk loads what it resolves, each key once, and it asks for
nothing but its entry points and what its modules import.

## Main definitions

* `Walk.target?`, `Walk.delivered?`: what a resolved specifier leads to, and what a load delivers
* `ResolveArgs.errorsOf`, `PendingModule.errorsOf`: the errors that an answer leaves
* `Course.IsSound`: a course in which everything is accounted for

## Main results

* `Walk.takeAllResolved_seen`, `Walk.mem_takeAllResolved`: what is to be loaded
* `Course.IsSound.advance`: a round keeps a course sound
* `Course.IsSound.loaded_induction`: induction along the imports of what is loaded
* `Build.recordRounds_progress`: a walk that goes on loads something in each round
-/

namespace SfcBundler

/-- The key of a module. -/
def OutputModule.key (module : OutputModule) : ModuleKey := (module.space, module.path)

/-- The key that a module waits under. -/
def PendingModule.key (pending : PendingModule) : ModuleKey := (pending.space, pending.path)

/-- The errors that the answer to a specifier leaves. -/
def ResolveArgs.errorsOf (args : ResolveArgs) : Except Message ResolveResult → List Message
  | .error message => [message]
  | .ok result => result.errors.map (·.locate args.origin)

/-- The errors that the answer to a load leaves. -/
def PendingModule.errorsOf (pending : PendingModule) : Except Message LoadedModule → List Message
  | .error message => [message]
  | .ok loaded => loaded.errors.map (·.locate pending.path)

namespace Walk

/-- The module that a resolved specifier leads to: none when it failed or is external. -/
def target? : Except Message ResolveResult → Option PendingModule
  | .error _ => none
  | .ok result =>
    if result.errors.isEmpty ∧ ¬ result.external then
      some ⟨result.path, if result.space = "" then fileSpace else result.space, result.data⟩
    else none

/-- The module that a load delivers: none when it failed. -/
def delivered? : Except Message LoadedModule → Option OutputModule
  | .error _ => none
  | .ok loaded => if loaded.errors.isEmpty then some loaded.module else none

/-- The modules that loads deliver, in order. -/
def delivered (loaded : List (PendingModule × Except Message LoadedModule)) : List OutputModule :=
  loaded.filterMap fun item => delivered? item.2

@[simp]
theorem delivered_append (front back : List (PendingModule × Except Message LoadedModule)) :
    delivered (front ++ back) = delivered front ++ delivered back :=
  List.filterMap_append

theorem mem_delivered {loaded : List (PendingModule × Except Message LoadedModule)}
    {module : OutputModule} :
    module ∈ delivered loaded ↔
      ∃ pending outcome, (pending, outcome) ∈ loaded ∧ delivered? outcome = some module := by
  simp [delivered]

/-- What is delivered before a module was loaded before it. -/
theorem exists_of_delivered_eq {loaded : List (PendingModule × Except Message LoadedModule)}
    {before after : List OutputModule} {module : OutputModule}
    (h : delivered loaded = before ++ module :: after) :
    ∃ front pending outcome back, loaded = front ++ (pending, outcome) :: back ∧
      delivered front = before ∧ delivered? outcome = some module := by
  obtain ⟨front, rest, rfl, hfront, hrest⟩ := List.filterMap_eq_append_iff.1 h
  -- loads that delivered nothing may stand in front of the one that delivered the module
  obtain ⟨skipped, ⟨pending, outcome⟩, back, rfl, hskipped, hmodule, -⟩ :=
    List.filterMap_eq_cons_iff.1 hrest
  have hnone : delivered skipped = [] := List.filterMap_eq_nil_iff.2 hskipped
  refine ⟨front ++ skipped, pending, outcome, back, by rw [List.append_assoc], ?_, hmodule⟩
  rw [delivered_append, hnone, List.append_nil]
  exact hfront

theorem delivered?_eq_some {outcome : Except Message LoadedModule} {module : OutputModule} :
    delivered? outcome = some module ↔
      ∃ loaded, outcome = .ok loaded ∧ loaded.errors = [] ∧ loaded.module = module := by
  cases outcome with
  | error message => simp [delivered?]
  | ok loaded => simp [delivered?]

theorem data_of_mem_importsOf {args : ResolveArgs} {importer : OutputModule}
    (h : args ∈ importsOf importer) : args.data = importer.data := by
  obtain ⟨found, -, rfl⟩ := List.mem_map.1 h
  rfl

theorem resolveDir_of_mem_importsOf {args : ResolveArgs} {importer : OutputModule}
    (h : args ∈ importsOf importer) : args.resolveDir = importer.resolveDir := by
  obtain ⟨found, -, rfl⟩ := List.mem_map.1 h
  rfl

/-- A load leaves errors exactly when it delivers nothing. -/
theorem errorsOf_eq_nil_iff {pending : PendingModule} {outcome : Except Message LoadedModule} :
    pending.errorsOf outcome = [] ↔ (delivered? outcome).isSome := by
  cases outcome with
  | error message => simp [PendingModule.errorsOf, delivered?]
  | ok loaded => by_cases h : loaded.errors = [] <;> simp [PendingModule.errorsOf, delivered?, h]

section Resolved

variable (walk : Walk) (args : ResolveArgs) (outcome : Except Message ResolveResult)

@[simp]
theorem takeResolved_modules :
    (walk.takeResolved args outcome).1.result.modules = walk.result.modules := by
  cases outcome with
  | error message => rfl
  | ok result =>
    simp only [takeResolved]
    generalize (if result.space = "" then fileSpace else result.space) = space
    split
    · rfl
    · split
      · rfl
      · split <;> rfl

@[simp]
theorem takeResolved_errors :
    (walk.takeResolved args outcome).1.result.errors =
      walk.result.errors ++ args.errorsOf outcome := by
  cases outcome with
  | error message => rfl
  | ok result =>
    simp only [takeResolved, ResolveArgs.errorsOf]
    generalize (if result.space = "" then fileSpace else result.space) = space
    split
    · rfl
    · rename_i herrors
      have hnil : result.errors = [] := by simpa using herrors
      split
      · simp [hnil, withWarnings]
      · split <;> simp [hnil, withWarnings]

/-- Where a specifier leads is to be loaded exactly when it was not seen before, and is seen from
then on. -/
theorem takeResolved_cases :
    (target? outcome = none ∧ (walk.takeResolved args outcome).2 = none ∧
      (walk.takeResolved args outcome).1.seen = walk.seen) ∨
    ∃ pending, target? outcome = some pending ∧
      ((pending.key ∈ walk.seen ∧ (walk.takeResolved args outcome).2 = none ∧
        (walk.takeResolved args outcome).1.seen = walk.seen) ∨
      (pending.key ∉ walk.seen ∧ (walk.takeResolved args outcome).2 = some pending ∧
        (walk.takeResolved args outcome).1.seen = pending.key :: walk.seen)) := by
  cases outcome with
  | error message => exact .inl ⟨rfl, rfl, rfl⟩
  | ok result =>
    by_cases herrors : result.errors = []
    · by_cases hexternal : result.external
      · left
        simp [target?, takeResolved, herrors, hexternal, withWarnings]
      · right
        -- whether it is to be loaded depends on its key alone
        refine ⟨⟨result.path, if result.space = "" then fileSpace else result.space, result.data⟩,
          by simp [target?, herrors, hexternal], ?_⟩
        simp only [takeResolved, herrors, hexternal, PendingModule.key, withWarnings]
        by_cases hseen : (if result.space = "" then fileSpace else result.space, result.path) ∈
          walk.seen
        · left
          simp [hseen]
        · right
          simp [hseen]
    · left
      simp [target?, takeResolved, herrors, withWarnings, withErrors]

end Resolved

section AllResolved

variable (walk : Walk) (resolved : List (ResolveArgs × Except Message ResolveResult))

/-- What every specifier preserves holds after all of them. -/
theorem takeAllResolved_induction {motive : Walk → Prop}
    (hstep : ∀ walk args outcome, motive walk → motive (walk.takeResolved args outcome).1)
    (hwalk : motive walk) : motive (walk.takeAllResolved resolved).1 := by
  induction resolved generalizing walk with
  | nil => exact hwalk
  | cons item rest ih => exact ih _ (hstep walk item.1 item.2 hwalk)

theorem takeAllResolved_modules :
    (walk.takeAllResolved resolved).1.result.modules = walk.result.modules :=
  walk.takeAllResolved_induction resolved
    (motive := fun after => after.result.modules = walk.result.modules)
    (fun after args outcome h => (after.takeResolved_modules args outcome).trans h) rfl

theorem takeAllResolved_errors :
    (walk.takeAllResolved resolved).1.result.errors =
      walk.result.errors ++ resolved.flatMap fun item => item.1.errorsOf item.2 := by
  induction resolved generalizing walk with
  | nil => simp [takeAllResolved]
  | cons item rest ih =>
    obtain ⟨args, outcome⟩ := item
    simp only [takeAllResolved]
    rw [ih, takeResolved_errors, List.flatMap_cons, List.append_assoc]

/-- What is to be loaded is seen. -/
theorem takeAllResolved_seen :
    (walk.takeAllResolved resolved).1.seen =
      ((walk.takeAllResolved resolved).2.map PendingModule.key).reverse ++ walk.seen := by
  induction resolved generalizing walk with
  | nil => rfl
  | cons item rest ih =>
    obtain ⟨args, outcome⟩ := item
    simp only [takeAllResolved]
    rw [ih]
    rcases walk.takeResolved_cases args outcome with
      ⟨-, hnone, hseen⟩ | ⟨pending, -, ⟨-, hnone, hseen⟩ | ⟨-, hsome, hseen⟩⟩
    · simp [hnone, hseen]
    · simp [hnone, hseen]
    · simp [hsome, hseen]

/-- Nothing is to be loaded twice, or again. -/
theorem nodup_takeAllResolved (hseen : walk.seen.Nodup) :
    (walk.takeAllResolved resolved).1.seen.Nodup := by
  refine walk.takeAllResolved_induction resolved (motive := fun after => after.seen.Nodup)
    (fun after args outcome h => ?_) hseen
  rcases after.takeResolved_cases args outcome with
    ⟨-, -, hsame⟩ | ⟨pending, -, ⟨-, -, hsame⟩ | ⟨hfresh, -, hmore⟩⟩
  · rwa [hsame]
  · rwa [hsame]
  · rw [hmore]
    exact List.nodup_cons.2 ⟨hfresh, h⟩

/-- What is to be loaded is where a specifier leads. -/
theorem mem_takeAllResolved {pending : PendingModule}
    (hpending : pending ∈ (walk.takeAllResolved resolved).2) :
    ∃ args outcome, (args, outcome) ∈ resolved ∧ target? outcome = some pending := by
  induction resolved generalizing walk with
  | nil => cases hpending
  | cons item rest ih =>
    obtain ⟨args, outcome⟩ := item
    simp only [takeAllResolved] at hpending
    rcases List.mem_append.1 hpending with hfirst | hrest
    · refine ⟨args, outcome, List.mem_cons_self, ?_⟩
      rcases walk.takeResolved_cases args outcome with
        ⟨-, hnone, -⟩ | ⟨found, htarget, ⟨-, hnone, -⟩ | ⟨-, hsome, -⟩⟩
      · simp [hnone] at hfirst
      · simp [hnone] at hfirst
      · rw [hsome] at hfirst
        rw [htarget, List.mem_singleton.1 hfirst]
    · obtain ⟨other, outcome', hmem, htarget⟩ := ih _ hrest
      exact ⟨other, outcome', List.mem_cons_of_mem _ hmem, htarget⟩

theorem seen_subset_takeAllResolved : walk.seen ⊆ (walk.takeAllResolved resolved).1.seen := by
  rw [takeAllResolved_seen]
  exact List.subset_append_right _ _

/-- Where a specifier leads is seen. -/
theorem key_mem_takeAllResolved {args : ResolveArgs} {outcome : Except Message ResolveResult}
    {pending : PendingModule} (hmem : (args, outcome) ∈ resolved)
    (htarget : target? outcome = some pending) :
    pending.key ∈ (walk.takeAllResolved resolved).1.seen := by
  induction resolved generalizing walk with
  | nil => cases hmem
  | cons item rest ih =>
    simp only [takeAllResolved]
    rcases List.mem_cons.1 hmem with rfl | hmem
    -- what is seen once stays seen
    · refine seen_subset_takeAllResolved _ rest ?_
      rcases walk.takeResolved_cases args outcome with
        ⟨hnone, -⟩ | ⟨found, hfound, ⟨hseen, -, hsame⟩ | ⟨-, -, hmore⟩⟩
      · rw [hnone] at htarget
        cases htarget
      · obtain rfl := Option.some.inj (hfound.symm.trans htarget)
        rwa [hsame]
      · obtain rfl := Option.some.inj (hfound.symm.trans htarget)
        rw [hmore]
        exact List.mem_cons_self
    · exact ih _ hmem

end AllResolved

section AllLoaded

variable (walk : Walk) (loaded : List (PendingModule × Except Message LoadedModule))

/-- A load that delivers adds its module and asks for what it imports; one that fails adds its
errors. -/
theorem takeLoaded_eq (pending : PendingModule) (outcome : Except Message LoadedModule) :
    (walk.takeLoaded pending outcome).1.seen = walk.seen ∧
    (walk.takeLoaded pending outcome).1.result.modules =
      walk.result.modules ++ (delivered? outcome).toList ∧
    (walk.takeLoaded pending outcome).1.result.errors =
      walk.result.errors ++ pending.errorsOf outcome ∧
    (walk.takeLoaded pending outcome).2 = (delivered? outcome).toList.flatMap importsOf := by
  cases outcome with
  | error message => simp [takeLoaded, delivered?, PendingModule.errorsOf, withErrors]
  | ok loaded =>
    by_cases herrors : loaded.errors = []
    · simp [takeLoaded, delivered?, PendingModule.errorsOf, herrors, withWarnings]
    · simp [takeLoaded, delivered?, PendingModule.errorsOf, herrors, withWarnings, withErrors]

/-- What loads make of a walk: the modules delivered, the errors left, and what the modules
import. -/
theorem takeAllLoaded_eq :
    (walk.takeAllLoaded loaded).1.seen = walk.seen ∧
    (walk.takeAllLoaded loaded).1.result.modules = walk.result.modules ++ delivered loaded ∧
    (walk.takeAllLoaded loaded).1.result.errors =
      walk.result.errors ++ (loaded.flatMap fun item => item.1.errorsOf item.2) ∧
    (walk.takeAllLoaded loaded).2 = (delivered loaded).flatMap importsOf := by
  induction loaded generalizing walk with
  | nil => simp [takeAllLoaded, delivered]
  | cons item rest ih =>
    obtain ⟨pending, outcome⟩ := item
    obtain ⟨hseen, hmodules, herrors, hfrontier⟩ := walk.takeLoaded_eq pending outcome
    obtain ⟨hseen', hmodules', herrors', hfrontier'⟩ := ih (walk.takeLoaded pending outcome).1
    have hcons : delivered ((pending, outcome) :: rest) =
        (delivered? outcome).toList ++ delivered rest := by
      cases hdelivered : delivered? outcome <;> simp [delivered, hdelivered]
    simp only [takeAllLoaded, hcons]
    refine ⟨by rw [hseen', hseen], ?_, ?_, ?_⟩
    · rw [hmodules', hmodules, List.append_assoc]
    · rw [herrors', herrors, List.flatMap_cons, List.append_assoc]
    · rw [hfrontier, hfrontier', List.flatMap_append]

end AllLoaded

end Walk

namespace Course

variable {course : Course} {start : List ResolveArgs}

/-- The keys of the modules loaded, in order. -/
def loadedKeys (course : Course) : List ModuleKey := course.loaded.map fun item => item.1.key

/-- The errors that the answers so far leave. -/
def errorsLeft (course : Course) : List Message :=
  (course.resolved.flatMap fun item => item.1.errorsOf item.2) ++
    course.loaded.flatMap fun item => item.1.errorsOf item.2

/-- A course in which everything is accounted for. -/
structure IsSound (start : List ResolveArgs) (course : Course) : Prop where
  /-- What was resolved or is still to be is the start and what modules import. -/
  asked : course.resolved.map Prod.fst ++ course.frontier =
    start ++ course.walk.result.modules.flatMap Walk.importsOf
  seen : course.walk.seen = course.loadedKeys.reverse
  nodup : course.loadedKeys.Nodup
  modules : course.walk.result.modules = Walk.delivered course.loaded
  errors : course.walk.result.errors.Perm course.errorsLeft
  /-- Where a specifier leads is loaded. -/
  settled : ∀ args outcome pending, (args, outcome) ∈ course.resolved →
    Walk.target? outcome = some pending → pending.key ∈ course.loadedKeys
  /-- What is loaded is where the start leads, or an import of a module before it. -/
  preceded : ∀ before pending outcome after,
    course.loaded = before ++ (pending, outcome) :: after →
    ∃ args answer, (args, answer) ∈ course.resolved ∧ Walk.target? answer = some pending ∧
      (args ∈ start ∨ ∃ importer ∈ Walk.delivered before, args ∈ Walk.importsOf importer)

theorem isSound_start (start : List ResolveArgs) : IsSound start { frontier := start } where
  asked := by simp
  seen := rfl
  nodup := .nil
  modules := rfl
  errors := .nil
  settled := by simp
  preceded := by simp

section Advance

variable {resolved : List (ResolveArgs × Except Message ResolveResult)}
  {loaded : List (PendingModule × Except Message LoadedModule)}

theorem advance_resolved :
    (course.advance resolved loaded).resolved = course.resolved ++ resolved :=
  rfl

theorem advance_loaded : (course.advance resolved loaded).loaded = course.loaded ++ loaded := rfl

theorem advance_frontier :
    (course.advance resolved loaded).frontier = (Walk.delivered loaded).flatMap Walk.importsOf :=
  (Walk.takeAllLoaded_eq _ loaded).2.2.2

theorem advance_modules :
    (course.advance resolved loaded).walk.result.modules =
      course.walk.result.modules ++ Walk.delivered loaded := by
  rw [← Walk.takeAllResolved_modules course.walk resolved]
  exact (Walk.takeAllLoaded_eq _ loaded).2.1

theorem advance_errors :
    (course.advance resolved loaded).walk.result.errors =
      (course.walk.result.errors ++ resolved.flatMap fun item => item.1.errorsOf item.2) ++
        loaded.flatMap fun item => item.1.errorsOf item.2 := by
  rw [← Walk.takeAllResolved_errors course.walk resolved]
  exact (Walk.takeAllLoaded_eq _ loaded).2.2.1

theorem advance_seen (hloaded : loaded.map Prod.fst = course.pendingAfter resolved) :
    (course.advance resolved loaded).walk.seen =
      (loaded.map fun item => item.1.key).reverse ++ course.walk.seen := by
  -- what is loaded is what was to be loaded, in its order
  have hkeys : (loaded.map fun item => item.1.key) =
      (course.walk.takeAllResolved resolved).2.map PendingModule.key := by
    rw [← show loaded.map Prod.fst = (course.walk.takeAllResolved resolved).2 from hloaded,
      List.map_map]
    rfl
  rw [hkeys, ← Walk.takeAllResolved_seen]
  exact (Walk.takeAllLoaded_eq _ loaded).1

theorem loadedKeys_advance :
    (course.advance resolved loaded).loadedKeys =
      course.loadedKeys ++ loaded.map fun item => item.1.key :=
  List.map_append

theorem errorsLeft_advance :
    (course.advance resolved loaded).errorsLeft.Perm
      (course.errorsLeft ++ ((resolved.flatMap fun item => item.1.errorsOf item.2) ++
        loaded.flatMap fun item => item.1.errorsOf item.2)) := by
  simp only [errorsLeft, advance_resolved, advance_loaded, List.flatMap_append, List.append_assoc]
  -- what this round resolved goes past what was loaded before
  refine .append_left _ ?_
  simp only [← List.append_assoc]
  exact .append_right _ List.perm_append_comm

/-- A round keeps a course sound, whatever it is answered. -/
theorem IsSound.advance (h : course.IsSound start)
    (hresolved : resolved.map Prod.fst = course.frontier)
    (hloaded : loaded.map Prod.fst = course.pendingAfter resolved) :
    (course.advance resolved loaded).IsSound start := by
  have hseen : (course.advance resolved loaded).walk.seen =
      (course.advance resolved loaded).loadedKeys.reverse := by
    rw [advance_seen hloaded, loadedKeys_advance, List.reverse_append, h.seen]
  have hpending (pending) (outcome) (hmem : (pending, outcome) ∈ loaded) :
      pending ∈ (course.walk.takeAllResolved resolved).2 := by
    have hfirst : pending ∈ loaded.map Prod.fst := List.mem_map_of_mem hmem
    rwa [hloaded] at hfirst
  constructor
  case asked =>
    rw [advance_resolved, List.map_append, hresolved, h.asked, advance_frontier, advance_modules,
      List.flatMap_append, List.append_assoc]
  case seen => exact hseen
  case nodup =>
    refine (List.reverse_perm _).nodup_iff.1 ?_
    rw [← hseen,
      show (course.advance resolved loaded).walk.seen = _ from (Walk.takeAllLoaded_eq _ loaded).1]
    refine Walk.nodup_takeAllResolved _ _ ?_
    rw [h.seen]
    exact (List.reverse_perm _).nodup_iff.2 h.nodup
  case modules =>
    rw [advance_modules, advance_loaded, Walk.delivered_append, h.modules]
  case errors =>
    rw [advance_errors, List.append_assoc]
    exact (h.errors.append_right _).trans errorsLeft_advance.symm
  case settled =>
    intro args outcome pending hmem htarget
    rcases List.mem_append.1 hmem with hold | hnew
    · rw [loadedKeys_advance]
      exact List.mem_append_left _ (h.settled args outcome pending hold htarget)
    · rw [← List.mem_reverse, ← hseen,
        show (course.advance resolved loaded).walk.seen = _ from (Walk.takeAllLoaded_eq _ loaded).1]
      exact Walk.key_mem_takeAllResolved _ _ hnew htarget
  case preceded =>
    intro before pending outcome after hsplit
    rw [advance_loaded] at hsplit
    -- what is loaded in this round is an import of a module of the rounds before
    have hfresh (middle) (hbefore : before = course.loaded ++ middle)
        (hnew : loaded = middle ++ (pending, outcome) :: after) :
        ∃ args answer, (args, answer) ∈ (course.advance resolved loaded).resolved ∧
          Walk.target? answer = some pending ∧
          (args ∈ start ∨ ∃ importer ∈ Walk.delivered before, args ∈ Walk.importsOf importer) := by
      obtain ⟨args, answer, hanswer, htarget⟩ := Walk.mem_takeAllResolved _ _
        (hpending pending outcome (hnew ▸ List.mem_append_right _ List.mem_cons_self))
      refine ⟨args, answer, List.mem_append_right _ hanswer, htarget, ?_⟩
      have hasked : args ∈ course.resolved.map Prod.fst ++ course.frontier :=
        List.mem_append_right _ (hresolved ▸ List.mem_map_of_mem hanswer)
      rw [h.asked] at hasked
      rcases List.mem_append.1 hasked with hstart | himport
      · exact .inl hstart
      · obtain ⟨importer, himporter, hargs⟩ := List.mem_flatMap.1 himport
        rw [h.modules] at himporter
        refine .inr ⟨importer, ?_, hargs⟩
        rw [hbefore, Walk.delivered_append]
        exact List.mem_append_left _ himporter
    rcases List.append_eq_append_iff.1 hsplit with ⟨middle, hbefore, hnew⟩ | ⟨middle, hold, hafter⟩
    · exact hfresh middle hbefore hnew
    · cases middle with
      | nil => exact hfresh [] (by simpa using hold.symm) hafter.symm
      | cons first rest =>
        obtain ⟨rfl, -⟩ := List.cons.inj hafter
        obtain ⟨args, answer, hanswer, htarget, hargs⟩ :=
          h.preceded before pending outcome rest hold
        exact ⟨args, answer, List.mem_append_left _ hanswer, htarget, hargs⟩

end Advance

/-- A walk that came to its end has asked for its start and for what its modules import. -/
theorem IsSound.asked_of_frontier_eq_nil (h : course.IsSound start)
    (hfrontier : course.frontier = []) :
    course.resolved.map Prod.fst =
      start ++ course.walk.result.modules.flatMap Walk.importsOf := by
  rw [← h.asked, hfrontier, List.append_nil]

theorem IsSound.mem_asked_iff (h : course.IsSound start) (hfrontier : course.frontier = [])
    {args : ResolveArgs} :
    args ∈ course.resolved.map Prod.fst ↔
      args ∈ start ∨ ∃ importer ∈ course.walk.result.modules, args ∈ Walk.importsOf importer := by
  rw [h.asked_of_frontier_eq_nil hfrontier, List.mem_append, List.mem_flatMap]

/-- Induction along the imports of what is loaded. What is loaded is known with all that was loaded
before it, among which is the module that imports it, unless the start leads to it. -/
theorem IsSound.loaded_induction (h : course.IsSound start)
    {motive : List (PendingModule × Except Message LoadedModule) → PendingModule →
      Except Message LoadedModule → Prop}
    (hstart : ∀ before pending outcome after args answer,
      course.loaded = before ++ (pending, outcome) :: after → args ∈ start →
      (args, answer) ∈ course.resolved → Walk.target? answer = some pending →
      motive before pending outcome)
    (himport : ∀ before pending outcome after front source reply back importer args answer,
      course.loaded = before ++ (pending, outcome) :: after →
      before = front ++ (source, reply) :: back → motive front source reply →
      Walk.delivered? reply = some importer → args ∈ Walk.importsOf importer →
      (args, answer) ∈ course.resolved → Walk.target? answer = some pending →
      motive before pending outcome)
    {before after : List (PendingModule × Except Message LoadedModule)} {pending : PendingModule}
    {outcome : Except Message LoadedModule}
    (hsplit : course.loaded = before ++ (pending, outcome) :: after) :
    motive before pending outcome := by
  -- the induction is on how much was loaded before
  induction hlength : before.length using Nat.strongRecOn
    generalizing before after pending outcome with
  | ind length ih =>
    obtain ⟨args, answer, hanswer, htarget, hargs⟩ := h.preceded _ _ _ _ hsplit
    rcases hargs with hargs | ⟨importer, himporter, hargs⟩
    · exact hstart before pending outcome after args answer hsplit hargs hanswer htarget
    · obtain ⟨source, reply, hsource, hdelivered⟩ := Walk.mem_delivered.1 himporter
      obtain ⟨front, back, rfl⟩ := List.append_of_mem hsource
      refine himport _ pending outcome after front source reply back importer args answer hsplit rfl
        ?_ hdelivered hargs hanswer htarget
      -- the importer was loaded before, and so was less in front of it
      have hshorter : front.length < length := by
        rw [← hlength, List.length_append, List.length_cons]
        omega
      have hfront : course.loaded =
          front ++ (source, reply) :: (back ++ (pending, outcome) :: after) := by
        rw [hsplit, List.append_assoc, List.cons_append]
      exact ih front.length hshorter hfront rfl

end Course

namespace Build

variable {σ : Type} [MonadFiles (StateM σ)] {build : Build (StateM σ)}

/-- Rounds come to an end, or each of them loads something. -/
theorem recordRounds_progress {limit : Nat} {course after : Course} {state final : σ}
    (h : (build.recordRounds limit course).run state = (after, final)) :
    after.frontier = [] ∨ course.loaded.length + limit ≤ after.loaded.length := by
  induction limit generalizing course state with
  | zero =>
    rw [recordRounds_zero] at h
    cases h
    exact .inr (Nat.le_refl _)
  | succ limit ih =>
    by_cases hfrontier : course.frontier = []
    · rw [recordRounds_of_frontier_eq_nil build _ hfrontier] at h
      cases h
      exact .inl hfrontier
    · rw [recordRounds_succ build _ hfrontier] at h
      obtain ⟨middle, between, hround, h⟩ := exists_of_run_bind h
      obtain ⟨resolved, loaded, -, -, -, -, -, rfl⟩ := exists_of_recordRound hround
      cases loaded with
      | nil =>
        -- nothing was loaded, so nothing is imported
        have hfrontier : (course.advance resolved []).frontier = [] := Course.advance_frontier
        rw [recordRounds_of_frontier_eq_nil build _ hfrontier] at h
        cases h
        exact .inl hfrontier
      | cons item rest =>
        rcases ih h with hdone | hmore
        · exact .inl hdone
        · refine .inr (Nat.le_trans ?_ hmore)
          rw [Course.advance_loaded, List.length_append, List.length_cons]
          omega

end Build

end SfcBundler
