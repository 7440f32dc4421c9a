import Mathlib.Data.List.Nodup
import SfcBundler.Files.Tree
import SfcBundler.Proofs.Walk.Invariant

/-!
# The account of a run

A run that comes to its end has asked for all that it should and for nothing else, has loaded
each module once, and has an output module or an error to show for each. The plugins may do
anything: a hook may answer by a state that every hook reads and writes.

## Main definitions

* `Course.Settles`: what became of a specifier
* `Course.Reached`: a module that a chain of imports leads to
* `Build.Account`: everything that a run owes

## Main results

* `Build.account_of_run`: every run that comes to its end gives an account
-/

namespace SfcBundler

namespace Course

/-- A specifier comes to one of three ends: its errors are reported, it is external, or the module
that it leads to is loaded. -/
def Settles (course : Course) (result : BuildResult) (args : ResolveArgs) :
    Except Message ResolveResult → Prop
  | .error message => message ∈ result.errors
  | .ok answer =>
    (answer.errors ≠ [] ∧ ∀ error ∈ answer.errors, error.locate args.origin ∈ result.errors) ∨
    (answer.errors = [] ∧ answer.external) ∨
    (answer.errors = [] ∧ ¬ answer.external ∧
      (if answer.space = "" then fileSpace else answer.space, answer.path) ∈ course.loadedKeys)

/-- A specifier was resolved and led to a module. -/
def LeadsTo (course : Course) (args : ResolveArgs) (module : OutputModule) : Prop :=
  ∃ answer pending, (args, answer) ∈ course.resolved ∧ Walk.target? answer = some pending ∧
    pending.key = module.key

/-- An output module that the start leads to, through imports of output modules. -/
inductive Reached (start : List ResolveArgs) (course : Course) (modules : List OutputModule) :
    OutputModule → Prop
  | start {args : ResolveArgs} {module : OutputModule} : args ∈ start →
    course.LeadsTo args module → module ∈ modules → Reached start course modules module
  | imported {importer module : OutputModule} {args : ResolveArgs} :
    Reached start course modules importer → args ∈ Walk.importsOf importer →
    course.LeadsTo args module → module ∈ modules → Reached start course modules module

variable {course : Course} {start : List ResolveArgs} {result : BuildResult}

/-- What a load delivers has the key it was loaded for. -/
def DeliversKeys (course : Course) : Prop :=
  ∀ pending outcome module, (pending, outcome) ∈ course.loaded →
    Walk.delivered? outcome = some module → module.key = pending.key

theorem IsSound.nodup_modules (h : course.IsSound start) (hkeys : course.DeliversKeys) :
    (course.walk.result.modules.map OutputModule.key).Nodup := by
  -- the keys of what was delivered are keys of what was loaded, in the same order
  have hsublist (loaded) (hloaded : ∀ item ∈ loaded, item ∈ course.loaded) :
      ((Walk.delivered loaded).map OutputModule.key).Sublist
        (loaded.map fun item => item.1.key) := by
    induction loaded with
    | nil => exact .slnil
    | cons item rest ih =>
      have hrest := ih fun other hother => hloaded other (List.mem_cons_of_mem _ hother)
      cases hdelivered : Walk.delivered? item.2 with
      | none =>
        simp only [Walk.delivered, List.filterMap_cons, hdelivered, List.map_cons]
        exact hrest.cons _
      | some module =>
        simp only [Walk.delivered, List.filterMap_cons, hdelivered, List.map_cons]
        rw [hkeys item.1 item.2 module (hloaded item List.mem_cons_self) hdelivered]
        exact hrest.cons_cons _
  rw [h.modules]
  exact (hsublist course.loaded fun _ hitem => hitem).nodup h.nodup

/-- A key says which load it was. -/
theorem IsSound.eq_of_key_eq (h : course.IsSound start) {pending other : PendingModule}
    {outcome reply : Except Message LoadedModule} (hmem : (pending, outcome) ∈ course.loaded)
    (hother : (other, reply) ∈ course.loaded) (hkey : pending.key = other.key) :
    pending = other ∧ outcome = reply := by
  have hinjective := List.inj_on_of_nodup_map h.nodup hmem hother hkey
  exact ⟨congrArg Prod.fst hinjective, congrArg Prod.snd hinjective⟩

theorem IsSound.mem_modules (h : course.IsSound start) {module : OutputModule} :
    module ∈ course.walk.result.modules ↔
      ∃ pending outcome, (pending, outcome) ∈ course.loaded ∧
        Walk.delivered? outcome = some module := by
  rw [h.modules, Walk.mem_delivered]

theorem IsSound.mem_errors (h : course.IsSound start) {message : Message} :
    message ∈ course.walk.result.errors ↔
      (∃ args outcome, (args, outcome) ∈ course.resolved ∧ message ∈ args.errorsOf outcome) ∨
      ∃ pending outcome, (pending, outcome) ∈ course.loaded ∧
        message ∈ pending.errorsOf outcome := by
  rw [h.errors.mem_iff]
  simp [errorsLeft]

theorem IsSound.settles (h : course.IsSound start) {args : ResolveArgs}
    {outcome : Except Message ResolveResult} (hmem : (args, outcome) ∈ course.resolved) :
    course.Settles course.walk.result args outcome := by
  have hreported (message) (hmessage : message ∈ args.errorsOf outcome) :
      message ∈ course.walk.result.errors :=
    h.mem_errors.2 (.inl ⟨args, outcome, hmem, hmessage⟩)
  cases outcome with
  | error message => exact hreported message List.mem_cons_self
  | ok answer =>
    -- an answer with errors leads nowhere; one without may be external
    by_cases herrors : answer.errors = []
    · refine .inr ?_
      by_cases hexternal : answer.external
      · exact .inl ⟨herrors, hexternal⟩
      · refine .inr ⟨herrors, hexternal, ?_⟩
        exact h.settled args _ _ hmem (by simp [Walk.target?, herrors, hexternal]; rfl)
    · exact .inl ⟨herrors, fun error herror => hreported _ (List.mem_map_of_mem herror)⟩

/-- Among modules with different keys, one key selects one module. -/
theorem filter_key_eq {modules : List OutputModule} (hnodup : (modules.map OutputModule.key).Nodup)
    {module : OutputModule} (hmodule : module ∈ modules) :
    modules.filter (·.key == module.key) = [module] := by
  obtain ⟨front, back, rfl⟩ := List.append_of_mem hmodule
  rw [List.map_append, List.map_cons, List.nodup_middle, List.nodup_cons] at hnodup
  -- no other module has this key
  have hothers : ∀ other ∈ front ++ back, ¬ (other.key == module.key) = true := by
    intro other hother heq
    refine hnodup.1 ?_
    rw [← List.map_append, ← eq_of_beq heq]
    exact List.mem_map_of_mem hother
  rw [List.filter_append, List.filter_cons_of_pos (by simp),
    List.filter_eq_nil_iff.2 fun other hother => hothers other (List.mem_append_left _ hother),
    List.filter_eq_nil_iff.2 fun other hother => hothers other (List.mem_append_right _ hother),
    List.nil_append]

/-- What was loaded shows as one module and leaves no error, or as no module and leaves errors
that are reported. -/
theorem IsSound.shows (h : course.IsSound start) (hkeys : course.DeliversKeys)
    {pending : PendingModule} {outcome : Except Message LoadedModule}
    (hmem : (pending, outcome) ∈ course.loaded) :
    (pending.errorsOf outcome = [] ∧ ∃ module, Walk.delivered? outcome = some module ∧
      course.walk.result.modules.filter (·.key == pending.key) = [module]) ∨
    (pending.errorsOf outcome ≠ [] ∧
      pending.errorsOf outcome ⊆ course.walk.result.errors ∧
      ∀ module ∈ course.walk.result.modules, module.key ≠ pending.key) := by
  cases hdelivered : Walk.delivered? outcome with
  | some module =>
    refine .inl ⟨Walk.errorsOf_eq_nil_iff.2 (by rw [hdelivered]; rfl), module, rfl, ?_⟩
    rw [← hkeys pending outcome module hmem hdelivered]
    exact filter_key_eq (h.nodup_modules hkeys)
      (h.mem_modules.2 ⟨pending, outcome, hmem, hdelivered⟩)
  | none =>
    refine .inr ⟨fun hnil => ?_, fun message hmessage => ?_, fun module hmodule hkey => ?_⟩
    · rw [Walk.errorsOf_eq_nil_iff, hdelivered] at hnil
      cases hnil
    · exact h.mem_errors.2 (.inr ⟨pending, outcome, hmem, hmessage⟩)
    · -- a module with that key would come from the same load
      obtain ⟨other, reply, hother, hmodule⟩ := h.mem_modules.1 hmodule
      rw [hkeys other reply module hother hmodule] at hkey
      obtain ⟨-, rfl⟩ := h.eq_of_key_eq hother hmem hkey
      rw [hdelivered] at hmodule
      cases hmodule

/-- What became of a specifier does not change when more errors are reported. -/
theorem Settles.append_errors {args : ResolveArgs} {outcome : Except Message ResolveResult}
    (h : course.Settles result args outcome) (late : List Message) :
    course.Settles { result with errors := result.errors ++ late } args outcome := by
  cases outcome with
  | error message => exact List.mem_append_left _ h
  | ok answer =>
    rcases h with ⟨herrors, hreported⟩ | hrest
    · exact .inl ⟨herrors, fun error herror => List.mem_append_left _ (hreported error herror)⟩
    · exact .inr hrest

theorem IsSound.reached (h : course.IsSound start) (hkeys : course.DeliversKeys)
    {module : OutputModule} (hmodule : module ∈ course.walk.result.modules) :
    Reached start course course.walk.result.modules module := by
  obtain ⟨pending, outcome, hloaded, hdelivered⟩ := h.mem_modules.1 hmodule
  -- a module has the key that its load was asked for, so that an import leads to the module
  have hleads {args answer source reply found} (hanswer : (args, answer) ∈ course.resolved)
      (htarget : Walk.target? answer = some source) (hsource : (source, reply) ∈ course.loaded)
      (hfound : Walk.delivered? reply = some found) : course.LeadsTo args found :=
    ⟨answer, source, hanswer, htarget, (hkeys source reply found hsource hfound).symm⟩
  have hmodules {source reply found} (hsource : (source, reply) ∈ course.loaded)
      (hfound : Walk.delivered? reply = some found) : found ∈ course.walk.result.modules :=
    h.mem_modules.2 ⟨source, reply, hsource, hfound⟩
  obtain ⟨before, after, hsplit⟩ := List.append_of_mem hloaded
  refine h.loaded_induction (motive := fun _ _ reply => ∀ found,
    Walk.delivered? reply = some found → Reached start course course.walk.result.modules found)
    ?_ ?_ hsplit module hdelivered
  · intro before source reply after args answer hsplit hargs hanswer htarget found hfound
    have hsource : (source, reply) ∈ course.loaded :=
      hsplit ▸ List.mem_append_right _ List.mem_cons_self
    exact .start hargs (hleads hanswer htarget hsource hfound) (hmodules hsource hfound)
  · intro before source reply after front importing given back importer args answer hsplit hbefore
      himporter hdelivers hargs hanswer htarget found hfound
    have hsource : (source, reply) ∈ course.loaded :=
      hsplit ▸ List.mem_append_right _ List.mem_cons_self
    exact .imported (himporter importer hdelivers) hargs (hleads hanswer htarget hsource hfound)
      (hmodules hsource hfound)

end Course

section State

variable {σ : Type} [MonadFiles (StateM σ)] {build : Build (StateM σ)}

namespace Build

theorem recordRounds_isSound {limit : Nat} {start : List ResolveArgs} {course : Course}
    {state final : σ}
    (h : (build.recordRounds limit { frontier := start }).run state = (course, final)) :
    course.IsSound start := by
  refine recordRounds_induction (motive := fun course _ => course.IsSound start)
    (fun hcourse hround => ?_) (Course.isSound_start start) h
  obtain ⟨resolved, loaded, between, hresolved, hloaded, -, -, rfl⟩ := exists_of_recordRound hround
  exact hcourse.advance hresolved hloaded

/-- The answers in a record are what the plugins answer to the questions in some state. -/
structure Answers (build : Build (StateM σ)) (course : Course) : Prop where
  resolved : ∀ args outcome, (args, outcome) ∈ course.resolved →
    ∃ state, ((build.resolve args).run state).1 = outcome
  loaded : ∀ pending outcome, (pending, outcome) ∈ course.loaded →
    ∃ state, ((build.load pending).run state).1 = outcome

theorem recordRounds_answers {limit : Nat} {start : List ResolveArgs} {course : Course}
    {state final : σ}
    (h : (build.recordRounds limit { frontier := start }).run state = (course, final)) :
    build.Answers course := by
  refine recordRounds_induction (motive := fun course _ => build.Answers course)
    (fun hcourse hround => ?_) ⟨by simp, by simp⟩ h
  obtain ⟨resolved, loaded, between, -, -, hresolve, hload, rfl⟩ := exists_of_recordRound hround
  -- what the round was answered was answered in some state on its way
  constructor
  · intro args outcome hmem
    rcases List.mem_append.1 hmem with hold | hnew
    · exact hcourse.resolved args outcome hold
    · exact hresolve.exists_run hnew
  · intro pending outcome hmem
    rcases List.mem_append.1 hmem with hold | hnew
    · exact hcourse.loaded pending outcome hold
    · exact hload.exists_run hnew

/-- A load delivers what it was asked for, whatever a hook answers. -/
theorem loadWith_key {pending : PendingModule} {hooks : List (String × LoadHook (StateM σ))}
    {state final : σ} {loaded : LoadedModule}
    (h : (loadWith pending hooks).run state = (.ok loaded, final)) :
    loaded.module.key = pending.key := by
  induction hooks generalizing state with
  | nil =>
    -- the host reads the file and delivers it under the key it was asked for
    rw [loadWith, loadUnclaimed] at h
    split at h
    · cases h
    · split at h
      · cases h
      · obtain ⟨text, between, -, h⟩ := exists_of_run_bind h
        cases text with
        | ok text =>
          cases h
          rfl
        | error failure => cases h
  | cons item rest ih =>
    obtain ⟨plugin, hook⟩ := item
    rw [loadWith] at h
    split at h
    · obtain ⟨answer, between, -, h⟩ := exists_of_run_bind h
      rcases answer with error | (_ | result)
      · cases h
      · exact ih h
      · cases h
        rfl
    · exact ih h

theorem Answers.deliversKeys {course : Course} (h : build.Answers course) :
    course.DeliversKeys := by
  intro pending outcome module hmem hdelivered
  obtain ⟨loaded, rfl, -, rfl⟩ := Walk.delivered?_eq_some.1 hdelivered
  obtain ⟨state, hstate⟩ := h.loaded pending _ hmem
  exact loadWith_key (Prod.ext hstate rfl)

omit [MonadFiles (StateM σ)] in
/-- End hooks add errors and change nothing else. -/
theorem exists_of_runEnd {hooks : List (String × (BuildResult → StateM σ (Except HookError Unit)))}
    {walked result : BuildResult} {state final : σ}
    (h : (runEnd walked hooks).run state = (result, final)) :
    ∃ late, result = { walked with errors := walked.errors ++ late } := by
  induction hooks generalizing walked state with
  | nil =>
    cases h
    exact ⟨[], by simp⟩
  | cons item rest ih =>
    obtain ⟨plugin, hook⟩ := item
    obtain ⟨answer, between, -, h⟩ := exists_of_run_bind h
    cases answer with
    | ok done => exact ih h
    | error error =>
      -- this hook failed, and the hooks behind it may fail too
      obtain ⟨late, hlate⟩ := ih h
      refine ⟨(Message.ofText error.message).withPlugin plugin :: late, ?_⟩
      rw [hlate, List.append_assoc, List.singleton_append]

/-- Everything that a run from a frontier owes for its course and result. -/
structure Account (build : Build (StateM σ)) (start : List ResolveArgs) (course : Course)
    (result : BuildResult) : Prop where
  /-- The answers in the account are the plugins' own. -/
  answers : build.Answers course
  /-- No two output modules share a key. -/
  distinct : (result.modules.map OutputModule.key).Nodup
  /-- Each key is loaded at most once. -/
  loadedOnce : course.loadedKeys.Nodup
  /-- What was resolved is the start and the imports of the output modules, one by one. -/
  asked : course.resolved.map Prod.fst = start ++ result.modules.flatMap Walk.importsOf
  settles : ∀ args outcome, (args, outcome) ∈ course.resolved → course.Settles result args outcome
  /-- What was loaded shows as one output module and leaves no error, or as no output module and
  leaves errors that are reported. -/
  loads : ∀ pending outcome, (pending, outcome) ∈ course.loaded →
    (pending.errorsOf outcome = [] ∧ ∃ module, Walk.delivered? outcome = some module ∧
      result.modules.filter (·.key == pending.key) = [module]) ∨
    (pending.errorsOf outcome ≠ [] ∧ pending.errorsOf outcome ⊆ result.errors ∧
      ∀ module ∈ result.modules, module.key ≠ pending.key)
  reached : ∀ module ∈ result.modules, Course.Reached start course result.modules module

/-- A run whose start hooks succeed and whose rounds suffice gives an account of itself. -/
theorem account_of_run (build : Build (StateM σ)) (limit : Nat) (entries : List String)
    (state final : σ) (result : BuildResult)
    (hstart : ((runStart build.options (build.hooks (·.onStart))).run state).1 = [])
    (hrun : (build.run limit entries).run state = (some result, final)) :
    ∃ record dir, (build.recordRun limit entries).run state = (record, final) ∧
      record.result? = some result ∧ record.start = entryFrontier dir entries ∧
      build.Account record.start record.course result := by
  obtain ⟨dir, course, begun, walked, -, hcourse, hfrontier, hended, hrecord⟩ :=
    exists_of_run hrun hstart
  refine ⟨_, dir, hrecord, rfl, rfl, ?_⟩
  have hsound := recordRounds_isSound hcourse
  have hanswers := recordRounds_answers hcourse
  have hkeys := hanswers.deliversKeys
  obtain ⟨late, rfl⟩ := exists_of_runEnd hended
  exact
    { answers := hanswers
      distinct := hsound.nodup_modules hkeys
      loadedOnce := hsound.nodup
      asked := hsound.asked_of_frontier_eq_nil hfrontier
      settles := fun args outcome hmem => (hsound.settles hmem).append_errors late
      loads := fun pending outcome hmem => by
        rcases hsound.shows hkeys hmem with hshown | ⟨herrors, hreported, hmissing⟩
        · exact .inl hshown
        · exact .inr ⟨herrors, fun _ hmessage => List.mem_append_left _ (hreported hmessage),
            hmissing⟩
      reached := fun module hmodule => hsound.reached hkeys hmodule }

end Build

end State

section Ring

/-- State in which nothing but a file tree is kept has its file operations. -/
instance : MonadFiles (StateM FileTree) := FileTree.monadFiles id fun tree _ => tree

/-- A plugin of two scripts that import each other, the first of which imports a third that fails
to load, and something external. -/
def ring : Build (StateM FileTree) where
  options := { workingDir := some "/" }
  plugins := [{
    name := "ring"
    hooks := { onLoad := [{
      scope := { filter := fun _ => true }
      run := fun args => return match args.path with
        | "/a.js" => .ok (some
            { contents := some "import './b.js';import './c.js';import 'd';" })
        | "/b.js" => .ok (some { contents := some "import './a.js';import './b.js';" })
        | _ => .error (.other "broken") }] } }]

/-- The files of the ring: none. -/
def ringFiles : FileTree where
  root := .directory []
  workingDir := "/"

/-- The ring is walked to its end, and accounts for itself. -/
theorem account_ring : ∃ result final,
    (ring.run 3 ["/a.js"]).run ringFiles = (some result, final) ∧
      result.modules.map (·.path) = ["/a.js", "/b.js"] ∧ result.errors.length = 1 ∧
      ∃ record dir, (ring.recordRun 3 ["/a.js"]).run ringFiles = (record, final) ∧
        record.result? = some result ∧ record.start = Build.entryFrontier dir ["/a.js"] ∧
        ring.Account record.start record.course result := by
  have hshape : ((ring.run 3 ["/a.js"]).run ringFiles).1.map
      (fun result => (result.modules.map (·.path), result.errors.length)) =
        some (["/a.js", "/b.js"], 1) := by
    decide +kernel
  obtain ⟨result, hrun, hshape⟩ := exists_of_map_run hshape
  obtain ⟨hpaths, hcount⟩ := Prod.mk.inj hshape
  exact ⟨_, _, hrun, hpaths, hcount,
    Build.account_of_run ring 3 ["/a.js"] ringFiles _ _ rfl hrun⟩

end Ring

end SfcBundler
