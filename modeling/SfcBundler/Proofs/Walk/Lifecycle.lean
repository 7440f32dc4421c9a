import SfcBundler.Proofs.Walk.Account

/-!
# The life of a run

A run calls all of its start hooks, walks the module graph, and calls all of its end hooks. Where
a start hook fails there is no walk, but the end hooks are called all the same. The errors of a
run are those of its start hooks, of its walk and of its end hooks, in this order, and an error of
the walk says what it is about, and which plugin it comes from if it comes from one.

## Main definitions

* `HookError.report?`, `Build.startErrors`, `Build.endErrors`: the errors that start and end hooks
  leave
* `Build.Attributed`: where an error of a walk comes from, and what it says of that
* `Chronicle`: everything that a run calls, in order, with the answers
* `Build.Lifecycle`: what a run owes for its hooks and for its errors

## Main results

* `Build.exists_of_runStart`, `Build.exists_of_runEnd_answered`: the calls of start and end hooks
* `Build.resolveCase_of_run`, `Build.loadCase_of_run`: which hook answered, if one did
* `Build.attributed_of_mem_errors`: every error of a walk is attributed
* `Build.lifecycle_of_run`: every run that comes to its end has such a life
-/

namespace SfcBundler

variable {σ : Type}

/-- A start hook with the name of its plugin. -/
abbrev StartHook (σ : Type) := String × (BuildOptions → StateM σ (Except HookError Unit))

/-- An end hook with the name of its plugin. -/
abbrev EndHook (σ : Type) := String × (BuildResult → StateM σ (Except HookError Unit))

/-- The error that a start hook or an end hook of a plugin leaves, if it fails. It is about no
module. -/
def HookError.report? (plugin : String) : Except HookError Unit → Option Message
  | .ok () => none
  | .error error => some { text := error.message, plugin := some plugin, location := none }

/-- An error that a hook listed, as the host passes it on. -/
theorem Message.locate_credit (message : Message) (plugin file : String) :
    (message.credit plugin).locate file =
      { text := message.text
        plugin := some (message.plugin.getD plugin)
        location := some (message.location.getD ⟨file, fileSpace⟩) } := by
  obtain ⟨text, speaker, location⟩ := message
  cases speaker <;> cases location <;> rfl

namespace Build

/-! ### Start and end hooks -/

/-- The errors that start hooks leave. -/
def startErrors (starts : List (StartHook σ × Except HookError Unit)) : List Message :=
  starts.filterMap fun call => HookError.report? call.1.1 call.2

/-- The errors that end hooks leave. -/
def endErrors (ends : List ((EndHook σ × BuildResult) × Except HookError Unit)) : List Message :=
  ends.filterMap fun call => HookError.report? call.1.1.1 call.2

/-- Start hooks are called once each, in order, whatever they answer; those that fail leave an
error each. -/
theorem exists_of_runStart (options : BuildOptions) (hooks : List (StartHook σ)) (state : σ) :
    ∃ starts started, starts.map Prod.fst = hooks ∧
      Answered (fun hook => hook.2 options) state starts started ∧
      (runStart options hooks).run state = (startErrors starts, started) := by
  induction hooks generalizing state with
  | nil => exact ⟨[], state, rfl, .nil, rfl⟩
  | cons hook rest ih =>
    obtain ⟨⟨answer, between⟩, hanswer⟩ : ∃ reached,
      (hook.2 options).run state = reached := ⟨_, rfl⟩
    obtain ⟨starts, started, hhooks, hanswered, hrest⟩ := ih between
    refine ⟨(hook, answer) :: starts, started, by rw [List.map_cons, hhooks],
      .cons hanswer hanswered, ?_⟩
    obtain ⟨plugin, run⟩ := hook
    rw [runStart, run_bind_of_eq hanswer, run_bind_of_eq hrest]
    cases answer <;> rfl

/-- End hooks are called once each, in order, whatever they answer. Each sees what the walk left,
with the errors of the end hooks before it. -/
theorem exists_of_runEnd_answered (hooks : List (EndHook σ)) (walked : BuildResult) (state : σ) :
    ∃ ends final, ends.map (fun call => call.1.1) = hooks ∧
      Answered (fun call : EndHook σ × BuildResult => call.1.2 call.2) state ends final ∧
      (∀ before call after, ends = before ++ call :: after →
        call.1.2 = { walked with errors := walked.errors ++ endErrors before }) ∧
      (runEnd walked hooks).run state =
        ({ walked with errors := walked.errors ++ endErrors ends }, final) := by
  induction hooks generalizing walked state with
  | nil =>
    refine ⟨[], state, rfl, .nil, fun before call after h => ?_, ?_⟩
    · simp at h
    · simp only [endErrors, List.filterMap_nil, List.append_nil]
      rfl
  | cons hook rest ih =>
    obtain ⟨⟨answer, between⟩, hanswer⟩ : ∃ reached,
      (hook.2 walked).run state = reached := ⟨_, rfl⟩
    -- the hooks behind this one see its error, if it left one
    obtain ⟨ends, final, hhooks, hanswered, hseen, hrest⟩ := ih
      { walked with
        errors := walked.errors ++ (HookError.report? hook.1 answer).toList } between
    have hcons (calls : List ((EndHook σ × BuildResult) × Except HookError Unit)) :
        endErrors (((hook, walked), answer) :: calls) =
          (HookError.report? hook.1 answer).toList ++ endErrors calls := by
      cases hreport : HookError.report? hook.1 answer <;> simp [endErrors, hreport]
    refine ⟨((hook, walked), answer) :: ends, final, by rw [List.map_cons, hhooks],
      .cons hanswer hanswered, ?_, ?_⟩
    · intro before call after hsplit
      cases before with
      | nil =>
        obtain ⟨rfl, -⟩ := List.cons.inj hsplit
        simp [endErrors]
      | cons first before =>
        obtain ⟨rfl, hrest⟩ := List.cons.inj hsplit
        rw [hseen before call after hrest, hcons, ← List.append_assoc]
    · obtain ⟨plugin, run⟩ := hook
      rw [runEnd, run_bind_of_eq hanswer, hcons, ← List.append_assoc, ← hrest]
      cases answer with
      | ok done => simp [HookError.report?]
      | error error => rfl

/-! ### Where an error of the walk comes from -/

/-- A resolve hook of a plugin that is asked about a specifier gives an answer. -/
def ResolveGives (hooks : List (String × ResolveHook (StateM σ))) (args : ResolveArgs)
    (plugin : String) (answer : Except HookError (Option ResolveResult)) : Prop :=
  ∃ hook before, (plugin, hook) ∈ hooks ∧ hook.scope.covers args.path args.space ∧
    ((hook.run args).run before).1 = answer

/-- A load hook of a plugin that is asked about a module gives an answer. -/
def LoadGives (hooks : List (String × LoadHook (StateM σ))) (pending : PendingModule)
    (plugin : String) (answer : Except HookError (Option LoadResult)) : Prop :=
  ∃ hook before, (plugin, hook) ∈ hooks ∧ hook.scope.covers pending.path pending.space ∧
    ((hook.run ⟨pending.path, pending.space, pending.data⟩).run before).1 = answer

theorem ResolveGives.cons {hooks : List (String × ResolveHook (StateM σ))} {args : ResolveArgs}
    {plugin : String} {answer : Except HookError (Option ResolveResult)}
    (h : ResolveGives hooks args plugin answer) (first : String × ResolveHook (StateM σ)) :
    ResolveGives (first :: hooks) args plugin answer := by
  obtain ⟨hook, before, hmem, hgives⟩ := h
  exact ⟨hook, before, List.mem_cons_of_mem _ hmem, hgives⟩

theorem LoadGives.cons {hooks : List (String × LoadHook (StateM σ))} {pending : PendingModule}
    {plugin : String} {answer : Except HookError (Option LoadResult)}
    (h : LoadGives hooks pending plugin answer) (first : String × LoadHook (StateM σ)) :
    LoadGives (first :: hooks) pending plugin answer := by
  obtain ⟨hook, before, hmem, hgives⟩ := h
  exact ⟨hook, before, List.mem_cons_of_mem _ hmem, hgives⟩

/-- What became of a specifier: no hook answered and it leads to its default, or a hook answered or
failed. -/
inductive ResolveCase (hooks : List (String × ResolveHook (StateM σ))) (args : ResolveArgs) :
    Except Message ResolveResult → Prop
  | unclaimed : ResolveCase hooks args (.ok args.unclaimed)
  | answered {plugin : String} {result : ResolveResult} :
    ResolveGives hooks args plugin (.ok (some result)) → ResolveCase hooks args (.ok { result with
      errors := result.errors.map (·.credit plugin)
      warnings := result.warnings.map (·.credit plugin) })
  | failed {plugin : String} {error : HookError} :
    ResolveGives hooks args plugin (.error error) → ResolveCase hooks args
      (.error (((Message.ofText error.message).withPlugin plugin).withFile args.origin))

/-- What became of a module: all hooks that were asked passed and it is loaded by default, or a hook
answered or failed. -/
inductive LoadCase [MonadFiles (StateM σ)] (hooks : List (String × LoadHook (StateM σ)))
    (pending : PendingModule) : Except Message LoadedModule → Prop
  | unclaimed {outcome : Except Message LoadedModule} {before : σ} :
    (∀ item ∈ hooks, item.2.scope.covers pending.path pending.space →
      LoadGives hooks pending item.1 (.ok none)) →
    ((loadUnclaimed (m := StateM σ) pending).run before).1 = outcome →
    LoadCase hooks pending outcome
  | answered {plugin : String} {result : LoadResult} :
    LoadGives hooks pending plugin (.ok (some result)) →
    LoadCase hooks pending (.ok (pending.loadedWith { result with
      errors := result.errors.map (·.credit plugin)
      warnings := result.warnings.map (·.credit plugin) }))
  | failed {plugin : String} {error : HookError} :
    LoadGives hooks pending plugin (.error error) → LoadCase hooks pending
      (.error (((Message.ofText error.message).withPlugin plugin).withLocation
        pending.path pending.space))

theorem ResolveCase.cons {hooks : List (String × ResolveHook (StateM σ))} {args : ResolveArgs}
    {outcome : Except Message ResolveResult} (h : ResolveCase hooks args outcome)
    (first : String × ResolveHook (StateM σ)) : ResolveCase (first :: hooks) args outcome := by
  cases h with
  | unclaimed => exact .unclaimed
  | answered hgives => exact .answered (hgives.cons first)
  | failed hgives => exact .failed (hgives.cons first)

theorem LoadCase.cons [MonadFiles (StateM σ)] {hooks : List (String × LoadHook (StateM σ))}
    {pending : PendingModule} {outcome : Except Message LoadedModule}
    (h : LoadCase hooks pending outcome) {first : String × LoadHook (StateM σ)}
    (hpasses : first.2.scope.covers pending.path pending.space →
      LoadGives (first :: hooks) pending first.1 (.ok none)) :
    LoadCase (first :: hooks) pending outcome := by
  cases h with
  | unclaimed hpass hdefault =>
    refine .unclaimed (List.forall_mem_cons.2 ⟨hpasses, ?_⟩) hdefault
    exact fun item hitem hcovers => (hpass item hitem hcovers).cons first
  | answered hgives => exact .answered (hgives.cons first)
  | failed hgives => exact .failed (hgives.cons first)

theorem resolveCase_of_run {args : ResolveArgs} (hooks : List (String × ResolveHook (StateM σ)))
    (state : σ) : ResolveCase hooks args ((resolveWith args hooks).run state).1 := by
  induction hooks generalizing state with
  | nil => exact .unclaimed
  | cons first rest ih =>
    obtain ⟨plugin, hook⟩ := first
    rw [resolveWith]
    split
    · obtain ⟨⟨answer, between⟩, hanswer⟩ : ∃ reached,
        (hook.run args).run state = reached := ⟨_, rfl⟩
      have hgives : ResolveGives ((plugin, hook) :: rest) args plugin answer :=
        ⟨hook, state, List.mem_cons_self, ‹_›, by rw [hanswer]⟩
      rw [run_bind_of_eq hanswer]
      -- the chain goes on only behind a hook that passes
      rcases answer with error | (_ | result)
      · exact .failed hgives
      · exact (ih between).cons _
      · exact .answered hgives
    · exact (ih state).cons _

theorem loadCase_of_run [MonadFiles (StateM σ)] {pending : PendingModule}
    (hooks : List (String × LoadHook (StateM σ))) (state : σ) :
    LoadCase hooks pending ((loadWith pending hooks).run state).1 := by
  induction hooks generalizing state with
  | nil => exact .unclaimed (by simp) rfl
  | cons first rest ih =>
    obtain ⟨plugin, hook⟩ := first
    rw [loadWith]
    split
    · obtain ⟨⟨answer, between⟩, hanswer⟩ : ∃ reached,
        (hook.run ⟨pending.path, pending.space, pending.data⟩).run state = reached := ⟨_, rfl⟩
      have hgives : LoadGives ((plugin, hook) :: rest) pending plugin answer :=
        ⟨hook, state, List.mem_cons_self, ‹_›, by rw [hanswer]⟩
      rw [run_bind_of_eq hanswer]
      -- the chain goes on only behind a hook that passes
      rcases answer with error | (_ | result)
      · exact .failed hgives
      · exact (ih between).cons fun _ => hgives
      · exact .answered hgives
    · exact (ih state).cons fun hcovers => absurd hcovers ‹_›

/-- An error of a walk, by where it comes from. A message that a hook listed keeps what it says of
its plugin and of its location; what it leaves open, and what any other error says, is the plugin
of the hook, and the module that was loaded or the origin of the specifier that was resolved. -/
inductive Attributed (build : Build (StateM σ)) (course : Course) : Message → Prop
  | resolveListed {args : ResolveArgs} {plugin : String} {result : ResolveResult}
    {message : Message} : args ∈ course.resolved.map Prod.fst →
    ResolveGives (build.hooks (·.onResolve)) args plugin (.ok (some result)) →
    message ∈ result.errors →
    Attributed build course
      { text := message.text
        plugin := some (message.plugin.getD plugin)
        location := some (message.location.getD ⟨args.origin, fileSpace⟩) }
  | resolveFailed {args : ResolveArgs} {plugin : String} {error : HookError} :
    args ∈ course.resolved.map Prod.fst →
    ResolveGives (build.hooks (·.onResolve)) args plugin (.error error) →
    Attributed build course
      { text := error.message
        plugin := some plugin
        location := some ⟨args.origin, fileSpace⟩ }
  | loadListed {pending : PendingModule} {plugin : String} {result : LoadResult}
    {message : Message} : pending ∈ course.loaded.map Prod.fst →
    LoadGives (build.hooks (·.onLoad)) pending plugin (.ok (some result)) →
    message ∈ result.errors →
    Attributed build course
      { text := message.text
        plugin := some (message.plugin.getD plugin)
        location := some (message.location.getD ⟨pending.path, fileSpace⟩) }
  | loadFailed {pending : PendingModule} {plugin : String} {error : HookError} :
    pending ∈ course.loaded.map Prod.fst →
    LoadGives (build.hooks (·.onLoad)) pending plugin (.error error) →
    Attributed build course
      { text := error.message
        plugin := some plugin
        location := some ⟨pending.path, pending.space⟩ }
  | loadUnclaimed {pending : PendingModule} {text : String} :
    pending ∈ course.loaded.map Prod.fst →
    (∀ item ∈ build.hooks (·.onLoad), item.2.scope.covers pending.path pending.space →
      LoadGives (build.hooks (·.onLoad)) pending item.1 (.ok none)) →
    Attributed build course
      { text
        plugin := none
        location := some ⟨pending.path, pending.space⟩ }

section Attribution

variable {build : Build (StateM σ)} {course : Course}

theorem attributed_of_resolved {args : ResolveArgs} {outcome : Except Message ResolveResult}
    {message : Message} (hasked : args ∈ course.resolved.map Prod.fst)
    (hcase : ResolveCase (build.hooks (·.onResolve)) args outcome)
    (hmessage : message ∈ args.errorsOf outcome) : build.Attributed course message := by
  cases hcase with
  | unclaimed =>
    -- a default is a path or external, and no error
    have hnone : args.unclaimed.errors = [] := by
      rw [ResolveArgs.unclaimed]
      split <;> rfl
    simp [ResolveArgs.errorsOf, hnone] at hmessage
  | answered hgives =>
    simp only [ResolveArgs.errorsOf, List.map_map, List.mem_map, Function.comp_apply,
      Message.locate_credit] at hmessage
    obtain ⟨listed, hlisted, rfl⟩ := hmessage
    exact .resolveListed hasked hgives hlisted
  | failed hgives =>
    obtain rfl := List.mem_singleton.1 hmessage
    exact .resolveFailed hasked hgives

variable [MonadFiles (StateM σ)]

/-- A module that no hook claims is loaded without errors, or its one error is about the module and
said by no plugin. -/
theorem errorsOf_loadUnclaimed {pending : PendingModule} {state : σ} {message : Message}
    (h : message ∈ pending.errorsOf ((loadUnclaimed (m := StateM σ) pending).run state).1) :
    ∃ text, message = { text, plugin := none, location := some ⟨pending.path, pending.space⟩ } := by
  rw [loadUnclaimed] at h
  split at h
  · exact ⟨_, List.mem_singleton.1 h⟩
  · split at h
    · exact ⟨_, List.mem_singleton.1 h⟩
    · obtain ⟨⟨text, between⟩, htext⟩ : ∃ reached,
        (Files.readText pending.path : StateM σ _).run state = reached := ⟨_, rfl⟩
      rw [run_bind_of_eq htext] at h
      cases text with
      | ok text => cases h
      | error failure => exact ⟨_, List.mem_singleton.1 h⟩

theorem attributed_of_loaded {pending : PendingModule} {outcome : Except Message LoadedModule}
    {message : Message} (hasked : pending ∈ course.loaded.map Prod.fst)
    (hcase : LoadCase (build.hooks (·.onLoad)) pending outcome)
    (hmessage : message ∈ pending.errorsOf outcome) : build.Attributed course message := by
  cases hcase with
  | unclaimed hpass hdefault =>
    rw [← hdefault] at hmessage
    obtain ⟨text, rfl⟩ := errorsOf_loadUnclaimed hmessage
    exact .loadUnclaimed hasked hpass
  | answered hgives =>
    simp only [PendingModule.errorsOf, PendingModule.loadedWith, List.map_map, List.mem_map,
      Function.comp_apply, Message.locate_credit] at hmessage
    obtain ⟨listed, hlisted, rfl⟩ := hmessage
    exact .loadListed hasked hgives hlisted
  | failed hgives =>
    obtain rfl := List.mem_singleton.1 hmessage
    exact .loadFailed hasked hgives

/-- Every error of a walk is attributed. -/
theorem attributed_of_mem_errors {start : List ResolveArgs} (hsound : course.IsSound start)
    (hanswers : build.Answers course) {message : Message}
    (hmessage : message ∈ course.walk.result.errors) : build.Attributed course message := by
  rcases hsound.mem_errors.1 hmessage with
    ⟨args, outcome, hresolved, hmessage⟩ | ⟨pending, outcome, hloaded, hmessage⟩
  · obtain ⟨state, rfl⟩ := hanswers.resolved args outcome hresolved
    exact attributed_of_resolved (List.mem_map_of_mem hresolved) (resolveCase_of_run _ state)
      hmessage
  · obtain ⟨state, rfl⟩ := hanswers.loaded pending outcome hloaded
    exact attributed_of_loaded (List.mem_map_of_mem hloaded) (loadCase_of_run _ state) hmessage

end Attribution

end Build

theorem Walk.importer_of_mem_importsOf {args : ResolveArgs} {module : OutputModule}
    (h : args ∈ Walk.importsOf module) : args.importer = module.path := by
  obtain ⟨found, -, rfl⟩ := List.mem_map.1 h
  rfl

/-! ### The life of a run -/

/-- Everything that a run calls, in order, with the answers and with the states in between. An end
hook is called with the result so far. -/
structure Chronicle (σ : Type) where
  starts : List (StartHook σ × Except HookError Unit)
  started : σ
  course : Course
  walked : σ
  ends : List ((EndHook σ × BuildResult) × Except HookError Unit)

namespace Chronicle

/-- The errors that the start hooks leave, one for each that fails. -/
def startErrors (chronicle : Chronicle σ) : List Message := Build.startErrors chronicle.starts

/-- The errors of the walk. -/
def walkErrors (chronicle : Chronicle σ) : List Message := chronicle.course.walk.result.errors

/-- What the end hooks find: the modules and the warnings of the walk, and all errors before it and
of it. -/
def reached (chronicle : Chronicle σ) : BuildResult :=
  { chronicle.course.walk.result with errors := chronicle.startErrors ++ chronicle.walkErrors }

end Chronicle

namespace Build

variable [MonadFiles (StateM σ)]

/-- What a run owes for its hooks and for its errors. -/
structure Lifecycle (build : Build (StateM σ)) (limit : Nat) (entries : List String) (state : σ)
    (chronicle : Chronicle σ) (result : BuildResult) (final : σ) : Prop where
  /-- Every start hook is called once, in the order of the plugins, whatever those before it
  answer. -/
  starts : chronicle.starts.map Prod.fst = build.hooks (·.onStart)
  startAnswers : Answered (fun hook => hook.2 build.options) state chronicle.starts
    chronicle.started
  /-- When a start hook fails nothing is resolved or loaded, and nothing happens between the start
  hooks and the end hooks. -/
  stops : chronicle.startErrors ≠ [] →
    chronicle.walkErrors = [] ∧ result.modules = [] ∧ result.warnings = [] ∧
      chronicle.course.resolved = [] ∧ chronicle.course.loaded = [] ∧
      chronicle.walked = chronicle.started
  /-- Otherwise the entry points are walked to the end. -/
  walks : chronicle.startErrors = [] → ∃ dir begun,
    (BuildOptions.baseDir (m := StateM σ) build.options).run chronicle.started = (dir, begun) ∧
    (build.recordRounds limit { frontier := entryFrontier dir entries }).run begun =
      (chronicle.course, chronicle.walked) ∧
    chronicle.course.frontier = []
  /-- What is resolved is an entry point, which has no importer, or an import of a module. -/
  asked : ∀ args ∈ chronicle.course.resolved.map Prod.fst,
    (args.importer = "" ∧ args.path ∈ entries) ∨
      ∃ module ∈ result.modules, args ∈ Walk.importsOf module ∧ args.importer = module.path
  attributed : ∀ error ∈ chronicle.walkErrors, build.Attributed chronicle.course error
  /-- Every end hook is called once, in the order of the plugins, whatever failed before it. -/
  ends : chronicle.ends.map (fun call => call.1.1) = build.hooks (·.onEnd)
  endAnswers : Answered (fun call : EndHook σ × BuildResult => call.1.2 call.2) chronicle.walked
    chronicle.ends final
  /-- An end hook sees the result of the walk, with the errors of the end hooks before it. -/
  seen : ∀ before call after, chronicle.ends = before ++ call :: after →
    call.1.2 = { chronicle.reached with
      errors := chronicle.reached.errors ++ endErrors before }
  errors : result.errors =
    chronicle.startErrors ++ chronicle.walkErrors ++ endErrors chronicle.ends
  modules : result.modules = chronicle.course.walk.result.modules
  warnings : result.warnings = chronicle.course.walk.result.warnings

section Run

variable {build : Build (StateM σ)} {limit : Nat} {entries : List String}
  {starts : List (StartHook σ × Except HookError Unit)} {state started : σ}

/-- A run with a start hook that fails: its end hooks see the errors of the start hooks and nothing
else. -/
theorem lifecycle_of_start_failed (hstarts : starts.map Prod.fst = build.hooks (·.onStart))
    (hstartAnswers : Answered (fun hook => hook.2 build.options) state starts started)
    (hfailed : startErrors starts ≠ [])
    {result : BuildResult} {final : σ}
    (hended : (runEnd { errors := startErrors starts } (build.hooks (·.onEnd))).run started =
      (result, final)) :
    ∃ chronicle, build.Lifecycle limit entries state chronicle result final := by
  obtain ⟨ends, ended, hends, hendAnswers, hseen, hend⟩ :=
    exists_of_runEnd_answered (build.hooks (·.onEnd)) { errors := startErrors starts } started
  obtain ⟨rfl, rfl⟩ := Prod.mk.inj (hended.symm.trans hend)
  let chronicle : Chronicle σ := ⟨starts, started, { frontier := [] }, started, ends⟩
  have hwalkErrors : chronicle.walkErrors = [] := rfl
  have hreached : chronicle.reached = { errors := chronicle.startErrors } := by
    rw [Chronicle.reached, hwalkErrors, List.append_nil]
  refine ⟨chronicle, ?_⟩
  constructor
  case starts => exact hstarts
  case startAnswers => exact hstartAnswers
  case stops => exact fun _ => ⟨rfl, rfl, rfl, rfl, rfl, rfl⟩
  case walks => exact fun hnone => absurd hnone hfailed
  case asked =>
    intro args hargs
    cases hargs
  case attributed =>
    intro error herror
    cases herror
  case ends => exact hends
  case endAnswers => exact hendAnswers
  case seen =>
    rw [hreached]
    exact hseen
  case errors =>
    rw [hwalkErrors, List.append_nil]
    rfl
  case modules => rfl
  case warnings => rfl

/-- A run whose start hooks succeed: its end hooks see what the walk left. -/
theorem lifecycle_of_walk (hstarts : starts.map Prod.fst = build.hooks (·.onStart))
    (hstartAnswers : Answered (fun hook => hook.2 build.options) state starts started)
    (hnone : startErrors starts = [])
    {dir : String} {begun walked final : σ} {course : Course} {result : BuildResult}
    (hdir : (BuildOptions.baseDir (m := StateM σ) build.options).run started = (dir, begun))
    (hcourse : (build.recordRounds limit { frontier := entryFrontier dir entries }).run begun =
      (course, walked)) (hfrontier : course.frontier = [])
    (hended : (runEnd course.walk.result (build.hooks (·.onEnd))).run walked = (result, final)) :
    ∃ chronicle, build.Lifecycle limit entries state chronicle result final := by
  obtain ⟨ends, ended, hends, hendAnswers, hseen, hend⟩ :=
    exists_of_runEnd_answered (build.hooks (·.onEnd)) course.walk.result walked
  obtain ⟨rfl, rfl⟩ := Prod.mk.inj (hended.symm.trans hend)
  have hsound := recordRounds_isSound hcourse
  let chronicle : Chronicle σ := ⟨starts, started, course, walked, ends⟩
  have hstartErrors : chronicle.startErrors = [] := hnone
  have hreached : chronicle.reached = course.walk.result := by
    rw [Chronicle.reached, hstartErrors, List.nil_append]
    rfl
  refine ⟨chronicle, ?_⟩
  constructor
  case starts => exact hstarts
  case startAnswers => exact hstartAnswers
  case stops => exact fun hfails => absurd hstartErrors hfails
  case walks => exact fun _ => ⟨dir, begun, hdir, hcourse, hfrontier⟩
  case asked =>
    intro args hargs
    -- the frontier is empty, so what was resolved is all that there was to resolve
    rcases (hsound.mem_asked_iff hfrontier).1 hargs with hentry | ⟨module, hmodule, hargs⟩
    · obtain ⟨entry, hmem, rfl⟩ := List.mem_map.1 hentry
      exact .inl ⟨rfl, hmem⟩
    · exact .inr ⟨module, hmodule, hargs, Walk.importer_of_mem_importsOf hargs⟩
  case attributed => exact fun _ => attributed_of_mem_errors hsound (recordRounds_answers hcourse)
  case ends => exact hends
  case endAnswers => exact hendAnswers
  case seen =>
    rw [hreached]
    exact hseen
  case errors =>
    rw [hstartErrors]
    rfl
  case modules => rfl
  case warnings => rfl

end Run

/-- A run that comes to its end calls its hooks as it should, and its errors say where they come
from. -/
theorem lifecycle_of_run (build : Build (StateM σ)) (limit : Nat) (entries : List String)
    (state final : σ) (result : BuildResult)
    (hrun : (build.run limit entries).run state = (some result, final)) :
    ∃ chronicle, build.Lifecycle limit entries state chronicle result final := by
  obtain ⟨starts, started, hstarts, hstartAnswers, hstart⟩ :=
    exists_of_runStart build.options (build.hooks (·.onStart)) state
  by_cases hfailed : startErrors starts = []
  · obtain ⟨dir, course, begun, walked, hdir, hcourse, hfrontier, hended, -⟩ :=
      exists_of_run hrun (by rw [hstart]; exact hfailed)
    rw [hstart] at hdir
    exact lifecycle_of_walk hstarts hstartAnswers hfailed hdir hcourse hfrontier hended
  · rw [run_of_start_failed hstart hfailed] at hrun
    obtain ⟨ended, hended, hresult⟩ := exists_of_run_map hrun
    obtain rfl := Option.some.inj hresult
    exact lifecycle_of_start_failed hstarts hstartAnswers hfailed hended

end Build

section Rehearsal

/-- Two plugins. The first one lists two errors for an import, of which one says already whose it is
and what it is about, and fails in the end; the second one fails to load a module, and in the end
counts the errors. -/
def rehearsal : Build (StateM FileTree) where
  options := { workingDir := some "/" }
  plugins := [
    { name := "critic"
      hooks := {
        onResolve := [{
          scope := { filter := fun path => path = "cue" }
          run := fun _ => return .ok (some
            { path := ""
              errors := [.ofText "late", { text := "missed", plugin := some "prompter"
                                           location := some ⟨"/script", "stage"⟩ }] }) }]
        onEnd := [fun _ => return .error (.other "booed")] } },
    { name := "actor"
      hooks := {
        onLoad := [{
          scope := { filter := fun path => path = "/a.js" || path = "/b.js" }
          run := fun args => return match args.path with
            | "/a.js" => .ok (some { contents := some "import 'cue';import './b.js';" })
            | _ => .error (.other "forgotten") }]
        onEnd := [fun result => return match result.errors.length with
          | 5 => .ok ()
          | _ => .error (.other "miscounted")] } }]

/-- The errors of the two imports, of the module that nobody loads and of the end hook each say
whose they are and what they are about. -/
theorem lifecycle_rehearsal : ∃ result final,
    (rehearsal.run 3 ["/a.js", "/c.bin"]).run ringFiles = (some result, final) ∧
      result.modules.map (·.path) = ["/a.js"] ∧
      result.errors.map (fun error => (error.plugin, error.file?)) =
        [(none, some "/c.bin"), (some "critic", some "/a.js"), (some "prompter", some "/script"),
          (some "actor", some "/b.js"), (some "critic", none)] ∧
      ∃ chronicle, rehearsal.Lifecycle 3 ["/a.js", "/c.bin"] ringFiles chronicle result final := by
  have hshape : ((rehearsal.run 3 ["/a.js", "/c.bin"]).run ringFiles).1.map
      (fun result => (result.modules.map (·.path),
        result.errors.map fun error => (error.plugin, error.file?))) =
      some (["/a.js"], [(none, some "/c.bin"), (some "critic", some "/a.js"),
        (some "prompter", some "/script"), (some "actor", some "/b.js"),
        (some "critic", none)]) := by
    decide +kernel
  obtain ⟨result, hrun, hshape⟩ := exists_of_map_run hshape
  obtain ⟨hpaths, herrors⟩ := Prod.mk.inj hshape
  exact ⟨_, _, hrun, hpaths, herrors, Build.lifecycle_of_run rehearsal 3 _ ringFiles _ _ hrun⟩

end Rehearsal

end SfcBundler
