import SfcBundler.Build.Host

/-!
# A record of a walk

A walk keeps what it needs to go on, not what it asked its plugins on the way. A recorded walk
keeps that too, and is the same walk otherwise.

## Main definitions

* `Course`: a walk with every question asked so far and its answer
* `Build.recordRound`, `Build.recordRounds`, `Build.recordRun`: the walk recorded
* `Answered`: answers got one after the other, each in the state that the one before left

## Main results

* `Build.run_eq_recordRun`: a recorded run gives what the run gives
* `Build.recordRounds_induction`: what every round preserves holds after all of them
* `Build.run_of_start_failed`, `Build.run_of_start`: how a run goes on from its start hooks
* `Build.exists_of_run`: a run whose start hooks succeed, taken apart
-/

namespace SfcBundler

/-- A walk with every specifier resolved and every module loaded so far, in order, each with the
answer to it. -/
structure Course where
  walk : Walk := {}
  frontier : List ResolveArgs
  resolved : List (ResolveArgs × Except Message ResolveResult) := []
  loaded : List (PendingModule × Except Message LoadedModule) := []

namespace Course

/-- What is to be loaded when the frontier is resolved. -/
def pendingAfter (course : Course) (resolved : List (ResolveArgs × Except Message ResolveResult)) :
    List PendingModule :=
  (course.walk.takeAllResolved resolved).2

/-- The course after a round with these answers. -/
def advance (course : Course) (resolved : List (ResolveArgs × Except Message ResolveResult))
    (loaded : List (PendingModule × Except Message LoadedModule)) : Course :=
  let (walk, frontier) := (course.walk.takeAllResolved resolved).1.takeAllLoaded loaded
  { walk
    frontier
    resolved := course.resolved ++ resolved
    loaded := course.loaded ++ loaded }

end Course

/-- A run with the errors of its start hooks, the frontier it started from and its course. -/
structure RunRecord where
  failed : List Message := []
  start : List ResolveArgs := []
  course : Course := { frontier := [] }
  result? : Option BuildResult

namespace Build

section Recording

variable {m : Type → Type} [Monad m] [MonadFiles m]

/-- One round, recorded. -/
def recordRound (build : Build m) (course : Course) : m Course := do
  let resolved ← course.frontier.mapM fun args => do return (args, ← build.resolve args)
  let loaded ← (course.pendingAfter resolved).mapM fun module => do
    return (module, ← build.load module)
  return course.advance resolved loaded

/-- Rounds until the frontier is empty, at most `limit` of them, recorded. -/
def recordRounds (build : Build m) (limit : Nat) (course : Course) : m Course :=
  match course.frontier, limit with
  | [], _ => return course
  | _ :: _, 0 => return course
  | _ :: _, limit + 1 => do build.recordRounds limit (← build.recordRound course)

/-- A build of entry points, recorded. -/
def recordRun (build : Build m) (limit : Nat) (entries : List String) : m RunRecord := do
  let failed ← runStart build.options (build.hooks (·.onStart))
  if !failed.isEmpty then
    return { failed, result? := some (← runEnd { errors := failed } (build.hooks (·.onEnd))) }
  let start := entryFrontier (← build.options.baseDir) entries
  let course ← build.recordRounds limit { frontier := start }
  if course.frontier.isEmpty then
    return { start, course
             result? := some (← runEnd course.walk.result (build.hooks (·.onEnd))) }
  return { start, course, result? := none }

/-! A walk stops when no round is left or when nothing is to be resolved, and else goes on by one
round. -/

theorem recordRounds_zero (build : Build m) (course : Course) :
    build.recordRounds 0 course = pure course := by
  rw [recordRounds.eq_def]
  cases course.frontier <;> rfl

theorem recordRounds_of_frontier_eq_nil (build : Build m) (limit : Nat) {course : Course}
    (h : course.frontier = []) : build.recordRounds limit course = pure course := by
  rw [recordRounds.eq_def, h]

theorem recordRounds_succ (build : Build m) (limit : Nat) {course : Course}
    (h : course.frontier ≠ []) :
    build.recordRounds (limit + 1) course =
      build.recordRound course >>= build.recordRounds limit := by
  obtain ⟨args, rest, hfrontier⟩ := List.exists_cons_of_ne_nil h
  rw [recordRounds.eq_def, hfrontier]

variable [LawfulMonad m]

theorem round_eq_recordRound (build : Build m) (course : Course) :
    build.round course.walk course.frontier =
      (fun after => (after.walk, after.frontier)) <$> build.recordRound course := by
  simp [round, recordRound, Course.pendingAfter, Course.advance]

theorem rounds_eq_recordRounds (build : Build m) (limit : Nat) (course : Course) :
    build.rounds limit course.walk course.frontier =
      (fun after => if after.frontier.isEmpty then some after.walk else none) <$>
        build.recordRounds limit course := by
  induction limit generalizing course with
  | zero =>
    rw [recordRounds_zero, map_pure, rounds.eq_def]
    cases course.frontier <;> rfl
  | succ limit ih =>
    by_cases hfrontier : course.frontier = []
    · rw [recordRounds_of_frontier_eq_nil build _ hfrontier, map_pure, rounds.eq_def, hfrontier]
      rfl
    · -- a round on either side, and then as many rounds as are left
      rw [recordRounds_succ build _ hfrontier, map_bind, rounds.eq_def]
      obtain ⟨args, rest, hcons⟩ := List.exists_cons_of_ne_nil hfrontier
      simp only [hcons]
      rw [← hcons, round_eq_recordRound, bind_map_left]
      exact bind_congr fun after => ih after

/-- A record changes nothing about a run. -/
theorem run_eq_recordRun (build : Build m) (limit : Nat) (entries : List String) :
    build.run limit entries = (·.result?) <$> build.recordRun limit entries := by
  simp only [run, recordRun, map_bind]
  refine bind_congr fun failed => ?_
  split
  · simp
  -- past the start hooks both walk from the same frontier
  · simp only [map_bind]
    refine bind_congr fun dir => ?_
    have hrounds := rounds_eq_recordRounds build limit { frontier := entryFrontier dir entries }
    simp only at hrounds
    rw [hrounds, bind_map_left]
    refine bind_congr fun course => ?_
    split <;> simp_all

end Recording

end Build

section State

variable {σ : Type}

/-- Answers got from `ask` one after the other: each in the state that the one before left. -/
inductive Answered {α β : Type} (ask : α → StateM σ β) : σ → List (α × β) → σ → Prop
  | nil {state : σ} : Answered ask state [] state
  | cons {state between final : σ} {question : α} {answer : β} {rest : List (α × β)} :
    (ask question).run state = (answer, between) → Answered ask between rest final →
    Answered ask state ((question, answer) :: rest) final

namespace Answered

variable {α β : Type} {ask : α → StateM σ β} {state final : σ} {answers : List (α × β)}

/-- Every answer is one that the question gets in some state. -/
theorem exists_run (h : Answered ask state answers final) {question : α} {answer : β}
    (hmem : (question, answer) ∈ answers) :
    ∃ before, ((ask question).run before).1 = answer := by
  induction h with
  | nil => cases hmem
  | @cons before _ _ _ _ _ hrun _ ih =>
    rcases List.mem_cons.1 hmem with heq | hmem
    · cases heq
      exact ⟨before, by rw [hrun]⟩
    · exact ih hmem

/-- The last question is asked in the state that the ones before it left. -/
theorem exists_of_concat {question : α} {answer : β}
    (h : Answered ask state (answers ++ [(question, answer)]) final) :
    ∃ between, Answered ask state answers between ∧
      (ask question).run between = (answer, final) := by
  induction answers generalizing state with
  | nil =>
    cases h with
    | cons hanswer hnone =>
      cases hnone
      exact ⟨state, .nil, hanswer⟩
  | cons first rest ih =>
    cases h with
    | cons hfirst hrest =>
      obtain ⟨between, hfront, hanswer⟩ := ih hrest
      exact ⟨between, .cons hfirst hfront, hanswer⟩

/-- The same answers got otherwise: each question is asked under another name and in a state that
may show the questions before it, and its answer is changed. -/
theorem transfer {γ δ τ : Type} (other : γ → StateM τ δ) (rename : α → γ) (change : β → δ)
    (place : List α → σ → τ)
    (hother : ∀ {before question state answer between},
      (ask question).run state = (answer, between) →
      (other (rename question)).run (place before state) =
        (change answer, place (before ++ [question]) between))
    (h : Answered ask state answers final) (before : List α) :
    Answered other (place before state) (answers.map (Prod.map rename change))
      (place (before ++ answers.map Prod.fst) final) := by
  induction h generalizing before with
  | nil =>
    rw [List.map_nil, List.map_nil, List.append_nil]
    exact .nil
  | @cons _ _ _ question _ _ hanswer _ ih =>
    have hrest := ih (before ++ [question])
    rw [List.append_assoc, List.singleton_append] at hrest
    exact .cons (hother hanswer) hrest

/-- Questions asked one after the other are answered in their order. -/
theorem of_mapM (ask : α → StateM σ β) (questions : List α) (state : σ) :
    let answered := (questions.mapM fun question => do
      return (question, ← ask question)).run state
    answered.1.map Prod.fst = questions ∧ Answered ask state answered.1 answered.2 := by
  induction questions generalizing state with
  | nil => exact ⟨rfl, .nil⟩
  | cons question rest ih =>
    obtain ⟨hquestions, hrest⟩ := ih ((ask question).run state).2
    rw [List.mapM_cons]
    exact ⟨congrArg (question :: ·) hquestions, .cons rfl hrest⟩

end Answered

theorem run_bind_of_eq {α β : Type} {first : StateM σ α} {state between : σ} {item : α}
    (h : first.run state = (item, between)) (next : α → StateM σ β) :
    (first >>= next).run state = (next item).run between := by
  rw [StateT.run_bind, h]
  rfl

theorem run_map_of_eq {α β : Type} {first : StateM σ α} {state between : σ} {item : α}
    (h : first.run state = (item, between)) (change : α → β) :
    (change <$> first).run state = (change item, between) := by
  rw [StateT.run_map, h]
  rfl

/-- A run of two steps, taken apart. -/
theorem exists_of_run_bind {α β : Type} {first : StateM σ α} {next : α → StateM σ β}
    {state final : σ} {value : β} (h : (first >>= next).run state = (value, final)) :
    ∃ item between, first.run state = (item, between) ∧ (next item).run between = (value, final) :=
  ⟨_, _, rfl, h⟩

theorem exists_of_run_map {α β : Type} {first : StateM σ α} {change : α → β} {state final : σ}
    {value : β} (h : (change <$> first).run state = (value, final)) :
    ∃ item, first.run state = (item, final) ∧ change item = value := by
  have hvalue : change (first.run state).1 = value := congrArg Prod.fst h
  have hfinal : (first.run state).2 = final := congrArg Prod.snd h
  exact ⟨_, Prod.ext rfl hfinal, hvalue⟩

/-- A run that gives something of a known shape, taken apart. -/
theorem exists_of_map_run {α β : Type} {action : StateM σ (Option α)} {shape : α → β} {state : σ}
    {value : β} (h : (action.run state).1.map shape = some value) :
    ∃ item, action.run state = (some item, (action.run state).2) ∧ shape item = value := by
  obtain ⟨item, hitem, hshape⟩ := Option.map_eq_some_iff.1 h
  exact ⟨item, Prod.ext hitem rfl, hshape⟩

namespace Build

variable [MonadFiles (StateM σ)] {build : Build (StateM σ)}

/-- What a recorded round does: the frontier is resolved in order, what that leaves pending is
loaded in order, and the course advances by the answers. -/
theorem exists_of_recordRound {course after : Course} {state final : σ}
    (h : (build.recordRound course).run state = (after, final)) :
    ∃ resolved loaded between, resolved.map Prod.fst = course.frontier ∧
      loaded.map Prod.fst = course.pendingAfter resolved ∧
      Answered build.resolve state resolved between ∧
      Answered build.load between loaded final ∧ after = course.advance resolved loaded := by
  obtain rfl : _ = after := congrArg Prod.fst h
  obtain rfl : _ = final := congrArg Prod.snd h
  obtain ⟨hresolved, hresolve⟩ := Answered.of_mapM build.resolve course.frontier state
  obtain ⟨hloaded, hload⟩ := Answered.of_mapM build.load (course.pendingAfter _) _
  exact ⟨_, _, _, hresolved, hloaded, hresolve, hload, rfl⟩

/-- What every round preserves holds after all of them. -/
theorem recordRounds_induction {motive : Course → σ → Prop}
    (hround : ∀ {course after state final}, motive course state →
      (build.recordRound course).run state = (after, final) → motive after final)
    {limit : Nat} {course after : Course} {state final : σ} (hcourse : motive course state)
    (h : (build.recordRounds limit course).run state = (after, final)) : motive after final := by
  induction limit generalizing course state with
  | zero =>
    rw [recordRounds_zero] at h
    cases h
    exact hcourse
  | succ limit ih =>
    by_cases hfrontier : course.frontier = []
    · rw [recordRounds_of_frontier_eq_nil build _ hfrontier] at h
      cases h
      exact hcourse
    · rw [recordRounds_succ build _ hfrontier] at h
      obtain ⟨middle, between, hmiddle, h⟩ := exists_of_run_bind h
      exact ih (hround hcourse hmiddle) h

section Run

variable {limit : Nat} {entries : List String} {state started : σ}

/-- A run whose start hooks fail goes on with the end hooks. -/
theorem run_of_start_failed {failed : List Message}
    (hstart : (runStart build.options (build.hooks (·.onStart))).run state = (failed, started))
    (hfailed : failed ≠ []) :
    (build.run limit entries).run state =
      (some <$> runEnd { errors := failed } (build.hooks (·.onEnd))).run started := by
  rw [run, run_bind_of_eq hstart, if_pos (by simpa using hfailed)]
  rfl

variable {dir : String} {begun : σ}
  (hstart : (runStart build.options (build.hooks (·.onStart))).run state = ([], started))
  (hdir : (BuildOptions.baseDir (m := StateM σ) build.options).run started = (dir, begun))
include hstart hdir

/-- A run whose start hooks succeed goes on with the rounds from its entry points. -/
theorem run_of_start :
    (build.run limit entries).run state =
      (build.rounds limit {} (entryFrontier dir entries) >>= fun walk? => match walk? with
        | none => pure none
        | some walk => some <$> runEnd walk.result (build.hooks (·.onEnd))).run begun := by
  rw [run, run_bind_of_eq hstart, if_neg (by simp), run_bind_of_eq hdir]
  rfl

/-- A run whose start hooks succeed and whose walk comes to its end has a result. -/
theorem run_of_frontier_eq_nil {course : Course} {walked : σ}
    (hcourse : (build.recordRounds limit { frontier := entryFrontier dir entries }).run begun =
      (course, walked)) (hfrontier : course.frontier = []) :
    (build.run limit entries).run state =
      (some <$> runEnd course.walk.result (build.hooks (·.onEnd))).run walked := by
  have hrounds := build.rounds_eq_recordRounds limit { frontier := entryFrontier dir entries }
  have hwalk := run_map_of_eq hcourse
    (fun after => if after.frontier.isEmpty then some after.walk else none)
  rw [← hrounds, if_pos (List.isEmpty_iff.2 hfrontier)] at hwalk
  rw [run_of_start hstart hdir, run_bind_of_eq hwalk]

end Run

/-- A run whose start hooks succeed and whose rounds suffice, taken apart: it walks from its entry
points until the frontier is empty, and then the end hooks see what was built. -/
theorem exists_of_run {limit : Nat} {entries : List String} {state final : σ} {result : BuildResult}
    (hrun : (build.run limit entries).run state = (some result, final))
    (hstart : ((runStart build.options (build.hooks (·.onStart))).run state).1 = []) :
    ∃ dir course begun walked,
      (BuildOptions.baseDir (m := StateM σ) build.options).run
        ((runStart build.options (build.hooks (·.onStart))).run state).2 = (dir, begun) ∧
      (build.recordRounds limit { frontier := entryFrontier dir entries }).run begun =
        (course, walked) ∧
      course.frontier = [] ∧
      (runEnd course.walk.result (build.hooks (·.onEnd))).run walked = (result, final) ∧
      (build.recordRun limit entries).run state =
        ({ start := entryFrontier dir entries, course, result? := some result }, final) := by
  rw [run_eq_recordRun] at hrun
  obtain ⟨record, hrecord, hresult⟩ := exists_of_run_map hrun
  have hsteps := hrecord
  obtain ⟨failed, started, hfailed, hsteps⟩ := exists_of_run_bind hsteps
  rw [hfailed] at hstart
  obtain rfl : failed = [] := hstart
  obtain ⟨dir, begun, hdir, hsteps⟩ := exists_of_run_bind hsteps
  obtain ⟨course, walked, hcourse, hsteps⟩ := exists_of_run_bind hsteps
  refine ⟨dir, course, begun, walked, by rw [hfailed]; exact hdir, hcourse, ?_⟩
  -- rounds that do not suffice give no result
  split at hsteps
  · obtain ⟨ended, last, hended, hsteps⟩ := exists_of_run_bind hsteps
    cases hsteps
    obtain rfl := Option.some.inj hresult
    exact ⟨List.isEmpty_iff.1 ‹_›, hended, hrecord⟩
  · cases hsteps
    cases hresult

end Build

end State

end SfcBundler
