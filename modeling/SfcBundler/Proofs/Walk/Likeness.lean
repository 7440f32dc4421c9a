import SfcBundler.Proofs.Walk.Record
import Mathlib.Data.List.Forall2

/-!
# Runs that are alike

Two hosts may run in different monads. When a relation between the computations of the two is kept
by pure and bind, the runs of the hosts are related as soon as their hooks are. A hook that always
passes needs none beside it in the other host.

## Main definitions

* `Likeness`: a relation between the computations of two monads
* `Beside`: two lists side by side, some items of the first having none beside them
* `Likeness.SameHooks`, `Likeness.Silent`, `Likeness.SameHosts`: hooks that do the same, hooks that
  always pass, and hosts with such hooks

## Main results

* `Likeness.SameHosts.recordRun`, `Likeness.SameHosts.run`: the runs of such hosts are alike
-/

namespace SfcBundler

/-- A relation between the computations of two monads that pure and bind keep. -/
structure Likeness (m n : Type → Type) [Monad m] [Monad n] where
  Alike : {α : Type} → m α → n α → Prop
  pure : ∀ {α : Type} (value : α), Alike (Pure.pure value) (Pure.pure value)
  bind : ∀ {α β : Type} {first : m α} {other : n α} {next : α → m β} {next' : α → n β},
    Alike first other → (∀ value, Alike (next value) (next' value)) →
    Alike (first >>= next) (other >>= next')

/-- Two lists side by side. Items of the first that are passed over have none beside them. -/
inductive Beside {α β : Type} (like : α → β → Prop) (passed : α → Prop) :
    List α → List β → Prop
  | nil : Beside like passed [] []
  | cons {item : α} {other : β} {items : List α} {others : List β} : like item other →
    Beside like passed items others → Beside like passed (item :: items) (other :: others)
  | pass {item : α} {items : List α} {others : List β} : passed item →
    Beside like passed items others → Beside like passed (item :: items) others

namespace Beside

variable {α β γ δ : Type} {like : α → β → Prop} {passed : α → Prop} {items : List α}
  {others : List β}

theorem of_forall₂ (h : List.Forall₂ like items others) : Beside like passed items others := by
  induction h with
  | nil => exact .nil
  | cons hitem _ ih => exact .cons hitem ih

theorem append {more : List α} {more' : List β} (h : Beside like passed items others)
    (hmore : Beside like passed more more') :
    Beside like passed (items ++ more) (others ++ more') := by
  induction h with
  | nil => exact hmore
  | cons hitem _ ih => exact .cons hitem ih
  | pass hitem _ ih => exact .pass hitem ih

theorem pass_all (h : ∀ item ∈ items, passed item) : Beside like passed items [] := by
  induction items with
  | nil => exact .nil
  | cons item rest ih =>
    exact .pass (h item List.mem_cons_self) (ih fun other hother =>
      h other (List.mem_cons_of_mem item hother))

/-- What comes of each item put together. -/
theorem flatMap {like' : γ → δ → Prop} {passed' : γ → Prop} {make : α → List γ} {make' : β → List δ}
    (h : Beside like passed items others)
    (hlike : ∀ {item other}, like item other → Beside like' passed' (make item) (make' other))
    (hpassed : ∀ {item}, passed item → ∀ made ∈ make item, passed' made) :
    Beside like' passed' (items.flatMap make) (others.flatMap make') := by
  induction h with
  | nil => exact .nil
  | cons hitem _ ih => exact (hlike hitem).append ih
  | pass hitem _ ih => exact (pass_all (hpassed hitem)).append ih

end Beside

namespace Likeness

variable {m n : Type → Type} [Monad m] [Monad n] {L : Likeness m n} {α β : Type}

theorem map [LawfulMonad m] [LawfulMonad n] {run : m α} {other : n α} (h : L.Alike run other)
    (change : α → β) : L.Alike (change <$> run) (change <$> other) := by
  rw [← bind_pure_comp, ← bind_pure_comp]
  exact L.bind h fun value => L.pure (change value)

theorem mapM [LawfulMonad m] [LawfulMonad n] {run : α → m β} {other : α → n β}
    (h : ∀ item, L.Alike (run item) (other item)) (items : List α) :
    L.Alike (items.mapM run) (items.mapM other) := by
  induction items with
  | nil => exact L.pure []
  | cons item rest ih =>
    rw [List.mapM_cons, List.mapM_cons]
    exact L.bind (h item) fun _ => L.bind ih fun _ => L.pure _

/-- A computation that is like a value leaves the other side alone. What would follow on another
value only has to be like something. -/
theorem bind_value [LawfulMonad n] {first : m α} {value : α} (h : L.Alike first (Pure.pure value))
    {next : α → m β} {other : n β} (hvalue : L.Alike (next value) other)
    (hnext : ∀ value, ∃ other, L.Alike (next value) other) : L.Alike (first >>= next) other := by
  classical
  choose others hothers using hnext
  have hbind : L.Alike (first >>= next)
      (Pure.pure value >>= fun answer => if answer = value then other else others answer) := by
    refine L.bind h fun answer => ?_
    split
    · rename_i hanswer
      rwa [hanswer]
    · exact hothers answer
  rwa [pure_bind, if_pos rfl] at hbind

/-! ### Files -/

/-- Both sides read the same files. -/
structure SameFiles [MonadFiles m] [MonadFiles n] (L : Likeness m n) : Prop where
  readBytes : ∀ path, L.Alike (MonadFiles.readBytes path) (MonadFiles.readBytes path)
  workingDir : L.Alike MonadFiles.workingDir MonadFiles.workingDir

namespace SameFiles

variable [MonadFiles m] [MonadFiles n]

theorem readText (h : L.SameFiles) (path : String) :
    L.Alike (Files.readText path) (Files.readText path) := by
  refine L.bind (h.readBytes path) fun answer => ?_
  cases answer with
  | error failure => exact L.pure _
  | ok bytes =>
    dsimp only
    cases Utf8.decode? bytes <;> exact L.pure _

theorem baseDir (h : L.SameFiles) (options : BuildOptions) :
    L.Alike options.baseDir options.baseDir := by
  unfold BuildOptions.baseDir
  cases options.workingDir with
  | some dir => exact L.pure dir
  | none => exact h.workingDir

theorem loadUnclaimed (h : L.SameFiles) (pending : PendingModule) :
    L.Alike (Build.loadUnclaimed pending) (Build.loadUnclaimed pending) := by
  unfold Build.loadUnclaimed
  split
  · exact L.pure _
  · split
    · exact L.pure _
    · refine L.bind (h.readText _) fun text => ?_
      cases text <;> exact L.pure _

end SameFiles

/-! ### Hooks in order, each with the name of its plugin -/

/-- Hooks that do the same. -/
structure SameHooks (L : Likeness m n) (hooks : Hooks m) (other : Hooks n) : Prop where
  onStart : List.Forall₂ (fun hook hook' => ∀ options, L.Alike (hook options) (hook' options))
    hooks.onStart other.onStart
  onResolve : List.Forall₂ (fun hook hook' => hook.scope = hook'.scope ∧
    ∀ args, L.Alike (hook.run args) (hook'.run args)) hooks.onResolve other.onResolve
  onLoad : List.Forall₂ (fun hook hook' => hook.scope = hook'.scope ∧
    ∀ args, L.Alike (hook.run args) (hook'.run args)) hooks.onLoad other.onLoad
  onEnd : List.Forall₂ (fun hook hook' => ∀ result, L.Alike (hook result) (hook' result))
    hooks.onEnd other.onEnd

/-- Hooks that always succeed and pass, and do nothing that the other side knows of. -/
structure Silent (L : Likeness m n) (hooks : Hooks m) : Prop where
  onStart : ∀ hook ∈ hooks.onStart, ∀ options, L.Alike (hook options) (Pure.pure (.ok ()))
  onResolve : ∀ hook ∈ hooks.onResolve, ∀ args, L.Alike (hook.run args) (Pure.pure (.ok none))
  onLoad : ∀ hook ∈ hooks.onLoad, ∀ args, L.Alike (hook.run args) (Pure.pure (.ok none))
  onEnd : ∀ hook ∈ hooks.onEnd, ∀ result, L.Alike (hook result) (Pure.pure (.ok ()))

/-- A hook that is asked on both sides passes, answers or fails. -/
theorem bind_asked {ε α β : Type} {first : m (Except ε (Option α))}
    {other : n (Except ε (Option α))} (h : L.Alike first other)
    {next : Except ε (Option α) → m β} {next' : Except ε (Option α) → n β}
    (hpassed : L.Alike (next (.ok none)) (next' (.ok none)))
    (hanswered : ∀ result, L.Alike (next (.ok (some result))) (next' (.ok (some result))))
    (hfailed : ∀ error, L.Alike (next (.error error)) (next' (.error error))) :
    L.Alike (first >>= next) (other >>= next') := by
  refine L.bind h fun answer => ?_
  match answer with
  | .ok none => exact hpassed
  | .ok (some result) => exact hanswered result
  | .error error => exact hfailed error

variable [LawfulMonad n]

/-- A hook that is asked on the first side alone passes. -/
theorem bind_passed {ε α β : Type} {first : m (Except ε (Option α))}
    (h : L.Alike first (Pure.pure (.ok none))) {next : Except ε (Option α) → m β} {other : n β}
    (hpassed : L.Alike (next (.ok none)) other)
    (hanswered : ∀ result, ∃ other, L.Alike (next (.ok (some result))) other)
    (hfailed : ∀ error, ∃ other, L.Alike (next (.error error)) other) :
    L.Alike (first >>= next) other := by
  refine bind_value h hpassed fun answer => ?_
  match answer with
  | .ok none => exact ⟨other, hpassed⟩
  | .ok (some result) => exact hanswered result
  | .error error => exact hfailed error

theorem resolveWith (args : ResolveArgs) {hooks : List (String × ResolveHook m)}
    {others : List (String × ResolveHook n)}
    (h : Beside (fun hook hook' => hook.1 = hook'.1 ∧ hook.2.scope = hook'.2.scope ∧
      ∀ args, L.Alike (hook.2.run args) (hook'.2.run args))
      (fun hook => ∀ args, L.Alike (hook.2.run args) (Pure.pure (.ok none))) hooks others) :
    L.Alike (Build.resolveWith args hooks) (Build.resolveWith args others) := by
  induction h with
  | nil => exact L.pure _
  | @cons hook hook' rest rest' hhook _ ih =>
    obtain ⟨plugin, hook⟩ := hook
    obtain ⟨_, hook'⟩ := hook'
    obtain ⟨rfl, hscope, hrun⟩ := hhook
    dsimp only at hscope
    rw [Build.resolveWith, Build.resolveWith, hscope]
    split
    · exact bind_asked (hrun args) ih (fun _ => L.pure _) fun _ => L.pure _
    · exact ih
  | @pass hook rest rest' hhook _ ih =>
    rw [Build.resolveWith]
    split
    · exact bind_passed (hhook args) ih (fun _ => ⟨_, L.pure _⟩) fun _ => ⟨_, L.pure _⟩
    · exact ih

theorem loadWith [MonadFiles m] [MonadFiles n] (hfiles : L.SameFiles) (pending : PendingModule)
    {hooks : List (String × LoadHook m)} {others : List (String × LoadHook n)}
    (h : Beside (fun hook hook' => hook.1 = hook'.1 ∧ hook.2.scope = hook'.2.scope ∧
      ∀ args, L.Alike (hook.2.run args) (hook'.2.run args))
      (fun hook => ∀ args, L.Alike (hook.2.run args) (Pure.pure (.ok none))) hooks others) :
    L.Alike (Build.loadWith pending hooks) (Build.loadWith pending others) := by
  induction h with
  | nil => exact hfiles.loadUnclaimed pending
  | @cons hook hook' rest rest' hhook _ ih =>
    obtain ⟨plugin, hook⟩ := hook
    obtain ⟨_, hook'⟩ := hook'
    obtain ⟨rfl, hscope, hrun⟩ := hhook
    dsimp only at hscope
    rw [Build.loadWith, Build.loadWith, hscope]
    split
    · exact bind_asked (hrun _) ih (fun _ => L.pure _) fun _ => L.pure _
    · exact ih
  | @pass hook rest rest' hhook _ ih =>
    rw [Build.loadWith]
    split
    · exact bind_passed (hhook _) ih (fun _ => ⟨_, L.pure _⟩) fun _ => ⟨_, L.pure _⟩
    · exact ih

theorem runStart [LawfulMonad m] (options : BuildOptions)
    {hooks : List (String × (BuildOptions → m (Except HookError Unit)))}
    {others : List (String × (BuildOptions → n (Except HookError Unit)))}
    (h : Beside (fun hook hook' => hook.1 = hook'.1 ∧
      ∀ options, L.Alike (hook.2 options) (hook'.2 options))
      (fun hook => ∀ options, L.Alike (hook.2 options) (Pure.pure (.ok ()))) hooks others) :
    L.Alike (Build.runStart options hooks) (Build.runStart options others) := by
  induction h with
  | nil => exact L.pure _
  | @cons hook hook' rest rest' hhook _ ih =>
    obtain ⟨plugin, hook⟩ := hook
    obtain ⟨_, hook'⟩ := hook'
    obtain ⟨rfl, hrun⟩ := hhook
    exact L.bind (hrun options) fun answer => L.bind ih fun _ => L.pure _
  | @pass hook rest rest' hhook _ ih =>
    -- no error of a hook that succeeds comes in front of those of the others
    refine bind_value (hhook options) ?_ fun answer => ⟨_, L.bind ih fun _ => L.pure _⟩
    simpa using ih

theorem runEnd (result : BuildResult)
    {hooks : List (String × (BuildResult → m (Except HookError Unit)))}
    {others : List (String × (BuildResult → n (Except HookError Unit)))}
    (h : Beside (fun hook hook' => hook.1 = hook'.1 ∧
      ∀ result, L.Alike (hook.2 result) (hook'.2 result))
      (fun hook => ∀ result, L.Alike (hook.2 result) (Pure.pure (.ok ()))) hooks others) :
    L.Alike (Build.runEnd result hooks) (Build.runEnd result others) := by
  induction h generalizing result with
  | nil => exact L.pure _
  | @cons hook hook' rest rest' hhook _ ih =>
    obtain ⟨plugin, hook⟩ := hook
    obtain ⟨_, hook'⟩ := hook'
    obtain ⟨rfl, hrun⟩ := hhook
    refine L.bind (hrun result) fun answer => ?_
    cases answer with
    | ok => exact ih _
    | error error => exact ih _
  | @pass hook rest rest' hhook _ ih =>
    refine bind_value (hhook result) (ih result) fun answer => ?_
    cases answer with
    | ok => exact ⟨_, ih _⟩
    | error error => exact ⟨_, ih _⟩

/-! ### Hosts -/

/-- Hosts that differ in silent plugins of the first, and are alike otherwise. -/
structure SameHosts (L : Likeness m n) (build : Build m) (other : Build n) : Prop where
  options : build.options = other.options
  plugins : Beside (fun hosted hosted' => hosted.name = hosted'.name ∧
    L.SameHooks hosted.hooks hosted'.hooks) (fun hosted => L.Silent hosted.hooks)
    build.plugins other.plugins

namespace SameHosts

variable {build : Build m} {other : Build n}

omit [LawfulMonad n] in
/-- What holds of one kind of hooks plugin by plugin holds of all of them. -/
theorem hooks {α β : Type} {like : α → β → Prop} {passed : α → Prop} {select : Hooks m → List α}
    {select' : Hooks n → List β} (h : L.SameHosts build other)
    (hlike : ∀ {hooks hooks'}, L.SameHooks hooks hooks' →
      List.Forall₂ like (select hooks) (select' hooks'))
    (hpassed : ∀ {hooks}, L.Silent hooks → ∀ hook ∈ select hooks, passed hook) :
    Beside (fun hook hook' => hook.1 = hook'.1 ∧ like hook.2 hook'.2) (fun hook => passed hook.2)
      (build.hooks select) (other.hooks select') := by
  refine h.plugins.flatMap (fun {hosted hosted'} hsame => ?_) fun {hosted} hsilent => ?_
  · refine .of_forall₂ (List.rel_map (R := like) (fun hook hook' hhook => ?_) (hlike hsame.2))
    exact ⟨hsame.1, hhook⟩
  · intro named hnamed
    obtain ⟨hook, hhook, rfl⟩ := List.mem_map.1 hnamed
    exact hpassed hsilent hook hhook

variable [LawfulMonad m] [MonadFiles m] [MonadFiles n] (hfiles : L.SameFiles)
include hfiles

theorem recordRound (h : L.SameHosts build other) (course : Course) :
    L.Alike (build.recordRound course) (other.recordRound course) := by
  have hresolve (args : ResolveArgs) : L.Alike (build.resolve args) (other.resolve args) :=
    resolveWith args (h.hooks (·.onResolve) (·.onResolve))
  have hload (pending : PendingModule) : L.Alike (build.load pending) (other.load pending) :=
    loadWith hfiles pending (h.hooks (·.onLoad) (·.onLoad))
  refine L.bind (mapM (fun args => ?_) _) fun resolved => ?_
  · exact L.bind (hresolve args) fun _ => L.pure _
  refine L.bind (mapM (fun pending => ?_) _) fun loaded => L.pure _
  exact L.bind (hload pending) fun _ => L.pure _

theorem recordRounds (h : L.SameHosts build other) (limit : Nat) (course : Course) :
    L.Alike (build.recordRounds limit course) (other.recordRounds limit course) := by
  induction limit generalizing course with
  | zero =>
    rw [build.recordRounds_zero, other.recordRounds_zero]
    exact L.pure _
  | succ limit ih =>
    by_cases hfrontier : course.frontier = []
    · rw [build.recordRounds_of_frontier_eq_nil _ hfrontier,
        other.recordRounds_of_frontier_eq_nil _ hfrontier]
      exact L.pure _
    · rw [build.recordRounds_succ _ hfrontier, other.recordRounds_succ _ hfrontier]
      exact L.bind (h.recordRound hfiles course) fun after => ih after

/-- The runs of hosts that are alike are alike, with all that is asked and answered. -/
theorem recordRun (h : L.SameHosts build other) (limit : Nat) (entries : List String) :
    L.Alike (build.recordRun limit entries) (other.recordRun limit entries) := by
  have hend (result : BuildResult) : L.Alike (Build.runEnd result (build.hooks (·.onEnd)))
      (Build.runEnd result (other.hooks (·.onEnd))) :=
    runEnd result (h.hooks (·.onEnd) (·.onEnd))
  unfold Build.recordRun
  rw [h.options]
  refine L.bind (runStart _ (h.hooks (·.onStart) (·.onStart))) fun failed => ?_
  split
  · exact L.bind (hend _) fun _ => L.pure _
  · refine L.bind (hfiles.baseDir _) fun dir => ?_
    refine L.bind (h.recordRounds hfiles limit _) fun course => ?_
    split
    · exact L.bind (hend _) fun _ => L.pure _
    · exact L.pure _

theorem run (h : L.SameHosts build other) (limit : Nat) (entries : List String) :
    L.Alike (build.run limit entries) (other.run limit entries) := by
  rw [Build.run_eq_recordRun, Build.run_eq_recordRun]
  exact map (h.recordRun hfiles limit entries) _

end SameHosts

end Likeness

end SfcBundler
