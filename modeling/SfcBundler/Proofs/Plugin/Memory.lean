import SfcBundler.Plugin.Setup
import SfcBundler.Proofs.Walk.Likeness

/-!
# The memory of a plugin

The aliases in force are the component plugin's own. A build runs in a state that holds them beside
a world: the files, the other plugins, the processors and the executor know the world alone. While
the aliases are not set anew, the build does what it would do with a fixed set of aliases in the
world.

## Main definitions

* `Memory`, `Memory.lift`: the aliases beside a world, and what is done in the world
* `Memory.cell`, `Cell.fixed`: the aliases remembered, and a value that never changes
* `Remembers`: a computation that reads the aliases as a fixed set and does not set them
* `Build.unstarted`: a host without its start hooks

## Main results

* `Hooks.remembers_lift`: the hooks of another plugin leave the aliases alone
* `PluginState.remembers_hooks`: all but the start hook of the plugin only read the aliases
* `Build.Remembers.recordRun`: so does a whole run past its start hooks
-/

namespace SfcBundler

/-- The aliases in force beside a world. -/
structure Memory (τ : Type) where
  aliases : AliasSet
  world : τ

namespace Memory

variable {τ α : Type}

/-- What is done in the world leaves the aliases alone. -/
def lift (run : StateM τ α) : StateM (Memory τ) α := fun memory =>
  ((run.run memory.world).1, { memory with world := (run.run memory.world).2 })

/-- The aliases, remembered. -/
def cell : Cell (StateM (Memory τ)) AliasSet where
  get := return (← get).aliases
  set aliases := modify fun memory => { memory with aliases }

/-- The files are part of the world. -/
instance [MonadFiles (StateM τ)] : MonadFiles (StateM (Memory τ)) where
  readBytes path := lift (MonadFiles.readBytes path)
  canonical path := lift (MonadFiles.canonical path)
  kind? path := lift (MonadFiles.kind? path)
  entries path := lift (MonadFiles.entries path)
  createDirectories path := lift (MonadFiles.createDirectories path)
  copyFile source target := lift (MonadFiles.copyFile source target)
  workingDir := lift MonadFiles.workingDir
  programDir := lift MonadFiles.programDir

end Memory

/-- A cell whose value never changes. -/
def Cell.fixed {m : Type → Type} [Monad m] {α : Type} (value : α) : Cell m α where
  get := return value
  set _ := return ()

section Lift

variable {τ : Type}

/-- Processors that know the world alone. -/
def Processors.lift (processors : Processors (StateM τ)) : Processors (StateM (Memory τ)) where
  onStart := processors.onStart.map fun processor build => Memory.lift (processor build)
  onResolve := processors.onResolve.map fun processor args build =>
    Memory.lift (processor args build)
  onLoad := processors.onLoad.map fun processor source args build =>
    Memory.lift (processor source args build)
  onStyleLoad := processors.onStyleLoad.map fun processor args build =>
    Memory.lift (processor args build)
  onEnd := processors.onEnd.map fun processor result build => Memory.lift (processor result build)
  onDispose := processors.onDispose.map fun processor build => Memory.lift (processor build)

/-- A component plugin whose processors and executor know the world alone. -/
def ComponentPlugin.lift (plugin : ComponentPlugin (StateM τ)) :
    ComponentPlugin (StateM (Memory τ)) where
  name := plugin.name
  executor request := Memory.lift (plugin.executor request)
  templateOptions := plugin.templateOptions
  styleOptions := plugin.styleOptions
  processors := plugin.processors.lift

/-- Hooks that know the world alone. -/
def Hooks.lift (hooks : Hooks (StateM τ)) : Hooks (StateM (Memory τ)) where
  onStart := hooks.onStart.map fun hook options => Memory.lift (hook options)
  onResolve := hooks.onResolve.map fun hook =>
    { scope := hook.scope, run := fun args => Memory.lift (hook.run args) }
  onLoad := hooks.onLoad.map fun hook =>
    { scope := hook.scope, run := fun args => Memory.lift (hook.run args) }
  onEnd := hooks.onEnd.map fun hook result => Memory.lift (hook result)
  onDispose := hooks.onDispose.map Memory.lift

/-- A plugin that knows the world alone. -/
def Plugin.lift (plugin : Plugin (StateM τ)) : Plugin (StateM (Memory τ)) where
  name := plugin.name
  setup options := Memory.lift ((fun (options, hooks) => (options, hooks.lift)) <$>
    plugin.setup options)

/-- A plugin that was set up and knows the world alone. -/
def HostedPlugin.lift (hosted : HostedPlugin (StateM τ)) : HostedPlugin (StateM (Memory τ)) :=
  ⟨hosted.name, hosted.hooks.lift⟩

end Lift

/-- A computation that, while the aliases are these, does what another one does in the world, and
does not set them. -/
def Remembers {τ α : Type} (aliases : AliasSet) (run : StateM (Memory τ) α)
    (other : StateM τ α) : Prop :=
  ∀ world, run.run ⟨aliases, world⟩ = ((other.run world).1, ⟨aliases, (other.run world).2⟩)

namespace Remembers

variable {τ α β ε ι κ : Type} {aliases : AliasSet}

theorem pure (value : α) :
    Remembers (τ := τ) aliases (Pure.pure value) (Pure.pure value) :=
  fun _ => rfl

theorem lift (run : StateM τ α) : Remembers aliases (Memory.lift run) run :=
  fun _ => rfl

theorem get : Remembers (τ := τ) aliases Memory.cell.get (Cell.fixed aliases).get :=
  fun _ => rfl

theorem bind {first : StateM (Memory τ) α} {other : StateM τ α}
    {next : α → StateM (Memory τ) β} {next' : α → StateM τ β}
    (hfirst : Remembers aliases first other)
    (hnext : ∀ value, Remembers aliases (next value) (next' value)) :
    Remembers aliases (first >>= next) (other >>= next') := by
  intro world
  rw [run_bind_of_eq (hfirst world), hnext]
  rfl

/-- What is done while the aliases are these is like what is done in the world. -/
def likeness (τ : Type) (aliases : AliasSet) : Likeness (StateM (Memory τ)) (StateM τ) where
  Alike := Remembers aliases
  pure := pure
  bind := bind

theorem map {run : StateM (Memory τ) α} {other : StateM τ α} (h : Remembers aliases run other)
    (change : α → β) : Remembers aliases (change <$> run) (change <$> other) :=
  Likeness.map (L := likeness τ aliases) h change

/-! ### Chains of processors, stage by stage -/

variable {change : ι → κ} {stages : List ι}

theorem fold {run : κ → α → StateM (Memory τ) (Except ε α)}
    {other : ι → α → StateM τ (Except ε α)}
    (h : ∀ stage value, Remembers aliases (run (change stage) value) (other stage value))
    (value : α) :
    Remembers aliases (Chain.fold run value (stages.map change))
      (Chain.fold other value stages) := by
  induction stages generalizing value with
  | nil => exact pure _
  | cons stage rest ih =>
    refine (h stage value).bind fun answer => ?_
    cases answer with
    | ok next => exact ih next
    | error error => exact pure _

theorem firstSome {run : κ → StateM (Memory τ) (Except ε (Option α))}
    {other : ι → StateM τ (Except ε (Option α))}
    (h : ∀ stage, Remembers aliases (run (change stage)) (other stage)) :
    Remembers aliases (Chain.firstSome run (stages.map change))
      (Chain.firstSome other stages) := by
  induction stages with
  | nil => exact pure _
  | cons stage rest ih =>
    refine (h stage).bind fun answer => ?_
    match answer with
    | .ok none => exact ih
    | .ok (some value) => exact pure _
    | .error error => exact pure _

theorem tryForEach {run : κ → StateM (Memory τ) (Except ε Unit)}
    {other : ι → StateM τ (Except ε Unit)}
    (h : ∀ stage, Remembers aliases (run (change stage)) (other stage)) :
    Remembers aliases (Chain.tryForEach run (stages.map change))
      (Chain.tryForEach other stages) := by
  induction stages with
  | nil => exact pure _
  | cons stage rest ih =>
    refine (h stage).bind fun answer => ?_
    cases answer with
    | ok => exact ih
    | error error => exact pure _

/-! ### Files and build options -/

variable [MonadFiles (StateM τ)]

theorem sameFiles : (likeness τ aliases).SameFiles where
  readBytes _ := lift _
  workingDir := lift _

theorem ofBuildOptions (aliases : AliasSet) (options : BuildOptions) :
    Remembers (τ := τ) aliases (AliasSet.ofBuildOptions options)
      (AliasSet.ofBuildOptions options) := by
  rw [AliasSet.ofBuildOptions, AliasSet.ofBuildOptions]
  split
  · split
    · exact (pure _).bind fun _ => pure _
    · exact (lift _).bind fun _ => pure _
  · refine bind (sameFiles.readText _) fun text => ?_
    cases text with
    | error failure => exact pure _
    | ok text => exact bind (sameFiles.baseDir options) fun _ => pure _
  · exact pure _

end Remembers

/-! ### The hooks of the component plugin -/

namespace PluginState

variable {τ : Type}

/-- The state of a plugin that remembers its aliases. -/
def remembering (plugin : ComponentPlugin (StateM τ)) (options : BuildOptions) :
    PluginState (StateM (Memory τ)) where
  plugin := plugin.lift
  build := options
  mode := .ofDefine options.define
  aliases := Memory.cell

/-- The state of a plugin whose aliases never change. -/
def pinned (plugin : ComponentPlugin (StateM τ)) (options : BuildOptions) (aliases : AliasSet) :
    PluginState (StateM τ) where
  plugin
  build := options
  mode := .ofDefine options.define
  aliases := .fixed aliases

end PluginState

section Hooks

variable {τ : Type} {aliases : AliasSet} {plugin : ComponentPlugin (StateM τ)}
  {options : BuildOptions}

theorem PluginState.remembers_resolvePath (specifier dir : String) :
    Remembers aliases ((remembering plugin options).resolvePath specifier dir)
      ((pinned plugin options aliases).resolvePath specifier dir) :=
  Remembers.get.bind fun _ => .pure _

theorem ComponentFile.remembers_resolve (args : ResolveArgs) :
    Remembers aliases (ComponentFile.resolve (.remembering plugin options) args)
      (ComponentFile.resolve (.pinned plugin options aliases) args) := by
  refine (PluginState.remembers_resolvePath _ _).bind fun path => ?_
  refine Remembers.bind (.firstSome fun _ => .lift _) fun answer => ?_
  match answer with
  | .ok none => exact .pure _
  | .ok (some result) => exact .pure _
  | .error text => exact .pure _

theorem StyleSheet.remembers_resolve (args : ResolveArgs) :
    Remembers aliases (StyleSheet.resolve (.remembering plugin options) args)
      (StyleSheet.resolve (.pinned plugin options aliases) args) :=
  (PluginState.remembers_resolvePath _ _).bind fun _ => .pure _

variable [MonadFiles (StateM τ)]

theorem ComponentFile.remembers_load (args : LoadArgs) :
    Remembers aliases (ComponentFile.load (.remembering plugin options) args)
      (ComponentFile.load (.pinned plugin options aliases) args) := by
  refine Remembers.bind (Remembers.sameFiles.readBytes _) fun bytes => ?_
  cases bytes with
  | error cause => exact .pure _
  | ok bytes =>
    refine Remembers.bind (.fold (fun _ _ => .lift _) _) fun source => ?_
    cases source with
    | error text => exact .pure _
    | ok source =>
      refine Remembers.bind (Remembers.map (.lift _) _) fun component => ?_
      cases component with
      | error error => exact .pure _
      | ok component => exact Remembers.bind (Remembers.sameFiles.baseDir _) fun _ => .pure _

theorem StyleSheet.remembers_readSource (args : LoadArgs) :
    Remembers aliases (StyleSheet.readSource (.remembering plugin options) args)
      (StyleSheet.readSource (.pinned plugin options aliases) args) := by
  refine Remembers.bind (.firstSome fun _ => Remembers.map (.lift _) _) fun answer => ?_
  match answer with
  | .ok none => exact Remembers.bind (Remembers.sameFiles.readText _) fun _ => .pure _
  | .ok (some source) => exact .pure _
  | .error text => exact .pure _

theorem StyleSheet.remembers_load (args : LoadArgs) :
    Remembers aliases (StyleSheet.load (.remembering plugin options) args)
      (StyleSheet.load (.pinned plugin options aliases) args) := by
  refine (StyleSheet.remembers_readSource args).bind fun source => ?_
  cases source with
  | error error => exact .pure _
  | ok source =>
    refine Remembers.bind (Remembers.map (.lift _) _) fun style => ?_
    cases style <;> exact .pure _

omit [MonadFiles (StateM τ)] in
theorem PluginState.remembers_finish (result : BuildResult) :
    Remembers aliases ((remembering plugin options).finish result)
      ((pinned plugin options aliases).finish result) :=
  Remembers.bind (.tryForEach fun _ => .lift _) fun _ => .pure _

/-- Hooks that, while the aliases are these, do what other hooks do in the world. Start hooks are
left out: there the aliases are set. -/
structure Hooks.Remembers (aliases : AliasSet) (hooks : Hooks (StateM (Memory τ)))
    (other : Hooks (StateM τ)) : Prop where
  onResolve : List.Forall₂ (fun hook hook' => hook.scope = hook'.scope ∧
    ∀ args, SfcBundler.Remembers aliases (hook.run args) (hook'.run args))
      hooks.onResolve other.onResolve
  onLoad : List.Forall₂ (fun hook hook' => hook.scope = hook'.scope ∧
    ∀ args, SfcBundler.Remembers aliases (hook.run args) (hook'.run args))
      hooks.onLoad other.onLoad
  onEnd : List.Forall₂ (fun hook hook' =>
    ∀ result, SfcBundler.Remembers aliases (hook result) (hook' result)) hooks.onEnd other.onEnd

omit [MonadFiles (StateM τ)] in
/-- The hooks of another plugin leave the aliases alone. -/
theorem Hooks.remembers_lift (hooks : Hooks (StateM τ)) :
    hooks.lift.Remembers aliases hooks where
  onResolve := List.forall₂_map_left_iff.2 (List.forall₂_same.2 fun _ _ =>
    ⟨rfl, fun _ => .lift _⟩)
  onLoad := List.forall₂_map_left_iff.2 (List.forall₂_same.2 fun _ _ => ⟨rfl, fun _ => .lift _⟩)
  onEnd := List.forall₂_map_left_iff.2 (List.forall₂_same.2 fun _ _ _ => .lift _)

/-- All but the start hook of the plugin only read the aliases. -/
theorem PluginState.remembers_hooks :
    (remembering plugin options).hooks.Remembers aliases
      (pinned plugin options aliases).hooks where
  onResolve := .cons ⟨rfl, fun args => (ComponentFile.remembers_resolve args).map _⟩ <|
    .cons ⟨rfl, fun args => (StyleSheet.remembers_resolve args).map _⟩ .nil
  onLoad := .cons ⟨rfl, fun args => (ComponentFile.remembers_load args).map _⟩ <|
    .cons ⟨rfl, fun _ => .map (.pure _) _⟩ <| .cons ⟨rfl, fun _ => .map (.pure _) _⟩ <|
    .cons ⟨rfl, fun _ => .map (.pure _) _⟩ <|
    .cons ⟨rfl, fun args => (StyleSheet.remembers_load args).map _⟩ .nil
  onEnd := .cons (fun result => (remembers_finish result).map _) .nil

end Hooks

/-! ### Whole runs -/

namespace Build

/-- The host without its start hooks. -/
def unstarted {m : Type → Type} (build : Build m) : Build m :=
  { build with plugins := build.plugins.map fun hosted =>
      { hosted with hooks := { hosted.hooks with onStart := [] } } }

section Unstarted

variable {m : Type → Type} (build : Build m)

@[simp]
theorem unstarted_options : build.unstarted.options = build.options := rfl

@[simp]
theorem hooks_onStart_unstarted : build.unstarted.hooks (·.onStart) = [] := by
  simp [hooks, unstarted]

/-- Kinds of hooks other than start hooks stay. -/
theorem hooks_unstarted {α : Type} {select : Hooks m → List α}
    (hselect : ∀ hooks : Hooks m, select { hooks with onStart := [] } = select hooks) :
    build.unstarted.hooks select = build.hooks select := by
  simp [hooks, unstarted, List.flatMap_map, hselect]

variable [Monad m] [MonadFiles m]

theorem recordRound_unstarted (course : Course) :
    build.unstarted.recordRound course = build.recordRound course := by
  have hresolve : build.unstarted.hooks (·.onResolve) = build.hooks (·.onResolve) :=
    build.hooks_unstarted fun _ => rfl
  have hload : build.unstarted.hooks (·.onLoad) = build.hooks (·.onLoad) :=
    build.hooks_unstarted fun _ => rfl
  simp only [recordRound, resolve, load, hresolve, hload]

theorem recordRounds_unstarted (limit : Nat) (course : Course) :
    build.unstarted.recordRounds limit course = build.recordRounds limit course := by
  induction limit generalizing course with
  | zero => rw [recordRounds_zero, recordRounds_zero]
  | succ limit ih =>
    by_cases hfrontier : course.frontier = []
    · rw [recordRounds_of_frontier_eq_nil _ _ hfrontier,
        recordRounds_of_frontier_eq_nil _ _ hfrontier]
    · rw [recordRounds_succ _ _ hfrontier, recordRounds_succ _ _ hfrontier, recordRound_unstarted]
      exact bind_congr ih

end Unstarted

/-- A run whose start hooks succeed goes on as one without start hooks. -/
theorem recordRun_of_started {σ : Type} [MonadFiles (StateM σ)] {build : Build (StateM σ)}
    {state started : σ}
    (hstart : (runStart build.options (build.hooks (·.onStart))).run state = ([], started))
    (limit : Nat) (entries : List String) :
    (build.recordRun limit entries).run state =
      (build.unstarted.recordRun limit entries).run started := by
  have hend : build.unstarted.hooks (·.onEnd) = build.hooks (·.onEnd) :=
    build.hooks_unstarted fun _ => rfl
  rw [recordRun, run_bind_of_eq hstart, recordRun, hooks_onStart_unstarted, hend]
  simp only [recordRounds_unstarted, unstarted_options]
  rfl

variable {τ : Type} {aliases : AliasSet}

/-! Hooks in order, each with the name of its plugin -/

theorem remembers_runStart (options : BuildOptions)
    {hooks : List (String × (BuildOptions → StateM (Memory τ) (Except HookError Unit)))}
    {hooks' : List (String × (BuildOptions → StateM τ (Except HookError Unit)))}
    (h : List.Forall₂ (fun hook hook' => hook.1 = hook'.1 ∧
      ∀ options, SfcBundler.Remembers aliases (hook.2 options) (hook'.2 options)) hooks hooks') :
    SfcBundler.Remembers aliases (runStart options hooks) (runStart options hooks') :=
  Likeness.runStart (L := SfcBundler.Remembers.likeness τ aliases) options (.of_forall₂ h)

theorem remembers_runEnd (result : BuildResult)
    {hooks : List (String × (BuildResult → StateM (Memory τ) (Except HookError Unit)))}
    {hooks' : List (String × (BuildResult → StateM τ (Except HookError Unit)))}
    (h : List.Forall₂ (fun hook hook' => hook.1 = hook'.1 ∧
      ∀ result, SfcBundler.Remembers aliases (hook.2 result) (hook'.2 result)) hooks hooks') :
    SfcBundler.Remembers aliases (runEnd result hooks) (runEnd result hooks') :=
  Likeness.runEnd (L := SfcBundler.Remembers.likeness τ aliases) result (.of_forall₂ h)

/-- A host that, while the aliases are these, does what another host does in the world. Start
hooks are left out. -/
structure Remembers (aliases : AliasSet) (build : Build (StateM (Memory τ)))
    (other : Build (StateM τ)) : Prop where
  options : build.options = other.options
  plugins : List.Forall₂ (fun hosted hosted' => hosted.name = hosted'.name ∧
    hosted.hooks.Remembers aliases hosted'.hooks) build.plugins other.plugins

namespace Remembers

variable {build : Build (StateM (Memory τ))} {other : Build (StateM τ)}

/-- What holds of one kind of hooks plugin by plugin holds of all of them. -/
theorem hooks {α β : Type} {rel : α → β → Prop} {select : Hooks (StateM (Memory τ)) → List α}
    {select' : Hooks (StateM τ) → List β} (h : build.Remembers aliases other)
    (hselect : ∀ {hooks hooks'}, hooks.Remembers aliases hooks' →
      List.Forall₂ rel (select hooks) (select' hooks')) :
    List.Forall₂ (fun hook hook' => hook.1 = hook'.1 ∧ rel hook.2 hook'.2) (build.hooks select)
      (other.hooks select') := by
  refine List.rel_flatMap h.plugins fun hosted hosted' hrel => ?_
  exact List.rel_map (R := rel) (fun hook hook' hhook => ⟨hrel.1, hhook⟩) (hselect hrel.2)

/-- Without their start hooks the hosts do the same. -/
theorem sameHosts (h : build.Remembers aliases other) :
    (SfcBundler.Remembers.likeness τ aliases).SameHosts build.unstarted other.unstarted where
  options := h.options
  plugins := by
    apply Beside.of_forall₂
    refine List.rel_map (fun hosted hosted' hrel => ?_) h.plugins
    exact ⟨hrel.1, .nil, hrel.2.onResolve, hrel.2.onLoad, hrel.2.onEnd⟩

/-- A run past its start hooks only reads the aliases. -/
theorem recordRun [MonadFiles (StateM τ)] (h : build.Remembers aliases other) (limit : Nat)
    (entries : List String) :
    SfcBundler.Remembers aliases (build.unstarted.recordRun limit entries)
      (other.unstarted.recordRun limit entries) :=
  h.sameHosts.recordRun SfcBundler.Remembers.sameFiles limit entries

end Remembers

end Build

end SfcBundler
