import Mathlib.Data.List.Induction
import SfcBundler.Proofs.Plugin.Memory
import SfcBundler.Proofs.Walk.Account

/-!
# Fresh aliases

A host lives on while its files are edited, and builds again and again. The aliases that the
component plugin keeps from one build to the next are never used as they are: a build reads them
again when it starts, and either stops there or resolves everything with what it read.

## Main definitions

* `Workplace`, `Workplace.host`: a component plugin among other plugins, and their host
* `Hosting`, `Hosting.build`: what the setup of a workplace leaves
* `Hosting.read`: the aliases as the start hook of the plugin reads them
* `Hosting.pinned`: the host with a fixed set of aliases
* `Event`, `Hosting.after`: edits and builds, and what a history of them leaves
* `Hosting.HasRead`: aliases that a start hook read in a history
* `Hosting.IsFresh`: a build that stops at its start or uses the aliases that it read

## Main results

* `Workplace.exists_hosting`: the setup of a workplace
* `Hosting.start_run`: the start hook of the plugin stores what it reads, or nothing
* `Workplace.fresh_aliases`: every build of every history is fresh
-/

namespace SfcBundler

variable {τ : Type}

/-- A component plugin among other plugins, which with the files, the processors and the executor
are part of a world. -/
structure Workplace (τ : Type) where
  options : BuildOptions
  front : List (Plugin (StateM τ)) := []
  plugin : ComponentPlugin (StateM τ)
  back : List (Plugin (StateM τ)) := []

/-- The host of a workplace. -/
def Workplace.host [MonadFiles (StateM τ)] (place : Workplace τ) :
    StateM (Memory τ) (Build (StateM (Memory τ))) :=
  Build.ofPlugins place.options (place.front.map Plugin.lift ++
    place.plugin.lift.toPlugin Memory.cell :: place.back.map Plugin.lift)

/-- A workplace that was set up. The component plugin knows the build options as it left them; the
plugins behind it may have changed them since. -/
structure Hosting (τ : Type) where
  options : BuildOptions
  front : List (HostedPlugin (StateM τ))
  plugin : ComponentPlugin (StateM τ)
  setupOptions : BuildOptions
  back : List (HostedPlugin (StateM τ))

namespace Hosting

variable [MonadFiles (StateM τ)]

/-- The host, where the component plugin remembers its aliases. -/
def build (hosting : Hosting τ) : Build (StateM (Memory τ)) where
  options := hosting.options
  plugins := hosting.front.map HostedPlugin.lift ++
    ⟨hosting.plugin.name, (PluginState.remembering hosting.plugin hosting.setupOptions).hooks⟩ ::
      hosting.back.map HostedPlugin.lift

/-- The host with a fixed set of aliases. -/
def pinned (hosting : Hosting τ) (aliases : AliasSet) : Build (StateM τ) where
  options := hosting.options
  plugins := hosting.front ++
    ⟨hosting.plugin.name, (PluginState.pinned hosting.plugin hosting.setupOptions aliases).hooks⟩ ::
      hosting.back

/-- The start hooks of other plugins. -/
def startOf (hosting : Hosting τ) (plugins : List (HostedPlugin (StateM τ))) :
    StateM τ (List Message) :=
  Build.runStart hosting.options (Build.hooks ⟨hosting.options, plugins⟩ (·.onStart))

/-- The start processors of the component plugin. -/
def prepare (hosting : Hosting τ) : StateM τ (Except String Unit) :=
  Chain.tryForEach (fun processor => processor hosting.options) hosting.plugin.processors.onStart

/-- The aliases as the start hook of the component plugin reads them: after the start processors,
and from what the build options name then. -/
def read (hosting : Hosting τ) : StateM τ (Except PluginError AliasSet) := do
  match ProcessorStage.start.fail (← hosting.prepare) with
  | .error error => return .error error
  | .ok () => AliasSet.ofBuildOptions hosting.options

/-- What the start hook of the component plugin reads when a build starts in a world. -/
def reading (hosting : Hosting τ) (world : τ) : Except PluginError AliasSet :=
  (hosting.read.run ((hosting.startOf hosting.front).run world).2).1

end Hosting

/-- What happens in a workplace: the world is edited, or entry points are built. -/
inductive Event (τ : Type) where
  | edit (change : τ → τ)
  | build (limit : Nat) (entries : List String)

section History

variable [MonadFiles (StateM τ)]

/-- One event. -/
def Event.play (build : Build (StateM (Memory τ))) : Event τ → StateM (Memory τ) Unit
  | .edit change => modify fun memory => { memory with world := change memory.world }
  | .build limit entries => discard (build.run limit entries)

/-- What a history of events leaves. -/
def Hosting.after (hosting : Hosting τ) (history : List (Event τ)) (memory : Memory τ) :
    Memory τ :=
  ((history.forM (Event.play hosting.build)).run memory).2

/-- Aliases that a start hook read in a history. -/
def Hosting.HasRead (hosting : Hosting τ) (history : List (Event τ)) (memory : Memory τ)
    (aliases : AliasSet) : Prop :=
  ∃ before limit entries rest, history = before ++ .build limit entries :: rest ∧
    hosting.reading (hosting.after before memory).world = .ok aliases

/-- A build of a host that is fresh: it stops at its start with errors, before anything is resolved
or loaded; or all its start hooks succeed, and past them it is the build with the set of aliases
fixed that its start hook read. -/
inductive Hosting.IsFresh (hosting : Hosting τ) (limit : Nat) (entries : List String)
    (memory : Memory τ) : Prop
  | stopped {failed late : List Message} {started final : Memory τ}
    (starts : (Build.runStart hosting.build.options (hosting.build.hooks (·.onStart))).run memory =
      (failed, started))
    (fails : failed ≠ [])
    (ends : (Build.runEnd { errors := failed } (hosting.build.hooks (·.onEnd))).run started =
      ({ errors := failed ++ late }, final))
    (builds : (hosting.build.recordRun limit entries).run memory =
      ({ failed, result? := some { errors := failed ++ late } }, final))
  | walked {aliases : AliasSet} {begun read started final : τ} {record : RunRecord}
    (front : (hosting.startOf hosting.front).run memory.world = ([], begun))
    (reads : hosting.read.run begun = (.ok aliases, read))
    (back : (hosting.startOf hosting.back).run read = ([], started))
    (walks : ((hosting.pinned aliases).unstarted.recordRun limit entries).run started =
      (record, final))
    (builds : (hosting.build.recordRun limit entries).run memory = (record, ⟨aliases, final⟩))

end History

/-- Start hooks are run one list after the other, and their errors collected. -/
theorem Build.runStart_append {σ : Type} {options : BuildOptions}
    {front back : List (String × (BuildOptions → StateM σ (Except HookError Unit)))}
    {state between final : σ} {first last : List Message}
    (hfront : (runStart options front).run state = (first, between))
    (hback : (runStart options back).run between = (last, final)) :
    (runStart options (front ++ back)).run state = (first ++ last, final) := by
  induction front generalizing state first with
  | nil =>
    cases hfront
    exact hback
  | cons item rest ih =>
    obtain ⟨plugin, hook⟩ := item
    obtain ⟨answer, after, hhook, hfront⟩ := exists_of_run_bind hfront
    obtain ⟨more, hmore, hfirst⟩ := exists_of_run_map hfront
    rw [List.cons_append, runStart, run_bind_of_eq hhook, run_bind_of_eq (ih hmore), ← hfirst,
      List.append_assoc]
    rfl

/-- A run whose start hooks fail walks nothing, and ends. -/
theorem Build.recordRun_of_refused {σ : Type} [MonadFiles (StateM σ)] {build : Build (StateM σ)}
    {state started final : σ} {failed : List Message} {result : BuildResult}
    (hstart : (runStart build.options (build.hooks (·.onStart))).run state = (failed, started))
    (hfailed : failed ≠ [])
    (hend : (runEnd { errors := failed } (build.hooks (·.onEnd))).run started = (result, final))
    (limit : Nat) (entries : List String) :
    (build.recordRun limit entries).run state = ({ failed, result? := some result }, final) := by
  rw [recordRun, run_bind_of_eq hstart, if_pos (by simpa using hfailed), run_bind_of_eq hend]
  rfl

namespace Hosting

section Start

variable [MonadFiles (StateM τ)] (hosting : Hosting τ)

/-- The start hook of the plugin stores the aliases that it reads. Where the processors or the
reading fail it stores nothing. -/
theorem start_run (memory : Memory τ) :
    ((PluginState.remembering hosting.plugin hosting.setupOptions).start hosting.options).run
        memory =
      (((hosting.read.run memory.world).1.map fun _ => ()),
        ⟨(hosting.read.run memory.world).1.toOption.getD memory.aliases,
          (hosting.read.run memory.world).2⟩) := by
  obtain ⟨aliases, world⟩ := memory
  obtain ⟨⟨answer, processed⟩, hanswer⟩ : ∃ reached, hosting.prepare.run world = reached :=
    ⟨_, rfl⟩
  have hprepare : Remembers aliases
      (Chain.tryForEach (fun processor => processor hosting.options)
        (PluginState.remembering hosting.plugin hosting.setupOptions).plugin.processors.onStart)
      hosting.prepare := by
    unfold prepare
    exact .tryForEach fun _ => .lift _
  have hlifted := hprepare world
  rw [hanswer] at hlifted
  rw [PluginState.start, run_bind_of_eq hlifted, read, run_bind_of_eq hanswer]
  cases answer with
  | error text => rfl
  | ok =>
    -- the processors are done, and the aliases are read
    obtain ⟨⟨set, after⟩, hset⟩ : ∃ reached,
      (AliasSet.ofBuildOptions (m := StateM τ) hosting.options).run processed = reached := ⟨_, rfl⟩
    have hread := Remembers.ofBuildOptions aliases hosting.options processed
    rw [hset] at hread
    dsimp only [ProcessorStage.fail, Except.mapError]
    rw [PluginState.reloadAliases, run_bind_of_eq hread, hset]
    cases set <;> rfl

/-- The error of the component plugin's start hook, if it fails. -/
def refusal : Except PluginError AliasSet → List Message
  | .ok _ => []
  | .error error => [(Message.ofText error.message).withPlugin hosting.plugin.name]

omit [MonadFiles (StateM τ)] in
theorem remembers_startOf (aliases : AliasSet) (plugins : List (HostedPlugin (StateM τ))) :
    Remembers aliases (Build.runStart hosting.options
      (Build.hooks ⟨hosting.options, plugins.map HostedPlugin.lift⟩ (·.onStart)))
      (hosting.startOf plugins) := by
  have hlift : Build.hooks ⟨hosting.options, plugins.map HostedPlugin.lift⟩ (·.onStart) =
      (Build.hooks ⟨hosting.options, plugins⟩ (·.onStart)).map
        fun hook => (hook.1, fun options => Memory.lift (hook.2 options)) := by
    simp [Build.hooks, List.flatMap_map, List.map_flatMap, HostedPlugin.lift, Hooks.lift,
      Function.comp_def]
  rw [hlift]
  refine Build.remembers_runStart _ (List.forall₂_map_left_iff.2 (List.forall₂_same.2 ?_))
  exact fun hook _ => ⟨rfl, fun _ => .lift _⟩

theorem starts_run {memory : Memory τ} {first last : List Message}
    {answer : Except PluginError AliasSet} {begun read started : τ}
    (hfront : (hosting.startOf hosting.front).run memory.world = (first, begun))
    (hread : hosting.read.run begun = (answer, read))
    (hback : (hosting.startOf hosting.back).run read = (last, started)) :
    (Build.runStart hosting.build.options (hosting.build.hooks (·.onStart))).run memory =
      (first ++ hosting.refusal answer ++ last,
        ⟨answer.toOption.getD memory.aliases, started⟩) := by
  -- the start hooks of the plugins in front, of the component plugin, and of those behind it
  have hhooks : hosting.build.hooks (·.onStart) =
      Build.hooks ⟨hosting.options, hosting.front.map HostedPlugin.lift⟩ (·.onStart) ++
        (hosting.plugin.name, fun build => Except.mapError .plugin <$>
          (PluginState.remembering hosting.plugin hosting.setupOptions).start build) ::
        Build.hooks ⟨hosting.options, hosting.back.map HostedPlugin.lift⟩ (·.onStart) := by
    simp [Build.hooks, build, PluginState.hooks]
  have hfirst := hosting.remembers_startOf memory.aliases hosting.front memory.world
  have hown := hosting.start_run ⟨memory.aliases, begun⟩
  have hlast := hosting.remembers_startOf (answer.toOption.getD memory.aliases) hosting.back read
  rw [hfront] at hfirst
  rw [hread] at hown
  rw [hback] at hlast
  rw [hhooks, List.append_assoc]
  refine Build.runStart_append hfirst ?_
  rw [build, Build.runStart, run_bind_of_eq (run_map_of_eq hown _), run_bind_of_eq hlast]
  cases answer <;> rfl

/-- While the aliases are these, the host does past its start hooks what it does with these aliases
fixed. -/
theorem remembers_pinned (aliases : AliasSet) :
    hosting.build.Remembers aliases (hosting.pinned aliases) where
  options := rfl
  plugins := by
    have hothers (plugins : List (HostedPlugin (StateM τ))) :
        List.Forall₂ (fun hosted hosted' => hosted.name = hosted'.name ∧
          hosted.hooks.Remembers aliases hosted'.hooks) (plugins.map HostedPlugin.lift) plugins :=
      List.forall₂_map_left_iff.2 (List.forall₂_same.2 fun hosted _ =>
        ⟨rfl, hosted.hooks.remembers_lift⟩)
    exact List.rel_append (hothers _) (.cons ⟨rfl, PluginState.remembers_hooks⟩ (hothers _))

/-- A build stops at its start or uses the aliases that it read, and leaves the aliases that its
start hook stored. -/
theorem isFresh_and_aliases (limit : Nat) (entries : List String) (memory : Memory τ) :
    hosting.IsFresh limit entries memory ∧
      ((hosting.build.recordRun limit entries).run memory).2.aliases =
        (hosting.reading memory.world).toOption.getD memory.aliases := by
  obtain ⟨⟨first, begun⟩, hfront⟩ : ∃ reached,
    (hosting.startOf hosting.front).run memory.world = reached := ⟨_, rfl⟩
  obtain ⟨⟨answer, read⟩, hread⟩ : ∃ reached, hosting.read.run begun = reached := ⟨_, rfl⟩
  obtain ⟨⟨last, started⟩, hback⟩ : ∃ reached,
    (hosting.startOf hosting.back).run read = reached := ⟨_, rfl⟩
  have hstarts := hosting.starts_run hfront hread hback
  have hreading : hosting.reading memory.world = answer := by rw [reading, hfront, hread]
  rw [hreading]
  generalize hstored : answer.toOption.getD memory.aliases = stored at hstarts
  have hremembers := hosting.remembers_pinned stored
  by_cases hfails : first ++ hosting.refusal answer ++ last = []
  · -- nothing failed, so the aliases were read
    obtain ⟨hbefore, rfl⟩ := List.append_eq_nil_iff.1 hfails
    obtain ⟨rfl, hrefusal⟩ := List.append_eq_nil_iff.1 hbefore
    cases answer with
    | error error => cases hrefusal
    | ok aliases =>
      obtain rfl : aliases = stored := hstored
      have hbuilds := Build.recordRun_of_started hstarts limit entries
      rw [hremembers.recordRun limit entries started] at hbuilds
      exact ⟨.walked hfront hread hback rfl hbuilds, by rw [hbuilds]⟩
  · -- something failed, and the end hooks leave the aliases alone
    generalize first ++ hosting.refusal answer ++ last = failed at hstarts hfails
    have hends := Build.remembers_runEnd { errors := failed } (hremembers.hooks (·.onEnd)) started
    obtain ⟨late, hlate⟩ := Build.exists_of_runEnd hends
    rw [hlate] at hends
    have hbuilds := Build.recordRun_of_refused hstarts hfails hends limit entries
    exact ⟨.stopped hstarts hfails hends hbuilds, by rw [hbuilds]⟩

end Start

end Hosting

/-! ### Setting up and living on -/

section Setup

/-- Setting up plugins that know the world alone leaves the aliases alone. -/
theorem exists_of_addPlugins (plugins : List (Plugin (StateM τ))) (options : BuildOptions)
    (done : List (HostedPlugin (StateM (Memory τ)))) (memory : Memory τ) :
    ∃ (changed : BuildOptions) (hosted : List (HostedPlugin (StateM τ))) (world : τ),
      ((plugins.map Plugin.lift).foldlM Build.addPlugin ⟨options, done⟩).run memory =
        (⟨changed, done ++ hosted.map HostedPlugin.lift⟩, ⟨memory.aliases, world⟩) := by
  induction plugins generalizing options done memory with
  | nil =>
    refine ⟨options, [], memory.world, ?_⟩
    rw [List.map_nil, List.map_nil, List.append_nil]
    rfl
  | cons plugin rest ih =>
    obtain ⟨⟨⟨changed, hooks⟩, world⟩, hsetup⟩ : ∃ reached,
      (plugin.setup options).run memory.world = reached := ⟨_, rfl⟩
    -- a plugin that is lifted knows nothing of the aliases and cannot change them
    have hlifted : (plugin.lift.setup options).run memory =
        ((changed, hooks.lift), ⟨memory.aliases, world⟩) := by
      have hlift : Remembers memory.aliases (plugin.lift.setup options)
          ((fun pair => (pair.1, Hooks.lift pair.2)) <$> plugin.setup options) := .lift _
      have hrun := hlift memory.world
      rwa [run_map_of_eq hsetup] at hrun
    obtain ⟨last, hosted, world', hrest⟩ := ih changed
      (done ++ [HostedPlugin.lift ⟨plugin.name, hooks⟩]) ⟨memory.aliases, world⟩
    refine ⟨last, ⟨plugin.name, hooks⟩ :: hosted, world', ?_⟩
    have hadd : (Build.addPlugin ⟨options, done⟩ plugin.lift).run memory =
        (⟨changed, done ++ [HostedPlugin.lift ⟨plugin.name, hooks⟩]⟩, ⟨memory.aliases, world⟩) := by
      rw [Build.addPlugin, run_bind_of_eq hlifted]
      rfl
    rw [List.map_cons, List.foldlM_cons, run_bind_of_eq hadd, hrest, List.append_assoc]
    rfl

variable [MonadFiles (StateM τ)]

/-- The setup of the component plugin stores the aliases that it reads, and none where it cannot. -/
theorem addPlugin_run (plugin : ComponentPlugin (StateM τ)) (options : BuildOptions)
    (done : List (HostedPlugin (StateM (Memory τ)))) (memory : Memory τ) :
    (Build.addPlugin ⟨options, done⟩ (plugin.lift.toPlugin Memory.cell)).run memory =
      (⟨options.normalize,
        done ++ [⟨plugin.name, (PluginState.remembering plugin options.normalize).hooks⟩]⟩,
        ⟨((AliasSet.ofBuildOptions (m := StateM τ) options.normalize).run
            memory.world).1.toOption.getD {},
          ((AliasSet.ofBuildOptions (m := StateM τ) options.normalize).run memory.world).2⟩) := by
  obtain ⟨aliases, world⟩ := memory
  have hread := Remembers.ofBuildOptions aliases options.normalize world
  obtain ⟨⟨answer, after⟩, hanswer⟩ : ∃ reached,
    (AliasSet.ofBuildOptions (m := StateM τ) options.normalize).run world = reached := ⟨_, rfl⟩
  rw [hanswer] at hread
  -- the aliases that were read are remembered, and none where they could not be read
  have hstate : (PluginState.ofBuild plugin.lift Memory.cell options.normalize).run
      ⟨aliases, world⟩ =
        (PluginState.remembering plugin options.normalize, ⟨answer.toOption.getD {}, after⟩) := by
    rw [PluginState.ofBuild, run_bind_of_eq hread]
    cases answer <;> rfl
  have hsetup : ((plugin.lift.toPlugin Memory.cell).setup options).run ⟨aliases, world⟩ =
      ((options.normalize, (PluginState.remembering plugin options.normalize).hooks),
        ⟨answer.toOption.getD {}, after⟩) := by
    show ((plugin.lift.setup Memory.cell options).run _) = _
    rw [ComponentPlugin.setup, run_bind_of_eq hstate]
    rfl
  rw [Build.addPlugin, run_bind_of_eq hsetup, hanswer]
  rfl

/-- What the setup of a workplace leaves: a host, and the aliases that the component plugin read at
its setup, or none where it could not. -/
theorem Workplace.exists_hosting (place : Workplace τ) (memory : Memory τ) :
    ∃ hosting : Hosting τ, hosting.plugin = place.plugin ∧ ∃ setup set : τ,
      place.host.run memory = (hosting.build,
        ⟨((AliasSet.ofBuildOptions (m := StateM τ) hosting.setupOptions).run
          setup).1.toOption.getD {}, set⟩) := by
  obtain ⟨options, front, setup, hfront⟩ :=
    exists_of_addPlugins place.front place.options [] memory
  -- the plugins in front, then the component plugin, then those behind it
  have hown := addPlugin_run place.plugin options (front.map HostedPlugin.lift)
    ⟨memory.aliases, setup⟩
  obtain ⟨options', back, set, hback⟩ := exists_of_addPlugins place.back options.normalize
    (front.map HostedPlugin.lift ++
      [⟨place.plugin.name, (PluginState.remembering place.plugin options.normalize).hooks⟩])
    ⟨((AliasSet.ofBuildOptions (m := StateM τ) options.normalize).run setup).1.toOption.getD {},
      ((AliasSet.ofBuildOptions (m := StateM τ) options.normalize).run setup).2⟩
  refine ⟨⟨options', front, place.plugin, options.normalize, back⟩, rfl, setup, set, ?_⟩
  rw [Workplace.host, Build.ofPlugins, List.foldlM_append, run_bind_of_eq hfront,
    List.foldlM_cons, List.nil_append, run_bind_of_eq hown, hback, List.append_assoc]
  rfl

end Setup

namespace Hosting

variable [MonadFiles (StateM τ)] (hosting : Hosting τ)

theorem after_append (history more : List (Event τ)) (memory : Memory τ) :
    hosting.after (history ++ more) memory = hosting.after more (hosting.after history memory) := by
  induction history generalizing memory with
  | nil => rfl
  | cons event rest ih => exact ih _

/-- A build leaves the aliases that its start hook read, or those that were there. -/
theorem aliases_run (limit : Nat) (entries : List String) (memory : Memory τ) :
    ((hosting.build.run limit entries).run memory).2.aliases =
      (hosting.reading memory.world).toOption.getD memory.aliases := by
  -- a record changes nothing about the build
  rw [Build.run_eq_recordRun]
  exact (hosting.isFresh_and_aliases limit entries memory).2

theorem HasRead.append {history : List (Event τ)} {memory : Memory τ} {aliases : AliasSet}
    (h : hosting.HasRead history memory aliases) (more : List (Event τ)) :
    hosting.HasRead (history ++ more) memory aliases := by
  obtain ⟨before, limit, entries, rest, rfl, hread⟩ := h
  exact ⟨before, limit, entries, rest ++ more, by simp, hread⟩

/-- The aliases that a history leaves were there before, or a start hook read them. -/
theorem aliases_after (history : List (Event τ)) (memory : Memory τ) :
    (hosting.after history memory).aliases = memory.aliases ∨
      hosting.HasRead history memory (hosting.after history memory).aliases := by
  induction history using List.reverseRecOn with
  | nil => exact .inl rfl
  | append_singleton history event ih =>
    have hkept := ih.imp_right fun hread => HasRead.append hosting hread [event]
    rw [after_append]
    cases event with
    | edit change => exact hkept
    | build limit entries =>
      have hlast : (hosting.after [.build limit entries] (hosting.after history memory)).aliases =
          _ := hosting.aliases_run limit entries (hosting.after history memory)
      rw [hlast]
      -- a start hook that fails leaves what was there
      cases hreading : hosting.reading (hosting.after history memory).world with
      | error error => exact hkept
      | ok aliases => exact .inr ⟨history, limit, entries, [], rfl, hreading⟩

end Hosting

/-- Every build of every history is fresh. A workplace was set up once, its world was edited and
entry points were built any number of times. What is remembered then was read at the setup or by a
start hook of the history. Whatever it is, the next build either stops at its start with errors and
resolves and loads nothing, or is the build with the set of aliases fixed that its own start hook
read. A start hook of the component plugin that fails leaves the aliases as they were. -/
theorem Workplace.fresh_aliases [MonadFiles (StateM τ)] (place : Workplace τ) (opened : Memory τ) :
    ∃ hosting : Hosting τ, hosting.plugin = place.plugin ∧
      (place.host.run opened).1 = hosting.build ∧
      ∀ (history : List (Event τ)) (limit : Nat) (entries : List String),
        let memory := hosting.after history (place.host.run opened).2
        (memory.aliases = (place.host.run opened).2.aliases ∨
          hosting.HasRead history (place.host.run opened).2 memory.aliases) ∧
        hosting.IsFresh limit entries memory ∧
        (∀ aliases, hosting.reading memory.world = .ok aliases →
          ((hosting.build.run limit entries).run memory).2.aliases = aliases) ∧
        (∀ error, hosting.reading memory.world = .error error →
          ((hosting.build.run limit entries).run memory).2.aliases = memory.aliases) := by
  obtain ⟨hosting, hplugin, setup, set, hhost⟩ := place.exists_hosting opened
  refine ⟨hosting, hplugin, by rw [hhost], fun history limit entries => ?_⟩
  intro memory
  have haliases := hosting.aliases_run limit entries memory
  refine ⟨hosting.aliases_after history _, (hosting.isFresh_and_aliases limit entries memory).1,
    fun aliases hread => ?_, fun error hread => ?_⟩
  · rw [haliases, hread]
    rfl
  · rw [haliases, hread]
    rfl

end SfcBundler
