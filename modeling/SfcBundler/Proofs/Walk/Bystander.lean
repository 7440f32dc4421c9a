import SfcBundler.Proofs.Walk.Account
import SfcBundler.Proofs.Walk.Likeness

/-!
# Bystanders

A plugin that never answers cannot be told from one that is not there. Whatever it remembers for
itself, and wherever it stands among the other plugins, every build gives what it gives without it.

## Main definitions

* `Privately`: a computation that does what another one does, apart from a memory of its own
* `Plugin.apart`: a plugin beside the memory of another
* `Plugin.IsSilent`: a plugin that leaves the build options alone, and whose hooks all succeed and
  pass

## Main results

* `Build.runAll_bystander`: a silent plugin is unobservable
-/

namespace SfcBundler

section Memory

variable {τ : Type} {m : Type → Type} {α β : Type}

/-- The files are there beside a memory. -/
instance [Monad m] [MonadFiles m] : MonadFiles (StateT τ m) where
  readBytes path := StateT.lift (MonadFiles.readBytes path)
  canonical path := StateT.lift (MonadFiles.canonical path)
  kind? path := StateT.lift (MonadFiles.kind? path)
  entries path := StateT.lift (MonadFiles.entries path)
  createDirectories path := StateT.lift (MonadFiles.createDirectories path)
  copyFile source target := StateT.lift (MonadFiles.copyFile source target)
  workingDir := StateT.lift MonadFiles.workingDir
  programDir := StateT.lift MonadFiles.programDir

variable [Monad m]

/-- A computation that, whatever its memory holds, does what another one does. -/
def Privately (run : StateT τ m α) (plain : m α) : Prop :=
  ∀ memory, run.run' memory = plain

namespace Privately

variable [LawfulMonad m]

theorem pure (value : α) : Privately (τ := τ) (m := m) (Pure.pure value) (Pure.pure value) := by
  intro memory
  simp [StateT.run'_eq]

theorem lift (run : m α) : Privately (τ := τ) (StateT.lift run) run := by
  intro memory
  simp [StateT.run'_eq]

theorem bind {first : StateT τ m α} {other : m α} {next : α → StateT τ m β} {next' : α → m β}
    (hfirst : Privately first other) (hnext : ∀ value, Privately (next value) (next' value)) :
    Privately (first >>= next) (other >>= next') := by
  intro memory
  have hrest (value : α) (memory : τ) : Prod.fst <$> (next value).run memory = next' value :=
    hnext value memory
  calc (first >>= next).run' memory
      = first.run memory >>= fun reached => Prod.fst <$> (next reached.1).run reached.2 := by
        simp [StateT.run'_eq, map_bind]
    _ = first.run memory >>= fun reached => next' reached.1 := by simp only [hrest]
    _ = first.run' memory >>= next' := by simp [StateT.run'_eq]
    _ = other >>= next' := by rw [hfirst]

end Privately

end Memory

section Hosts

variable {τ : Type} {m : Type → Type} [Monad m] [LawfulMonad m]

/-- What is done beside a memory. -/
def Privately.likeness (τ : Type) (m : Type → Type) [Monad m] [LawfulMonad m] :
    Likeness (StateT τ m) m where
  Alike := Privately
  pure := .pure
  bind := .bind

theorem Privately.sameFiles [MonadFiles m] : (likeness τ m).SameFiles where
  readBytes _ := .lift _
  workingDir := .lift _

/-- Hooks beside the memory of another plugin. -/
def Hooks.apart (τ : Type) (hooks : Hooks m) : Hooks (StateT τ m) where
  onStart := hooks.onStart.map fun hook options => StateT.lift (hook options)
  onResolve := hooks.onResolve.map fun hook =>
    { scope := hook.scope, run := fun args => StateT.lift (hook.run args) }
  onLoad := hooks.onLoad.map fun hook =>
    { scope := hook.scope, run := fun args => StateT.lift (hook.run args) }
  onEnd := hooks.onEnd.map fun hook result => StateT.lift (hook result)
  onDispose := hooks.onDispose.map StateT.lift

/-- A plugin beside the memory of another. -/
def Plugin.apart (τ : Type) (plugin : Plugin m) : Plugin (StateT τ m) where
  name := plugin.name
  setup options := StateT.lift ((fun set => (set.1, set.2.apart τ)) <$> plugin.setup options)

/-- Hooks that, whatever their memory holds, succeed and pass: the start and end hooks without an
error, the others without an answer. -/
def Hooks.IsSilent (hooks : Hooks (StateT τ m)) : Prop := (Privately.likeness τ m).Silent hooks

/-- A plugin whose setup leaves the build options alone and gives silent hooks. Which hooks they
are, and what the memory holds then, is its own affair. -/
structure Plugin.IsSilent (plugin : Plugin (StateT τ m)) : Prop where
  exists_prepared : ∀ options, ∃ prepared : StateT τ m {hooks : Hooks (StateT τ m) // hooks.IsSilent},
    plugin.setup options = (fun hooks => (options, hooks.1)) <$> prepared ∧
      Privately ((fun _ => ()) <$> prepared) (Pure.pure ())

theorem Plugin.setup_apart (plugin : Plugin m) (options : BuildOptions) :
    (plugin.apart τ).setup options =
      (fun set => (set.1, set.2.apart τ)) <$> StateT.lift (plugin.setup options) := by
  ext memory
  simp [Plugin.apart]

theorem Hooks.sameHooks_apart (hooks : Hooks m) :
    (Privately.likeness τ m).SameHooks (hooks.apart τ) hooks where
  onStart := List.forall₂_map_left_iff.2 (List.forall₂_same.2 fun _ _ _ => .lift _)
  onResolve := List.forall₂_map_left_iff.2 (List.forall₂_same.2 fun _ _ => ⟨rfl, fun _ => .lift _⟩)
  onLoad := List.forall₂_map_left_iff.2 (List.forall₂_same.2 fun _ _ => ⟨rfl, fun _ => .lift _⟩)
  onEnd := List.forall₂_map_left_iff.2 (List.forall₂_same.2 fun _ _ _ => .lift _)

namespace Build

/-- The builds of a host, one after the other, each of its own entry points. -/
def runAll {m : Type → Type} [Monad m] [MonadFiles m] (options : BuildOptions)
    (plugins : List (Plugin m)) (limit : Nat) (runs : List (List String)) :
    m (List (Option BuildResult)) := do
  let build ← ofPlugins options plugins
  runs.mapM (build.run limit)

variable {α : Type} {build : Build (StateT τ m)} {other : Build m}
  {next : Build (StateT τ m) → StateT τ m α} {next' : Build m → m α}

omit [LawfulMonad m] in
theorem addPlugin_eq (other : Build m) (plugin : Plugin m) :
    other.addPlugin plugin = plugin.setup other.options >>= fun set =>
      pure ⟨set.1, other.plugins ++ [⟨plugin.name, set.2⟩]⟩ :=
  rfl

/-- Plugins set up on both sides. -/
theorem privately_foldlM (plugins : List (Plugin m))
    (h : (Privately.likeness τ m).SameHosts build other)
    (hnext : ∀ {build other}, (Privately.likeness τ m).SameHosts build other →
      Privately (next build) (next' other)) :
    Privately ((plugins.map (·.apart τ)).foldlM addPlugin build >>= next)
      (plugins.foldlM addPlugin other >>= next') := by
  induction plugins generalizing build other with
  | nil => simpa using hnext h
  | cons plugin rest ih =>
    simp only [List.map_cons, List.foldlM_cons, addPlugin_eq, Plugin.setup_apart, bind_map_left,
      bind_assoc, pure_bind, h.options]
    apply Privately.bind (.lift _)
    rintro ⟨options, hooks⟩
    apply ih
    exact ⟨rfl, h.plugins.append (.cons ⟨rfl, hooks.sameHooks_apart⟩ .nil)⟩

/-- A silent plugin set up on one side. -/
theorem privately_addPlugin {plugin : Plugin (StateT τ m)} (hsilent : plugin.IsSilent)
    (h : (Privately.likeness τ m).SameHosts build other) {plain : m α}
    (hnext : ∀ {build}, (Privately.likeness τ m).SameHosts build other →
      Privately (next build) plain) :
    Privately (build.addPlugin plugin >>= next) plain := by
  obtain ⟨prepared, hsetup, hquiet⟩ := hsilent.exists_prepared build.options
  rw [addPlugin_eq, hsetup, bind_map_left, bind_assoc]
  simp only [pure_bind]
  intro memory
  -- whichever hooks are prepared, what follows comes to the same
  have hrest (hooks : {hooks : Hooks (StateT τ m) // hooks.IsSilent}) (memory : τ) :
      (next ⟨build.options, build.plugins ++ [⟨plugin.name, hooks.1⟩]⟩).run' memory = plain := by
    have hpassed : (Privately.likeness τ m).Silent hooks.1 := hooks.2
    have hsame : (Privately.likeness τ m).SameHosts
        ⟨build.options, build.plugins ++ [⟨plugin.name, hooks.1⟩]⟩ other :=
      ⟨h.options, by simpa using h.plugins.append (.pass hpassed .nil)⟩
    exact hnext hsame memory
  have hpass : (fun _ => ()) <$> prepared.run memory = pure () := by
    simpa [StateT.run'_eq] using hquiet memory
  calc (prepared >>= fun hooks =>
          next ⟨build.options, build.plugins ++ [⟨plugin.name, hooks.1⟩]⟩).run' memory
      = prepared.run memory >>= fun reached =>
          (next ⟨build.options, build.plugins ++ [⟨plugin.name, reached.1.1⟩]⟩).run' reached.2 := by
        simp [StateT.run'_eq, map_bind]
    _ = prepared.run memory >>= fun _ => plain := by simp only [hrest]
    _ = ((fun _ => ()) <$> prepared.run memory) >>= fun _ => plain := by rw [bind_map_left]
    _ = plain := by rw [hpass, pure_bind]

/-- A silent plugin is unobservable: wherever it stands among the others, all builds of a host give
what they give without it. -/
theorem runAll_bystander [MonadFiles m] {silent : Plugin (StateT τ m)} (hsilent : silent.IsSilent)
    (options : BuildOptions) (front back : List (Plugin m)) (limit : Nat)
    (runs : List (List String)) (memory : τ) :
    (runAll options (front.map (·.apart τ) ++ silent :: back.map (·.apart τ)) limit runs).run'
      memory = runAll options (front ++ back) limit runs := by
  revert memory
  change Privately _ _
  simp only [runAll, ofPlugins, List.foldlM_append, List.foldlM_cons, bind_assoc]
  apply privately_foldlM front ⟨rfl, .nil⟩
  intro build other hfront
  apply privately_addPlugin hsilent hfront
  intro build hsame
  apply privately_foldlM back hsame
  intro build other hsame
  exact Likeness.mapM (fun entries => hsame.run Privately.sameFiles limit entries) runs

end Build

end Hosts

section Counter

/-- A plugin that answers for every module, with a warning. -/
def echo : Plugin (StateM FileTree) where
  name := "echo"
  setup options := return (options, {
    onResolve := [{
      scope := { filter := fun _ => true }
      run := fun args => return .ok (some { path := args.path, space := "echo" }) }]
    onLoad := [{
      scope := { filter := fun _ => true, space := some "echo" }
      run := fun args => return .ok (some
        { contents := some "", warnings := [.ofText args.path] }) }] })

/-- Count, and give an answer. -/
def counted {α : Type} (answer : α) : StateT Nat (StateM FileTree) α := do
  modify (· + 1)
  return answer

/-- The hooks of a plugin that counts what it is asked, and passes. -/
def counterHooks : Hooks (StateT Nat (StateM FileTree)) where
  onStart := [fun _ => counted (.ok ())]
  onResolve := [{ scope := { filter := fun _ => true }, run := fun _ => counted (.ok none) }]
  onLoad := [{ scope := { filter := fun _ => true }, run := fun _ => counted (.ok none) }]
  onEnd := [fun _ => counted (.ok ())]

def counter : Plugin (StateT Nat (StateM FileTree)) where
  name := "counter"
  setup options := counted (options, counterHooks)

theorem privately_counted {α : Type} (answer : α) : Privately (counted answer) (pure answer) := by
  intro count
  rfl

theorem isSilent_counterHooks : counterHooks.IsSilent where
  onStart := by simp [counterHooks, Privately.likeness, privately_counted]
  onResolve := by simp [counterHooks, Privately.likeness, privately_counted]
  onLoad := by simp [counterHooks, Privately.likeness, privately_counted]
  onEnd := by simp [counterHooks, Privately.likeness, privately_counted]

theorem isSilent_counter : counter.IsSilent where
  exists_prepared _ := ⟨counted ⟨counterHooks, isSilent_counterHooks⟩, rfl, fun _ => rfl⟩

/-- The counter is asked first, nine times in two builds, and nothing of it shows. -/
theorem runAll_bystander_counter :
    counter.IsSilent ∧
    (∀ count, (Build.runAll {} [counter, echo.apart Nat] 1 [["a"], ["b"]]).run' count =
      Build.runAll {} [echo] 1 [["a"], ["b"]]) ∧
    ((Build.runAll {} [echo] 1 [["a"], ["b"]]).run ringFiles).1.map (fun result? =>
      result?.map fun result => (result.modules.map (·.path), result.warnings.map (·.plugin))) =
        [some (["a"], [some "echo"]), some (["b"], [some "echo"])] ∧
    (((Build.runAll {} [counter, echo.apart Nat] 1 [["a"], ["b"]]).run 0).run ringFiles).1.2 = 9 :=
  ⟨isSilent_counter, Build.runAll_bystander isSilent_counter {} [] [echo] 1 _, by decide +kernel,
    by decide +kernel⟩

end Counter

end SfcBundler
