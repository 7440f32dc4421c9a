import SfcBundler.Proofs.Plugin.Carried

/-!
# Access to the parts of components

A part of a component is got in two steps. A specifier that addresses it is resolved, with what the
importing module carries, to a module that waits with the component and the part; and in the
namespace of the part's kind that module is loaded as the part. Nobody gets at a part of a component
that they do not carry.

## Main definitions

* `PluginData.Holds`: a component that a module carries, itself or with a part of it
* `ComponentFile.Leads`: where an address leads for who imports it
* `ComponentFile.IsModule`, `ComponentFile.Loads`: what a module of a kind of parts is loaded as
* `PluginState.ConfinesParts`: a plugin that resolves and loads parts in this way

## Main results

* `ComponentFile.leads_resolvePart`, `ComponentFile.loads_loadPart`: where addresses lead, and how
  parts are loaded
* `ComponentFile.Leads.confined`: what is loaded behind an address is a part of what the importer
  carries
* `PluginState.confinesParts`: the plugin without resolve processors confines parts
-/

namespace SfcBundler

/-- A component that a module carries, itself or with a part of it. -/
inductive PluginData.Holds (data : ComponentData) : PluginData → Prop
  | component : Holds data (.component data)
  | part (part : Part) : Holds data (.part data part)

/-- A module holds at most one component. -/
theorem PluginData.Holds.unique {held : PluginData} {data other : ComponentData}
    (h : held.Holds data) (hother : held.Holds other) : data = other := by
  cases h <;> cases hother <;> rfl

namespace ComponentFile

theorem carried?_eq_some {carried : Option PluginData} {data : ComponentData} :
    carried? carried = some data ↔ ∃ held, carried = some held ∧ held.Holds data := by
  constructor
  · intro h
    match carried, h with
    | some (.component _), rfl => exact ⟨_, rfl, .component⟩
    | some (.part _ part), rfl => exact ⟨_, rfl, .part part⟩
  · rintro ⟨held, rfl, hholds⟩
    cases hholds <;> rfl

/-- Where an address leads for a module that carries `importer`: to the file of a component, or to a
part of the component that is carried. There is no third way, and each failure has its own
reason. -/
structure Leads (path : String) (importer : Option PluginData)
    (answer : Except PluginError ResolveResult) : Prop where
  invalid : ∀ cause, answer = .error (.invalidPart path cause) ↔ Part.parse path = .error cause
  file : answer = .ok { path, space := fileSpace } ↔ Part.parse path = .ok none
  part : ∀ data part, answer = .ok { path, space := part.kind.space, data := some (.part data part) }
    ↔ ∃ owner held, Part.parse path = .ok (some (owner, part)) ∧ importer = some held ∧
      held.Holds data ∧ Path.toPosix data.owner = Path.toPosix owner
  missing : answer = .error (.missingComponent path) ↔
    ∃ owner part, Part.parse path = .ok (some (owner, part)) ∧
      ∀ data held, importer = some held → held.Holds data →
        Path.toPosix data.owner ≠ Path.toPosix owner

theorem resolvePart_of_holds {path owner : String} {part : Part} {held : PluginData}
    {data : ComponentData} (hparse : Part.parse path = .ok (some (owner, part)))
    (hholds : held.Holds data) (howner : Path.toPosix data.owner = Path.toPosix owner) :
    resolvePart path (some held) =
      .ok { path, space := part.kind.space, data := some (.part data part) } := by
  have hcarried : carried? (some held) = some data := carried?_eq_some.2 ⟨held, rfl, hholds⟩
  rw [resolvePart, hparse]
  dsimp only
  rw [hcarried]
  exact if_pos howner

theorem resolvePart_of_forall_ne {path owner : String} {part : Part} {importer : Option PluginData}
    (hparse : Part.parse path = .ok (some (owner, part)))
    (h : ∀ data held, importer = some held → held.Holds data →
      Path.toPosix data.owner ≠ Path.toPosix owner) :
    resolvePart path importer = .error (.missingComponent path) := by
  rw [resolvePart, hparse]
  dsimp only
  cases hcarried : carried? importer with
  | none => rfl
  | some data =>
    obtain ⟨held, hheld, hholds⟩ := carried?_eq_some.1 hcarried
    exact if_neg (h data held hheld hholds)

theorem leads_resolvePart (path : String) (importer : Option PluginData) :
    Leads path importer (resolvePart path importer) := by
  cases hparse : Part.parse path with
  | error cause =>
    have hanswer : resolvePart path importer = .error (.invalidPart path cause) := by
      rw [resolvePart, hparse]
    rw [hanswer]
    exact ⟨by simp [hparse], by simp [hparse], by simp [hparse], by simp [hparse]⟩
  | ok found =>
    obtain _ | ⟨owner, part⟩ := found
    · have hanswer : resolvePart path importer = .ok { path, space := fileSpace } := by
        rw [resolvePart, hparse]
      rw [hanswer]
      exact ⟨by simp [hparse], by simp [hparse], by simp [hparse], by simp [hparse]⟩
    by_cases hown : ∃ data held, importer = some held ∧ held.Holds data ∧
        Path.toPosix data.owner = Path.toPosix owner
    · -- who carries the component gets the part
      obtain ⟨data, held, rfl, hholds, howner⟩ := hown
      rw [resolvePart_of_holds hparse hholds howner]
      refine ⟨by simp [hparse], by simp [hparse], fun other wanted => ⟨?_, ?_⟩, ?_⟩
      · intro hsame
        simp only [Except.ok.injEq, ResolveResult.mk.injEq, Option.some.injEq,
          PluginData.part.injEq] at hsame
        obtain ⟨-, -, -, ⟨rfl, rfl⟩, -, -⟩ := hsame
        exact ⟨owner, held, hparse, rfl, hholds, howner⟩
      · rintro ⟨owner', held', hparse', hheld, hholds', -⟩
        obtain rfl := Option.some.inj hheld
        obtain rfl := hholds.unique hholds'
        cases hparse.symm.trans hparse'
        rfl
      · refine iff_of_false (fun hsame => by cases hsame) ?_
        rintro ⟨owner', part', hparse', hnone⟩
        cases hparse.symm.trans hparse'
        exact hnone data held rfl hholds howner
    · -- and nobody else
      have hnone : ∀ data held, importer = some held → held.Holds data →
          Path.toPosix data.owner ≠ Path.toPosix owner :=
        fun data held hheld hholds howner => hown ⟨data, held, hheld, hholds, howner⟩
      rw [resolvePart_of_forall_ne hparse hnone]
      refine ⟨by simp [hparse], by simp [hparse], fun other wanted => ?_, ?_⟩
      · refine iff_of_false (fun hsame => by cases hsame) ?_
        rintro ⟨owner', held', hparse', hheld, hholds', howner⟩
        cases hparse.symm.trans hparse'
        exact hnone other held' hheld hholds' howner
      · exact iff_of_true rfl ⟨owner, part, hparse, hnone⟩

/-- A part as the module that it is served as: its text and how that is read, the component for the
imports of the module and the directory that they are seen from, and what was said about it. -/
structure IsModule (component : ComponentData) (served : ServedPart) (result : LoadResult) :
    Prop where
  contents : result.contents = some served.contents
  loader : result.loader = some served.loader
  data : result.data = some (.component component)
  resolveDir : result.resolveDir = some (Path.parentDir component.owner)
  warnings : result.warnings = messagesAbout component.owner served.tips
  errors : result.errors = messagesAbout component.owner served.errors

theorem isModule_result (data : ComponentData) (served : ServedPart) :
    IsModule data served (served.result data) :=
  ⟨rfl, rfl, rfl, rfl, rfl, rfl⟩

/-- What the loader of a kind of parts gives for a module: the part that the module waits with, if
it is of the kind and the component has it. -/
structure Loads (mode : SourceMapMode) (kind : PartKind) (args : LoadArgs)
    (answer : Except PluginError LoadResult) : Prop where
  served : ∀ data part served, args.data = some (.part data part) → part.kind = kind →
    data.component.served? mode part = some served →
    ∃ result, answer = .ok result ∧ IsModule data served result
  lacking : ∀ data part, args.data = some (.part data part) → part.kind = kind →
    data.component.served? mode part = none → answer = .error (.missingPart data.owner part)
  other : (∀ data part, args.data = some (.part data part) → part.kind ≠ kind) →
    answer = .error (.missingComponent args.path)

theorem loads_loadPart (mode : SourceMapMode) (kind : PartKind) (args : LoadArgs) :
    Loads mode kind args (loadPart mode kind args) where
  served data part served hdata hkind hserved := by
    refine ⟨served.result data, ?_, isModule_result data served⟩
    rw [loadPart_eq hdata hkind, hserved]
  lacking data part hdata hkind hserved := by
    rw [loadPart_eq hdata hkind, hserved]
  other := loadPart_of_forall_ne

/-- What is loaded behind an address is the part that the address names, of the component that its
importer carries. -/
theorem Leads.confined {path : String} {importer : Option PluginData} {result : ResolveResult}
    {mode : SourceMapMode} {kind : PartKind} {args : LoadArgs} {loaded : LoadResult}
    (hleads : Leads path importer (.ok result)) (hdata : args.data = result.data)
    (hloads : Loads mode kind args (.ok loaded)) :
    ∃ data held owner part served, importer = some held ∧ held.Holds data ∧
      Part.parse path = .ok (some (owner, part)) ∧ Path.toPosix data.owner = Path.toPosix owner ∧
      part.kind = kind ∧ data.component.served? mode part = some served ∧
      IsModule data served loaded := by
  -- a module that waits with no part of the kind is not loaded
  have hpart : ∃ data part, result.data = some (.part data part) ∧ part.kind = kind := by
    refine Classical.byContradiction fun hnone => ?_
    have hother := hloads.other fun data part hwaits hkind =>
      hnone ⟨data, part, hdata.symm.trans hwaits, hkind⟩
    cases hother
  obtain ⟨data, part, hresult, hkind⟩ := hpart
  have hwaits : args.data = some (.part data part) := hdata.trans hresult
  have hserved : ∃ served, data.component.served? mode part = some served := by
    refine Option.ne_none_iff_exists'.1 fun hlacking => ?_
    cases hloads.lacking data part hwaits hkind hlacking
  obtain ⟨served, hserved⟩ := hserved
  obtain ⟨module, hmodule, hismodule⟩ := hloads.served data part served hwaits hkind hserved
  cases hmodule
  -- and a module waits with a part only if its importer carries the component
  cases hparse : Part.parse path with
  | error cause => cases (hleads.invalid cause).2 hparse
  | ok found =>
    obtain _ | ⟨owner, wanted⟩ := found
    · rw [Except.ok.inj (hleads.file.2 hparse)] at hresult
      cases hresult
    by_cases hown : ∃ data held, importer = some held ∧ held.Holds data ∧
        Path.toPosix data.owner = Path.toPosix owner
    · obtain ⟨carried, held, hheld, hholds, howner⟩ := hown
      rw [Except.ok.inj ((hleads.part carried wanted).2 ⟨owner, held, hparse, hheld, hholds,
        howner⟩)] at hresult
      simp only [Option.some.injEq, PluginData.part.injEq] at hresult
      obtain ⟨rfl, rfl⟩ := hresult
      exact ⟨carried, held, owner, wanted, served, hheld, hholds, rfl, howner, hkind, hserved,
        hismodule⟩
    · cases hleads.missing.2 ⟨owner, wanted, hparse, fun carried held hheld hholds howner =>
        hown ⟨carried, held, hheld, hholds, howner⟩⟩

end ComponentFile

/-- The path that a resolve hook is asked about, with the aliases in force. -/
def AliasSet.address (aliases : AliasSet) (args : ResolveArgs) : String :=
  Path.absolutize (aliases.apply args.path) args.resolveDir

namespace PluginState

variable {m : Type → Type} [Monad m] [MonadFiles m]

/-- A plugin that gives nobody a part of a component that they do not carry: where its resolve hook
for components leads, which of its load hooks a part is left to and what that gives, and what the
two come to together. -/
structure ConfinesParts (state : PluginState m) : Prop where
  resolved : ∀ args, ∃ answer : AliasSet → Except PluginError ResolveResult,
    ComponentFile.resolve state args = answer <$> state.aliases.get ∧
      ∀ aliases, ComponentFile.Leads (aliases.address args) args.data (answer aliases)
  loaded : ∀ kind args, args.space = kind.space → ∃ hook answer,
    state.hooks.onLoad.find? (·.scope.covers args.path args.space) = some hook ∧
      hook.run args = pure (claim answer) ∧
      ComponentFile.Loads state.build.sourceMap kind args answer
  confined : ∀ args aliases result kind wanted module,
    ComponentFile.Leads (AliasSet.address aliases args) args.data (.ok result) →
    wanted.data = result.data →
    ComponentFile.Loads state.build.sourceMap kind wanted (.ok module) →
    ∃ data held owner part served, args.data = some held ∧ held.Holds data ∧
      Part.parse (aliases.address args) = .ok (some (owner, part)) ∧
      Path.toPosix data.owner = Path.toPosix owner ∧ part.kind = kind ∧
      data.component.served? state.build.sourceMap part = some served ∧
      ComponentFile.IsModule data served module

theorem find?_onLoad (state : PluginState m) (kind : PartKind) (path : String) :
    state.hooks.onLoad.find? (·.scope.covers path kind.space) =
      some (loadHook kind.space (fun _ => true) fun args =>
        return ComponentFile.loadPart state.build.sourceMap kind args) := by
  -- the hook for component files comes first, but it is one for files
  have hfile : fileSpace ≠ kind.space := kind.space_ne_fileSpace.symm
  have hspace : ∀ {kind other : PartKind}, kind.space = other.space ↔ kind = other :=
    ⟨PartKind.space_injective, congrArg _⟩
  cases kind <;> simp [hooks, loadHook, HookScope.covers, hfile, hspace] <;> rfl

/-- Without resolve processors parts are got at through what a module carries, and in no other
way. -/
theorem confinesParts [LawfulMonad m] (state : PluginState m)
    (hdecides : state.plugin.processors.onResolve = []) : state.ConfinesParts where
  resolved args := by
    refine ⟨fun aliases => ComponentFile.resolvePart (aliases.address args) args.data, ?_,
      fun aliases => ComponentFile.leads_resolvePart _ _⟩
    simp [ComponentFile.resolve, resolvePath, hdecides, Chain.firstSome, ProcessorStage.fail,
      Except.mapError, AliasSet.address]
  loaded kind args hspace := by
    have hfound := state.find?_onLoad kind args.path
    rw [← hspace] at hfound
    exact ⟨_, _, hfound, map_pure _ _, ComponentFile.loads_loadPart _ kind args⟩
  confined _ _ _ _ _ _ hleads hdata hloads := hleads.confined hdata hloads

/-- A plugin without processors. -/
def unprocessed : PluginState (StateM Session) where
  plugin :=
    { name := PluginConfig.defaultName
      executor := fun request => return .ok ⟨request.id, .null⟩
      templateOptions := .object []
      styleOptions := .object []
      processors := {} }
  build := {}
  mode := .ofDefine []
  aliases := Session.aliasCell

/-- A component with two style sheets. -/
def card : ComponentData :=
  ⟨"/app/src/Card.vue", ⟨7⟩, { styles := [{ code := "p \x7b\x7d" }, { code := "a \x7b\x7d" }] }⟩

/-- An alias for the directory of the component, and no files. -/
def aliased : Session where
  disk :=
    { readBytes := fun _ => .error .notFound
      canonical := .ok
      kind? := fun _ => none
      entries := fun _ => .ok []
      workingDir := "/"
      programDir := "/" }
  aliases := ⟨[⟨"@/", "/app/src/", true⟩]⟩

/-- The template of the component gets at the second style sheet through the alias, and it is loaded
with its own text. A module of another component does not get at it. -/
theorem confinesParts_card :
    unprocessed.plugin.processors.onResolve = [] ∧ unprocessed.ConfinesParts ∧
    (∃ result, ((ComponentFile.resolve unprocessed
        { path := "@/Card.vue?index=1&type=style", resolveDir := "/lib"
          data := some (.part card .template) }).run aliased).1 = .ok result ∧
      result.path = "/app/src/Card.vue?index=1&type=style" ∧
      result.space = PartKind.style.space ∧ result.data = some (.part card (.style 1)) ∧
      (ComponentFile.loadPart .none .style ⟨result.path, result.space, result.data⟩).map
        (·.contents) = .ok (some "a \x7b\x7d")) ∧
    ((ComponentFile.resolve unprocessed
        { path := "@/Card.vue?index=1&type=style", resolveDir := "/lib"
          data := some (.component { card with owner := "/app/src/Other.vue" }) }).run aliased).1 =
      .error (.missingComponent "/app/src/Card.vue?index=1&type=style") :=
  ⟨rfl, unprocessed.confinesParts rfl, ⟨_, rfl, by decide +kernel, rfl, rfl, rfl⟩, by rfl⟩

end PluginState

end SfcBundler
