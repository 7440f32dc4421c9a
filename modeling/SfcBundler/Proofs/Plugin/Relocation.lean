import SfcBundler.Proofs.Plugin.Project

/-!
# Moving a project

The builds of a project in two directories go in step: what the one asks, the other asks of the
same places of the project, and gets the same answers but for the directory in them.

## Main definitions

* `Project.SamePlace`, `Project.SameData`, `Project.SameSpecifier`: paths, data and specifiers of
  two builds that mean the same
* `Project.SameTarget`, `Project.SameOutcome`: answers that say the same
* `Project.SameWalk`: two walks that have come equally far

## Main results

* `Project.SameSpecifier.samePlace`: specifiers that mean the same lead to the same place
* `Project.resolved_same`, `Project.outcome_same`: specifiers and modules that mean the same are
  answered the same
-/

namespace SfcBundler.Project

section Relations

variable (project : Project) (dir dir' : String)

/-- Paths of the same place of a project. -/
def SamePlace (path path' : String) : Prop :=
  ∃ steps, Path.AreSteps steps ∧ path = Path.place dir steps ∧ path' = Path.place dir' steps

/-- The same component, compiled from a file of the project. -/
inductive SameComponent : ComponentData → ComponentData → Prop
  | intro {front : List (List Char)} {name : List Char} {bytes : List UInt8} {component : Component}
      (identity : Identity) :
    Path.AreSteps (front ++ [name]) → project.file? (front ++ [name]) = some bytes →
    project.compiled (ComponentFile.decodeSource bytes) = .ok component →
    SameComponent ⟨Path.place dir (front ++ [name]), identity, component⟩
      ⟨Path.place dir' (front ++ [name]), identity, component⟩

/-- Data that carry the same component, or none. -/
inductive SameData : Option PluginData → Option PluginData → Prop
  | none : SameData none none
  | component {data data' : ComponentData} : project.SameComponent dir dir' data data' →
    SameData (some (.component data)) (some (.component data'))
  | part {data data' : ComponentData} (part : Part) : project.SameComponent dir dir' data data' →
    SameData (some (.part data part)) (some (.part data' part))

/-- Specifiers that mean the same: one text that is seen from the same place and keeps to the
project, or the paths of the same place other than the directory itself. -/
inductive SameSpecifier (args args' : ResolveArgs) : Prop
  | written (steps : List (List Char)) : args.path = args'.path →
    Path.LeadsTo dir args.resolveDir steps → Path.LeadsTo dir' args'.resolveDir steps →
    Keeps steps args.path → project.SameData dir dir' args.data args'.data →
    SameSpecifier args args'
  | shown (steps : List (List Char)) : Path.AreSteps steps → steps ≠ [] →
    args.path = Path.place dir steps → args'.path = Path.place dir' steps →
    project.SameData dir dir' args.data args'.data → SameSpecifier args args'

/-- Answers that lead specifiers to the same place, outside of the build, or nowhere. -/
inductive SameTarget : Except Message ResolveResult → Except Message ResolveResult → Prop
  | error (message message' : Message) : SameTarget (.error message) (.error message')
  | external {result result' : ResolveResult} : result.errors = [] → result'.errors = [] →
    result.external → result'.external → SameTarget (.ok result) (.ok result')
  | module {result result' : ResolveResult} : result.errors = [] → result'.errors = [] →
    result.external = false → result'.external = false → result.space = result'.space →
    SamePlace dir dir' result.path result'.path →
    project.SameData dir dir' result.data result'.data → SameTarget (.ok result) (.ok result')

/-- The same module, waiting. -/
structure SamePending (pending pending' : PendingModule) : Prop where
  place : SamePlace dir dir' pending.path pending'.path
  space : pending.space = pending'.space
  data : project.SameData dir dir' pending.data pending'.data

/-- The same module, as far as its namespace, its loader and its place go. -/
structure SameModule (module module' : OutputModule) : Prop where
  place : SamePlace dir dir' module.path module'.path
  space : module.space = module'.space
  loader : module.loader = module'.loader

/-- The same module with imports that mean the same and as many errors, or a failure. -/
inductive SameOutcome : Except Message LoadedModule → Except Message LoadedModule → Prop
  | error (message message' : Message) : SameOutcome (.error message) (.error message')
  | loaded {loaded loaded' : LoadedModule} : loaded.errors.length = loaded'.errors.length →
    SameModule dir dir' loaded.module loaded'.module →
    List.Forall₂ (project.SameSpecifier dir dir') (Walk.importsOf loaded.module)
      (Walk.importsOf loaded'.module) → SameOutcome (.ok loaded) (.ok loaded')

/-- Keys of the same module. -/
def SameKey (key key' : ModuleKey) : Prop := key.1 = key'.1 ∧ SamePlace dir dir' key.2 key'.2

/-- Walks that have come equally far: they have seen and built the same modules, and met as many
errors. -/
structure SameWalk (walk walk' : Walk) : Prop where
  seen : List.Forall₂ (SameKey dir dir') walk.seen walk'.seen
  modules : List.Forall₂ (SameModule dir dir') walk.result.modules walk'.result.modules
  errors : walk.result.errors.length = walk'.result.errors.length

end Relations

variable {project : Project} {dir dir' : String} {disk disk' : Snapshot}

/-! ### Specifiers -/

/-- Data that mean the same carry the same component, if any. -/
theorem carried_same {data data' : Option PluginData} (h : project.SameData dir dir' data data') :
    (ComponentFile.carried? data = none ∧ ComponentFile.carried? data' = none) ∨
    ∃ carried carried', ComponentFile.carried? data = some carried ∧
      ComponentFile.carried? data' = some carried' ∧
      project.SameComponent dir dir' carried carried' := by
  cases h with
  | none => exact .inl ⟨rfl, rfl⟩
  | component hcomponent => exact .inr ⟨_, _, rfl, rfl, hcomponent⟩
  | part part hcomponent => exact .inr ⟨_, _, rfl, rfl, hcomponent⟩

/-- What carries the same component gives a part of one owner or another in the same cases. -/
theorem owner_same {data data' : ComponentData} (h : project.SameComponent dir dir' data data')
    (owner : List Char) :
    Path.toPosix data.owner =
        Path.toPosix (String.ofList (Path.trail (Path.stepsTo dir) ++ owner)) ↔
      Path.toPosix data'.owner =
        Path.toPosix (String.ofList (Path.trail (Path.stepsTo dir') ++ owner)) := by
  obtain ⟨identity, hsteps, hfile, hcompiled⟩ := h
  rename_i front name bytes component
  have htext (root : String) : Path.place root (front ++ [name]) =
      String.ofList (Path.trail (Path.stepsTo root) ++ Path.trail (front ++ [name])) := by
    rw [← Path.toList_place (by simp), String.ofList_toList]
  -- both sides compare what stands behind the directory
  simp only [htext, Path.toPosix_append_inj]

namespace SameSpecifier

variable {args args' : ResolveArgs}

theorem data (h : project.SameSpecifier dir dir' args args') :
    project.SameData dir dir' args.data args'.data := by
  cases h with
  | written _ _ _ _ _ hdata => exact hdata
  | shown _ _ _ _ _ hdata => exact hdata

/-- The host and the hooks take specifiers that mean the same for the same kind of thing. -/
theorem kind (h : project.SameSpecifier dir dir' args args') (hdir : Path.IsOrdinary dir)
    (hdir' : Path.IsOrdinary dir') (habsolute : Path.isAbsolute dir)
    (habsolute' : Path.isAbsolute dir') :
    ComponentFile.isAddress args.path.toList = ComponentFile.isAddress args'.path.toList ∧
      StyleSheet.isAddress args.path.toList = StyleSheet.isAddress args'.path.toList ∧
      args.unclaimed.external = args'.unclaimed.external := by
  cases h with
  | written steps hpath _ _ _ _ => exact ⟨by rw [hpath], by rw [hpath], external_congr hpath⟩
  | shown steps hsteps hne hpath hpath' _ =>
    rw [external_of_isAbsolute (hpath ▸ Path.isAbsolute_place habsolute hsteps),
      external_of_isAbsolute (hpath' ▸ Path.isAbsolute_place habsolute' hsteps), hpath, hpath',
      ComponentFile.isAddress_place hdir hne, ComponentFile.isAddress_place hdir' hne,
      StyleSheet.isAddress_place hne, StyleSheet.isAddress_place hne]
    exact ⟨rfl, rfl, rfl⟩

/-- Specifiers that mean the same lead to the same place, if they do not stay out of the build. -/
theorem samePlace (h : project.SameSpecifier dir dir' args args') (habsolute : Path.isAbsolute dir)
    (habsolute' : Path.isAbsolute dir') (hbare : ¬ isBare args.path) :
    SamePlace dir dir' (Path.absolutize args.path args.resolveDir)
      (Path.absolutize args'.path args'.resolveDir) := by
  cases h with
  | written steps hpath hleads hleads' hkeeps _ =>
    have hstays := hkeeps.resolve_left hbare
    refine ⟨_, Path.areSteps_below hleads.areSteps hstays,
      Path.absolutize_of_stays hleads hstays, ?_⟩
    rw [hpath] at hstays ⊢
    exact Path.absolutize_of_stays hleads' hstays
  | shown steps hsteps _ hpath hpath' _ =>
    -- the path of a place leads there from everywhere
    refine ⟨steps, hsteps, ?_, ?_⟩
    · rw [hpath, Path.absolutize_of_isRooted (Path.isRooted_place habsolute hsteps)]
    · rw [hpath', Path.absolutize_of_isRooted (Path.isRooted_place habsolute' hsteps)]

end SameSpecifier

section Resolve

variable (hdir : Path.IsOrdinary dir) (hdir' : Path.IsOrdinary dir')
include hdir hdir'

/-- A place is resolved the same, with data that mean the same. -/
theorem resolvePart_same (args args' : ResolveArgs) {steps : List (List Char)}
    (hsteps : Path.AreSteps steps) {data data' : Option PluginData}
    (hdata : project.SameData dir dir' data data') :
    project.SameTarget dir dir'
      ((project.site disk dir).credited args
        (ComponentFile.resolvePart (Path.place dir steps) data))
      ((project.site disk' dir').credited args'
        (ComponentFile.resolvePart (Path.place dir' steps) data')) := by
  have hplace : SamePlace dir dir' (Path.place dir steps) (Path.place dir' steps) :=
    ⟨steps, hsteps, rfl, rfl⟩
  rcases Part.parse_place steps with hnone | ⟨cause, herror⟩ | ⟨owner, part, hpart⟩
  · rw [ComponentFile.resolvePart, ComponentFile.resolvePart, hnone dir hdir.mark_notMem,
      hnone dir' hdir'.mark_notMem]
    exact .module rfl rfl rfl rfl rfl hplace SameData.none
  · rw [ComponentFile.resolvePart, ComponentFile.resolvePart, herror dir hdir.mark_notMem,
      herror dir' hdir'.mark_notMem]
    exact .error _ _
  · rw [ComponentFile.resolvePart, ComponentFile.resolvePart, hpart dir hdir.mark_notMem,
      hpart dir' hdir'.mark_notMem]
    rcases carried_same hdata with ⟨hnone, hnone'⟩ | ⟨carried, carried', hsome, hsome', hsame⟩
    · rw [hnone, hnone']
      exact .error _ _
    · simp only [hsome, hsome']
      -- the owner is that of the component carried in both cases or in none
      by_cases howner : Path.toPosix carried.owner =
          Path.toPosix (String.ofList (Path.trail (Path.stepsTo dir) ++ owner))
      · rw [if_pos howner, if_pos ((owner_same hsame owner).1 howner)]
        exact .module rfl rfl rfl rfl rfl hplace (.part part hsame)
      · rw [if_neg howner, if_neg fun h => howner ((owner_same hsame owner).2 h)]
        exact .error _ _

/-- Specifiers that mean the same lead to the same. -/
theorem resolved_same (disk disk' : Snapshot) (habsolute : Path.isAbsolute dir)
    (habsolute' : Path.isAbsolute dir') {args args' : ResolveArgs}
    (h : project.SameSpecifier dir dir' args args') :
    project.SameTarget dir dir' ((project.site disk dir).resolved args)
      ((project.site disk' dir').resolved args') := by
  obtain ⟨haddress, hstyle, hexternal⟩ := h.kind hdir hdir' habsolute habsolute'
  have hplace := h.samePlace habsolute habsolute'
  rw [Site.resolved, Site.resolved, ← haddress, ← hstyle]
  -- the cases in the order of the hooks: a component, a style sheet, and what none of them claims
  by_cases hcomponent : ComponentFile.isAddress args.path.toList
  · obtain ⟨steps, hsteps, hlead, hlead'⟩ := hplace (by simp [isBare, hcomponent])
    have hsite : (project.site disk dir).place args = Path.place dir steps := hlead
    have hsite' : (project.site disk' dir').place args' = Path.place dir' steps := hlead'
    rw [if_pos hcomponent, if_pos hcomponent, hsite, hsite']
    exact resolvePart_same hdir hdir' args args' hsteps h.data
  rw [if_neg hcomponent, if_neg hcomponent]
  by_cases hsheet : StyleSheet.isAddress args.path.toList
  · rw [if_pos hsheet, if_pos hsheet]
    exact .module rfl rfl rfl rfl rfl (hplace (by simp [isBare, hsheet])) SameData.none
  rw [if_neg hsheet, if_neg hsheet, ResolveArgs.unclaimed_eq args, ResolveArgs.unclaimed_eq args',
    ← hexternal]
  by_cases hout : args.unclaimed.external
  · rw [if_pos hout, if_pos hout]
    exact .external rfl rfl rfl rfl
  · rw [if_neg hout, if_neg hout]
    exact .module rfl rfl rfl rfl rfl (hplace fun hbare => hout (external_of_isBare hbare))
      SameData.none

end Resolve

/-! ### Modules -/

theorem forall₂_map_of_mem {α β γ : Type} {related : β → γ → Prop} {items : List α}
    {change : α → β} {change' : α → γ}
    (h : ∀ item ∈ items, related (change item) (change' item)) :
    List.Forall₂ related (items.map change) (items.map change') :=
  List.forall₂_map_left_iff.2 (List.forall₂_map_right_iff.2 (List.forall₂_same.2 h))

/-- The module of a part as the host takes it. -/
theorem answered_served (site : Site) (pending : PendingModule) (served : ServedPart)
    (data : ComponentData) :
    site.answered pending (.ok (served.result data)) = .ok
      { module :=
          { path := pending.path
            space := pending.space
            loader := served.loader
            contents := served.contents
            resolveDir := Path.parentDir data.owner
            data := some (.component data) }
        errors := (ComponentFile.messagesAbout data.owner served.errors).map (·.credit site.name)
        warnings := (ComponentFile.messagesAbout data.owner served.tips).map (·.credit site.name) } :=
  rfl

/-- The module of a component file as the host takes it. -/
theorem exists_answered_entry (site : Site) (pending : PendingModule) (workingDir : String)
    (mode : BuildMode) (data : ComponentData) :
    ∃ entry : EntryModule, entry.owner = Path.toPosix pending.path ∧
      entry.file = ComponentFile.recordedPath pending.path workingDir ∧
      entry.component = data.component ∧ ∃ warnings,
      site.answered pending (.ok (ComponentFile.entryResult pending.path workingDir mode data)) = .ok
        { module :=
            { path := pending.path
              space := pending.space
              loader := .js
              contents := entry.contents
              resolveDir := Path.parentDir pending.path
              data := some (.component data) }
          errors := []
          warnings } :=
  ⟨_, rfl, rfl, rfl, _, rfl⟩

/-- The directory of a file of the project is reached by the steps in front of its name. -/
theorem leadsTo_parentDir (habsolute : Path.isAbsolute dir) {front : List (List Char)}
    {name : List Char} (hsteps : Path.AreSteps (front ++ [name])) :
    Path.LeadsTo dir (Path.parentDir (Path.place dir (front ++ [name]))) front := by
  rw [Path.parentDir_place habsolute hsteps]
  exact Path.leadsTo_place habsolute hsteps.left

/-- A part that no module waits with fails to load. -/
theorem exists_loadPart_error (mode : SourceMapMode) (args : LoadArgs) {kind : PartKind}
    (h : ∀ data part, args.data = some (.part data part) → part.kind ≠ kind) :
    ∃ error, ComponentFile.loadPart mode kind args = .error error := by
  cases hload : ComponentFile.loadPart mode kind args with
  | error error => exact ⟨error, rfl⟩
  | ok result =>
    obtain ⟨data, part, served, hdata, hkind, -⟩ := ComponentFile.exists_of_loadPart hload
    exact absurd hkind (h data part hdata)

section Load

variable {entries : List String} (hportable : project.IsPortable entries)
  (hlies : project.LiesAt disk dir) (hlies' : project.LiesAt disk' dir')
include hportable hlies hlies'

/-- The module of a part of the same component is served the same. -/
theorem served_same {data data' : ComponentData}
    (hcomponent : project.SameComponent dir dir' data data') {part : Part} {served : ServedPart}
    (hserved : data.component.served? project.options.sourceMap part = some served)
    {pending pending' : PendingModule} (hplace : SamePlace dir dir' pending.path pending'.path)
    (hspace : pending.space = pending'.space) :
    project.SameOutcome dir dir'
      ((project.site disk dir).answered pending (.ok (served.result data)))
      ((project.site disk' dir').answered pending' (.ok (served.result data'))) := by
  obtain ⟨identity, hsteps, hfile, hcompiled⟩ := hcomponent
  rename_i front name bytes component
  have hleads := leadsTo_parentDir hlies.isAbsolute hsteps
  have hleads' := leadsTo_parentDir hlies'.isAbsolute hsteps
  have hdata : project.SameData dir dir'
      (some (.component ⟨Path.place dir (front ++ [name]), identity, component⟩))
      (some (.component ⟨Path.place dir' (front ++ [name]), identity, component⟩)) :=
    .component ⟨identity, hsteps, hfile, hcompiled⟩
  rw [answered_served, answered_served]
  refine .loaded ?_ ⟨hplace, hspace, rfl⟩ ?_
  · simp [ComponentFile.messagesAbout]
  -- the text is the same, and both see its imports from the directory of the component
  · refine forall₂_map_of_mem fun ⟨specifier, kind⟩ hfound => ?_
    have hkeeps := hportable.imports front name bytes component part served hfile hcompiled hserved
      _ hfound
    refine .written front rfl ?_ ?_ hkeeps hdata
    · simpa only using hleads
    · simpa only using hleads'

/-- A part that means the same loads the same. -/
theorem outcome_part_same (kind : PartKind) {pending pending' : PendingModule}
    (h : project.SamePending dir dir' pending pending') (hspace : pending.space = kind.space) :
    project.SameOutcome dir dir' ((project.site disk dir).outcome pending)
      ((project.site disk' dir').outcome pending') := by
  have hmaps : (project.site disk dir).buildOptions.sourceMap = project.options.sourceMap := rfl
  have hmaps' : (project.site disk' dir').buildOptions.sourceMap =
      project.options.sourceMap := rfl
  rw [Site.outcome_part kind hspace, Site.outcome_part kind (h.space.symm.trans hspace), hmaps,
    hmaps']
  -- without its component a part is an error in both places
  have hfail (hpart : ∀ data part, pending.data = some (.part data part) → part.kind ≠ kind)
      (hpart' : ∀ data part, pending'.data = some (.part data part) → part.kind ≠ kind) :
      project.SameOutcome dir dir'
        ((project.site disk dir).answered pending
          (ComponentFile.loadPart project.options.sourceMap kind pending.args))
        ((project.site disk' dir').answered pending'
          (ComponentFile.loadPart project.options.sourceMap kind pending'.args)) := by
    obtain ⟨error, herror⟩ :=
      exists_loadPart_error project.options.sourceMap pending.args hpart
    obtain ⟨error', herror'⟩ :=
      exists_loadPart_error project.options.sourceMap pending'.args hpart'
    rw [herror, herror']
    exact .error _ _
  have hdata := h.data
  generalize hcarried : pending.data = carried, hcarried' : pending'.data = carried' at hdata
  cases hdata with
  | none => exact hfail (by simp [hcarried]) (by simp [hcarried'])
  | component hcomponent => exact hfail (by simp [hcarried]) (by simp [hcarried'])
  | @part data data' part hcomponent =>
    by_cases hkind : part.kind = kind
    · rw [ComponentFile.loadPart_eq hcarried hkind, ComponentFile.loadPart_eq hcarried' hkind]
      have hsame : data'.component = data.component := by
        cases hcomponent
        rfl
      rw [hsame]
      cases hserved : data.component.served? project.options.sourceMap part with
      | none => exact .error _ _
      | some served =>
        exact served_same hportable hlies hlies' hcomponent hserved h.place h.space
    · refine hfail (fun other found heq => ?_) (fun other found heq => ?_)
      · cases hcarried.symm.trans heq
        exact hkind
      · cases hcarried'.symm.trans heq
        exact hkind

/-- A component file is compiled to the same entry module, whose imports lead to the same. -/
theorem outcome_component_same (hdir : Path.IsOrdinary dir) (hdir' : Path.IsOrdinary dir')
    {front : List (List Char)} {name : List Char} {bytes : List UInt8}
    (hsteps : Path.AreSteps (front ++ [name]))
    (hbytes : project.file? (front ++ [name]) = some bytes) (data data' : Option PluginData) :
    project.SameOutcome dir dir'
      ((project.site disk dir).outcome ⟨Path.place dir (front ++ [name]), fileSpace, data⟩)
      ((project.site disk' dir').outcome
        ⟨Path.place dir' (front ++ [name]), fileSpace, data'⟩) := by
  obtain ⟨front', name', heq, hname⟩ := hportable.components _ bytes hbytes
  obtain ⟨rfl, rfl⟩ : front = front' ∧ name = name' := by simpa using heq
  have hmild := hportable.mild _ bytes hbytes
  rw [hlies.outcome_file hsteps hportable.impersonal (Path.isFile_place _ _ hname) hbytes,
    hlies'.outcome_file hsteps hportable.impersonal (Path.isFile_place _ _ hname) hbytes]
  -- the bytes are the same in both places, so it is compiled once for both
  cases hcompiled : project.compiled (ComponentFile.decodeSource bytes) with
  | error error => exact .error _ _
  | ok component =>
    obtain ⟨entry, howner, hfile, hcomponent, warnings, hanswered⟩ :=
      exists_answered_entry (project.site disk dir)
        ⟨Path.place dir (front ++ [name]), fileSpace, data⟩ dir project.compileOptions.mode
        ⟨Path.place dir (front ++ [name]), .ofSource (ComponentFile.decodeSource bytes), component⟩
    obtain ⟨entry', howner', hfile', hcomponent', warnings', hanswered'⟩ :=
      exists_answered_entry (project.site disk' dir')
        ⟨Path.place dir' (front ++ [name]), fileSpace, data'⟩ dir' project.compileOptions.mode
        ⟨Path.place dir' (front ++ [name]), .ofSource (ComponentFile.decodeSource bytes), component⟩
    have himports :=
      EntryModule.imports_placed hlies.isAbsolute hdir hsteps hmild howner hfile
    have himports' :=
      EntryModule.imports_placed hlies'.isAbsolute hdir' hsteps hmild howner' hfile'
    -- what an entry module shows depends on nothing but the component
    have hshown : entry'.shownSteps front name = entry.shownSteps front name := by
      rw [EntryModule.shownSteps, EntryModule.shownSteps, EntryModule.parts, EntryModule.parts,
        hcomponent, hcomponent']
    simp only [Except.map]
    rw [hanswered, hanswered']
    refine .loaded rfl ⟨⟨_, hsteps, rfl, rfl⟩, rfl, rfl⟩ ?_
    simp only [Walk.importsOf, himports, himports', hshown, List.map_map]
    refine forall₂_map_of_mem fun steps hmem => ?_
    obtain ⟨hplaced, hne⟩ := EntryModule.areSteps_of_mem_shownSteps hsteps hmild hmem
    exact .shown steps hplaced hne rfl rfl (.component ⟨_, hsteps, hbytes, hcompiled⟩)

/-- Modules that mean the same load the same. -/
theorem outcome_same (hdir : Path.IsOrdinary dir) (hdir' : Path.IsOrdinary dir')
    {pending pending' : PendingModule} (h : project.SamePending dir dir' pending pending') :
    project.SameOutcome dir dir' ((project.site disk dir).outcome pending)
      ((project.site disk' dir').outcome pending') := by
  by_cases hkind : ∃ kind : PartKind, pending.space = kind.space
  · obtain ⟨kind, hspace⟩ := hkind
    exact outcome_part_same hportable hlies hlies' kind h hspace
  have hother (kind : PartKind) : pending.space ≠ kind.space := fun heq => hkind ⟨kind, heq⟩
  obtain ⟨path, space, data⟩ := pending
  obtain ⟨path', space', data'⟩ := pending'
  obtain ⟨⟨steps, hsteps, rfl, rfl⟩, rfl : space = space', -⟩ := h
  by_cases hfile : space = fileSpace → project.file? steps = none
  · obtain ⟨message, herror⟩ :=
      hlies.exists_outcome_error hsteps hportable.components data hother hfile
    obtain ⟨message', herror'⟩ :=
      hlies'.exists_outcome_error hsteps hportable.components data' hother hfile
    rw [herror, herror']
    exact .error message message'
  -- all that is left is a file of the project
  · obtain ⟨rfl, hsome⟩ := Classical.not_imp.1 hfile
    obtain ⟨bytes, hbytes⟩ := Option.ne_none_iff_exists'.1 hsome
    obtain ⟨front, name, rfl, -⟩ := hportable.components steps bytes hbytes
    exact outcome_component_same hportable hlies hlies' hdir hdir' hsteps hbytes data data'

end Load

end SfcBundler.Project
