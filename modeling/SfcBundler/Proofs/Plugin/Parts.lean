import SfcBundler.Proofs.Component.PartAddress
import SfcBundler.Proofs.Plugin.Places
import SfcBundler.Proofs.Plugin.Union

/-!
# The parts of components

A build serves a part of a component from what the compiler made of the component's file, which it
asks for once. It serves no part but those of components that it built before, and leaves none of
these out.

## Main definitions

* `Component.Serves`: the texts that a part of a component may be served as
* `Site.CompiledOnce`: a component that was compiled by one request
* `Site.ServesParts`: what a build owes for the parts of its components

## Main results

* `Site.Walks.exists_compiledOnce`: the entry module of a component is made from one compilation
* `Site.Walks.exists_of_part`: a module of a part serves that part
* `Site.Walks.part_loaded`: every part of a component that was built is loaded
* `Site.servesParts_of_build`: a build serves the parts of its components
-/

namespace SfcBundler

/-- The texts that a part of a component may be served as: a script as it is or with its source
map, a template or a style block as its code. -/
inductive Component.Serves (component : Component) : Part → String → Prop
  | script {script : ScriptPart} : component.script = some script →
    Serves component .script script.content
  | mappedScript {script : ScriptPart} {sourceMap : Json} : component.script = some script →
    script.sourceMap = some sourceMap →
    Serves component .script (script.content ++ ComponentFile.sourceMapComment sourceMap)
  | template {template : TemplatePart} : component.template = some template →
    Serves component .template template.code
  | style {index : Nat} {style : StylePart} : component.styles[index]? = some style →
    Serves component (.style index) style.code

theorem Component.serves_of_served? {component : Component} {mode : SourceMapMode} {part : Part}
    {served : ServedPart} (h : component.served? mode part = some served) :
    component.Serves part served.contents := by
  cases part with
  | script =>
    obtain ⟨script, hscript, rfl⟩ := Option.map_eq_some_iff.1 h
    dsimp only
    rw [ComponentFile.scriptContents]
    split
    · split
      · exact .mappedScript hscript ‹_›
      · exact .script hscript
    · exact .script hscript
  | template =>
    obtain ⟨template, htemplate, rfl⟩ := Option.map_eq_some_iff.1 h
    exact .template htemplate
  | style index =>
    obtain ⟨style, hstyle, rfl⟩ := Option.map_eq_some_iff.1 h
    exact .style hstyle

/-- What a component can serve, its entry module imports. -/
theorem EntryModule.mem_parts_of_served? {entry : EntryModule} {mode : SourceMapMode} {part : Part}
    {served : ServedPart} (h : entry.component.served? mode part = some served) :
    part ∈ entry.parts := by
  cases part with
  | script =>
    obtain ⟨script, hscript, -⟩ := Option.map_eq_some_iff.1 h
    exact script_mem_parts (by rw [hscript]; rfl)
  | template =>
    obtain ⟨template, htemplate, -⟩ := Option.map_eq_some_iff.1 h
    simp [parts, htemplate]
  | style index =>
    obtain ⟨style, hstyle, -⟩ := Option.map_eq_some_iff.1 h
    obtain ⟨hlength, -⟩ := List.getElem?_eq_some_iff.1 hstyle
    simp [parts, hlength]

/-- The address of a part of a component file is rooted if that of the file is. -/
theorem Part.isRooted_path {owner : String} (h : Path.IsRooted owner.toList)
    (hfile : ComponentFile.isFile owner.toList) (part : Part) :
    Path.IsRooted (part.path owner).toList := by
  have hroot : owner.toList ≠ ['/'] := by
    intro heq
    have hmem := ComponentFile.mem_of_isFile hfile
    rw [heq] at hmem
    exact absurd hmem (by decide)
  obtain ⟨selection, hselection⟩ := part.exists_query
  have hmark : '?' ∈ part.query.toList := by
    rw [hselection]
    exact List.mem_cons_self
  rw [path, String.toList_append]
  exact h.append hroot hmark (by decide) part.slash_notMem_query

theorem Path.toPosix_of_isPlain {path : String} (h : Json.IsPlain path.toList) :
    Path.toPosix path = path :=
  Path.toPosix_of_notMem fun hmem => (h _ hmem).2.2.1 rfl

namespace ComponentFile

/-- A component with a plain path is recorded under a plain path. -/
theorem isPlain_recordedPath {path : String} (h : Json.IsPlain path.toList) (dir : String) :
    Json.IsPlain (recordedPath path dir).toList := by
  have hway : Json.IsPlain ((Path.relativeTo? path dir).getD path).toList := by
    cases hrelative : Path.relativeTo? path dir with
    | none => exact h
    | some way =>
      intro c hc
      rcases Path.mem_relativeTo? hrelative hc with hpath | rfl | rfl
      · exact h c hpath
      · decide
      · decide
  rw [recordedPath, Path.toPosix_of_isPlain hway]
  exact hway

/-- The entry module of a component imports all that the component can serve. -/
theorem exists_mem_importsOf {path dir : String} {mode : BuildMode} {identity : Identity}
    {component : Component} {source : PendingModule} (h : Json.IsPlain path.toList)
    {sourceMap : SourceMapMode} {part : Part} {served : ServedPart}
    (hserved : component.served? sourceMap part = some served) :
    ∃ args ∈ Walk.importsOf
      (source.loadedWith (entryResult path dir mode ⟨path, identity, component⟩)).module,
      args.path = part.path path ∧ args.data = some (.component ⟨path, identity, component⟩) := by
  have howner : Path.toPosix path = path := Path.toPosix_of_isPlain h
  -- a plain path is written into the entry module as it is
  let entry : EntryModule :=
    { owner := Path.toPosix path
      file := recordedPath path dir
      identity
      serverRender := mode.serverRender
      component }
  have hplain : entry.IsPlain :=
    ⟨by rw [show entry.owner = path from howner]; exact h, isPlain_recordedPath h dir⟩
  have himport := EntryModule.mem_imports hplain (EntryModule.mem_parts_of_served? hserved)
  rw [show entry.owner = path from howner] at himport
  exact ⟨_, List.mem_map_of_mem himport, rfl, rfl⟩

end ComponentFile

namespace Site

variable {site : Site} {entries : List String} {course : Course} {final : Session}

/-- What a component can serve is loaded as it is served. -/
theorem outcome_of_served {pending : PendingModule} {data : ComponentData} {part : Part}
    {served : ServedPart} (hdata : pending.data = some (.part data part))
    (hspace : pending.space = part.kind.space)
    (hserved : data.component.served? site.buildOptions.sourceMap part = some served) :
    site.outcome pending = site.answered pending (.ok (served.result data)) := by
  rw [outcome_part _ hspace,
    ComponentFile.loadPart_eq (show pending.args.data = _ from hdata) rfl, hserved]

/-- A module of a part has a text that the part may be served as. -/
theorem serves_of_delivered {pending : PendingModule} {data : ComponentData} {part : Part}
    (hdata : pending.data = some (.part data part)) (hspace : pending.space = part.kind.space)
    {module : OutputModule} (hmodule : Walk.delivered? (site.outcome pending) = some module) :
    data.component.Serves part module.contents := by
  obtain ⟨served, hserved, hcontents, -, -⟩ := exists_of_delivered_part hdata hspace hmodule
  rw [hcontents]
  exact Component.serves_of_served? hserved

/-- A build whose aliases stand for no absolute path. -/
def KeepsAbsolute (site : Site) : Prop :=
  ∀ entry ∈ site.aliases.aliases, ∀ specifier, Path.isAbsolute specifier →
    entry.expand? specifier = none

theorem place_of_isRooted (haliases : site.KeepsAbsolute) {args : ResolveArgs}
    (h : Path.IsRooted args.path.toList) : site.place args = args.path := by
  have hnone : site.aliases.aliases.findSome? (·.expand? args.path) = none :=
    List.findSome?_eq_none_iff.2 fun entry hentry => haliases entry hentry _ h.isAbsoluteText
  rw [place, AliasSet.apply, hnone, Option.getD_none, Path.absolutize_of_isRooted h]

/-- The address of a part, where it is not redirected, leads from a module that carries the
component to the part. -/
theorem target_of_place {args : ResolveArgs} {data : ComponentData} {part : Part}
    (hpath : args.path = part.path data.owner) (hplace : site.place args = args.path)
    (hcarried : ComponentFile.carried? args.data = some data)
    (hfile : ComponentFile.isFile data.owner.toList) (hmark : '?' ∉ data.owner.toList)
    (hindex : ∀ index, part.index? = some index → index < Part.indexBound) :
    Walk.target? (site.resolved args) =
      some ⟨part.path data.owner, part.kind.space, some (.part data part)⟩ := by
  have haddress : ComponentFile.isAddress args.path.toList := by
    rw [hpath]
    exact Part.isAddress_path hfile part
  have hanswer : ComponentFile.resolvePart (part.path data.owner) args.data =
      .ok { path := part.path data.owner, space := part.kind.space
            data := some (.part data part) } := by
    rw [ComponentFile.resolvePart, Part.parse_path hmark hindex]
    simp only [hcarried, if_pos]
  rw [resolved, if_pos haddress, hplace, hpath, hanswer]
  exact target?_credited rfl rfl part.kind.space_ne_empty

/-- So it is where the aliases stand for no absolute path. -/
theorem target_of_part (haliases : site.KeepsAbsolute) {args : ResolveArgs} {data : ComponentData}
    {part : Part} (hpath : args.path = part.path data.owner)
    (hcarried : ComponentFile.carried? args.data = some data)
    (hrooted : Path.IsRooted data.owner.toList) (hfile : ComponentFile.isFile data.owner.toList)
    (hmark : '?' ∉ data.owner.toList)
    (hindex : ∀ index, part.index? = some index → index < Part.indexBound) :
    Walk.target? (site.resolved args) =
      some ⟨part.path data.owner, part.kind.space, some (.part data part)⟩ := by
  have hrootedPath : Path.IsRooted args.path.toList := by
    rw [hpath]
    exact Part.isRooted_path hrooted hfile part
  exact target_of_place hpath (place_of_isRooted haliases hrootedPath) hcarried hfile hmark hindex

/-- A component that was compiled by one request. No other request is to compile its file. -/
def CompiledOnce (site : Site) (requests : List Request) (owner : String) (component : Component) :
    Prop :=
  ∃ request, requests.filter (·.compiles? == some owner) = [request] ∧
    Compiler.compiled (site.reply request) = .ok component

/-- A walk that loads nothing from a path with a backslash. -/
def LoadsPosix (course : Course) : Prop :=
  ∀ pending outcome, (pending, outcome) ∈ course.loaded → '\\' ∉ pending.path.toList

/-- A walk that loads no component from a path with a question mark, or one that does not stand
between quotes as it is. -/
def LoadsPlain (course : Course) : Prop :=
  ∀ pending outcome, (pending, outcome) ∈ course.loaded → pending.space = fileSpace →
    ComponentFile.isFile pending.path.toList →
    '?' ∉ pending.path.toList ∧ Json.IsPlain pending.path.toList

/-- A part shows in what was built: as one module, or by its errors. -/
def Shows (site : Site) (result : BuildResult) (owner : String) (part : Part)
    (served : ServedPart) : Prop :=
  (served.errors = [] ∧ ∃ module,
    result.modules.filter (·.key == (part.kind.space, part.path owner)) = [module] ∧
    module.contents = served.contents) ∨
  (served.errors ≠ [] ∧
    (∀ module ∈ result.modules, module.key ≠ (part.kind.space, part.path owner)) ∧
    ∀ text ∈ served.errors, ⟨text, some site.name, some ⟨owner, fileSpace⟩⟩ ∈ result.errors)

/-- The errors of a part are about the file of its component. -/
theorem errorsOf_served (pending : PendingModule) (served : ServedPart) (data : ComponentData) :
    pending.errorsOf (site.answered pending (.ok (served.result data))) =
      served.errors.map fun text => ⟨text, some site.name, some ⟨data.owner, fileSpace⟩⟩ := by
  change ((served.errors.map fun text => (Message.ofText text).withFile data.owner).map
    (·.credit site.name)).map (·.locate pending.path) = _
  rw [List.map_map, List.map_map]
  rfl

/-- What holds of all that a walk loads by its key holds of all keys. -/
theorem forall_loaded_iff (holds : ModuleKey → Prop) :
    (∀ pending outcome, (pending, outcome) ∈ course.loaded → holds pending.key) ↔
      ∀ key ∈ course.loadedKeys, holds key := by
  rw [Course.loadedKeys, List.forall_mem_map, Prod.forall]

theorem loadsPosix_iff : LoadsPosix course ↔ ∀ key ∈ course.loadedKeys, '\\' ∉ key.2.toList :=
  forall_loaded_iff fun key => '\\' ∉ key.2.toList

theorem loadsPlain_iff : LoadsPlain course ↔ ∀ key ∈ course.loadedKeys, key.1 = fileSpace →
    ComponentFile.isFile key.2.toList → '?' ∉ key.2.toList ∧ Json.IsPlain key.2.toList :=
  forall_loaded_iff fun key => key.1 = fileSpace → ComponentFile.isFile key.2.toList →
    '?' ∉ key.2.toList ∧ Json.IsPlain key.2.toList

namespace Walks

theorem deliversKeys (h : site.Walks entries course final) : course.DeliversKeys := by
  intro pending outcome module hloaded hmodule
  obtain rfl := h.follows.loaded pending outcome hloaded
  exact key_of_delivered hmodule

theorem isPosix_modules (h : site.Walks entries course final) (hposix : LoadsPosix course) :
    IsPosix course.walk.result.modules := by
  intro module hmodule
  obtain ⟨pending, outcome, hloaded, hdelivered⟩ := h.sound.mem_modules.1 hmodule
  have hkey := h.deliversKeys pending outcome module hloaded hdelivered
  rw [(Prod.mk.inj hkey).2]
  exact hposix pending outcome hloaded

/-- The requests to compile a component are those that the load of its file makes. -/
theorem filter_requests (h : site.Walks entries course final) (hposix : LoadsPosix course)
    {source : PendingModule} {reply : Except Message LoadedModule}
    (hloaded : (source, reply) ∈ course.loaded) (hspace : source.space = fileSpace) :
    final.requests.filter (·.compiles? == some source.path) =
      (site.requestsOf source).filter (·.compiles? == some source.path) := by
  obtain ⟨front, back, hsplit⟩ := List.append_of_mem hloaded
  have hnodup := h.sound.nodup
  rw [Course.loadedKeys, hsplit, List.map_append, List.map_cons, List.nodup_middle,
    List.nodup_cons, ← List.map_append] at hnodup
  have hothers (other) (hother : other ∈ front ++ back) :
      (site.requestsOf other.1).filter (·.compiles? == some source.path) = [] := by
    refine List.filter_eq_nil_iff.2 fun request hrequest hcompiles => hnodup.1 ?_
    obtain ⟨⟨-, hfile⟩, hpath⟩ := (site.steady_load other.1).allowed_of_mem_log hrequest
      source.path (eq_of_beq hcompiles)
    have hother' : (other.1, other.2) ∈ course.loaded := by
      rw [hsplit]
      simp only [List.mem_append, List.mem_cons] at hother ⊢
      exact hother.imp_right .inr
    -- only one key is loaded for a path without backslashes
    rw [Path.toPosix_of_notMem (hposix other.1 other.2 hother')] at hpath
    have hkey : other.1.key = source.key := by
      rw [PendingModule.key, PendingModule.key, hfile, hspace, hpath]
    rw [← hkey]
    exact List.mem_map_of_mem hother
  rw [h.follows.session, Session.withRequests, hsplit, List.filter_flatMap, List.flatMap_append,
    List.flatMap_cons,
    List.flatMap_eq_nil_iff.2 fun other hother => hothers other (List.mem_append_left _ hother),
    List.flatMap_eq_nil_iff.2 fun other hother => hothers other (List.mem_append_right _ hother),
    List.nil_append, List.append_nil]

/-- The entry module of a component is made from what one request had compiled. -/
theorem exists_compiledOnce (h : site.Walks entries course final) (hposix : LoadsPosix course)
    {source : PendingModule} {module : OutputModule}
    (hloaded : (source, site.outcome source) ∈ course.loaded)
    (hfile : ComponentFile.isFile source.path.toList ∧ source.space = fileSpace)
    (hmodule : Walk.delivered? (site.outcome source) = some module) :
    ∃ identity component, site.CompiledOnce final.requests source.path component ∧
      module = (source.loadedWith (ComponentFile.entryResult source.path site.baseDir
        site.state.mode ⟨source.path, identity, component⟩)).module := by
  obtain ⟨loaded, houtcome, -, rfl⟩ := Walk.delivered?_eq_some.1 hmodule
  obtain ⟨text, component, hrequests, hcompiled, hanswered⟩ :=
    exists_of_outcome_component hfile houtcome
  cases hanswered
  refine ⟨_, component, ⟨_, ?_, hcompiled⟩, rfl⟩
  have hcompiles := site.compiles?_compileRequest source.path text
  rw [Path.toPosix_of_notMem (hposix source _ hloaded)] at hcompiles
  rw [h.filter_requests hposix hloaded hfile.2, hrequests,
    List.filter_cons_of_pos (by simp [hcompiles]), List.filter_nil]

/-- A module of a file was loaded without data. -/
theorem file_loaded (h : site.Walks entries course final) {module : OutputModule}
    (hmodule : module ∈ course.walk.result.modules) (hspace : module.space = fileSpace) :
    (⟨module.path, fileSpace, none⟩, site.outcome ⟨module.path, fileSpace, none⟩) ∈ course.loaded ∧
      Walk.delivered? (site.outcome ⟨module.path, fileSpace, none⟩) = some module := by
  obtain ⟨⟨path, space, data?⟩, outcome, hloaded, hdelivered⟩ := h.sound.mem_modules.1 hmodule
  obtain rfl := h.follows.loaded _ outcome hloaded
  obtain ⟨hsame, rfl⟩ := Prod.mk.inj (key_of_delivered hdelivered)
  obtain rfl : fileSpace = space := hspace.symm.trans hsame
  cases h.fits hloaded with
  | plain hdata =>
    cases hdata
    exact ⟨hloaded, hdelivered⟩
  | part hdata hpart => exact absurd hpart.symm (PartKind.space_ne_fileSpace _)

/-- A component that is what its file is loaded as was compiled once. -/
theorem compiledOnce_of_genuine (h : site.Walks entries course final) (hposix : LoadsPosix course)
    {data : ComponentData} (hgenuine : site.Genuine data) {entry : OutputModule}
    (hentry : entry ∈ course.walk.result.modules) (hkey : entry.key = (fileSpace, data.owner)) :
    site.CompiledOnce final.requests data.owner data.component := by
  obtain ⟨hspace, howner⟩ := Prod.mk.inj hkey
  obtain ⟨hloaded, hdelivered⟩ := h.file_loaded hentry hspace
  rw [howner] at hloaded hdelivered
  obtain ⟨module, hmodule, hdata⟩ := hgenuine
  by_cases hfile : ComponentFile.isFile data.owner.toList
  · obtain ⟨identity, component, hcompiled, rfl⟩ :=
      h.exists_compiledOnce hposix hloaded ⟨hfile, rfl⟩ hmodule
    have hsame : ⟨data.owner, identity, component⟩ = data :=
      PluginData.component.inj (Option.some.inj hdata)
    rwa [show component = data.component from congrArg ComponentData.component hsame] at hcompiled
  · -- a file of another kind carries no component
    obtain ⟨hnone, -⟩ := data_of_delivered (fun hboth => hfile hboth.1)
      (fun kind => kind.space_ne_fileSpace.symm) hmodule
    rw [hnone] at hdata
    cases hdata

/-- A module of a part serves that part of a component, which was compiled once and whose own module
stands before it. -/
theorem exists_of_part (h : site.Walks entries course final) (hposix : LoadsPosix course)
    {before after : List OutputModule} {module : OutputModule} {kind : PartKind}
    (hsplit : course.walk.result.modules = before ++ module :: after)
    (hspace : module.space = kind.space) :
    ∃ owner part component, Part.parse module.path = .ok (some (owner, part)) ∧ part.kind = kind ∧
      (∃ entry ∈ before, entry.key = (fileSpace, owner)) ∧
      site.CompiledOnce final.requests owner component ∧ component.Serves part module.contents := by
  rw [h.sound.modules] at hsplit
  obtain ⟨front, pending, outcome, back, hloaded, rfl, hmodule⟩ :=
    Walk.exists_of_delivered_eq hsplit
  have hmem_loaded : (pending, outcome) ∈ course.loaded := by simp [hloaded]
  obtain rfl := h.follows.loaded pending outcome hmem_loaded
  have hkey := key_of_delivered hmodule
  have hwaits : pending.space = kind.space := (Prod.mk.inj hkey).1.symm.trans hspace
  obtain ⟨hfits, hentry⟩ := h.follows.loaded_fits h.sound (fun _ => data_of_mem_start) hloaded
  cases hfits with
  | plain hdata hother => exact absurd hwaits (hother kind)
  | @part data part owner hdata hpart hparse howner hgenuine =>
    obtain rfl : kind = part.kind := PartKind.space_injective (hwaits.symm.trans hpart)
    obtain ⟨entry, hbefore, hentry⟩ := hentry data part hdata
    have hmodules : entry ∈ course.walk.result.modules := by
      rw [h.sound.modules, hsplit]
      exact List.mem_append_left _ hbefore
    obtain ⟨hfileLoaded, -⟩ := h.file_loaded hmodules (Prod.mk.inj hentry).1
    have hdataOwner := hposix _ _ hfileLoaded
    rw [(Prod.mk.inj hentry).2] at hdataOwner
    -- without backslashes the two owners are the same
    obtain rfl : data.owner = owner := by
      rwa [Path.toPosix_of_notMem hdataOwner, Path.toPosix_of_notMem fun hmem =>
        hposix pending _ hmem_loaded (Part.mem_of_parse hparse hmem)] at howner
    refine ⟨data.owner, part, data.component, ?_, rfl, ⟨entry, hbefore, hentry⟩,
      h.compiledOnce_of_genuine hposix hgenuine hmodules hentry, ?_⟩
    · rw [(Prod.mk.inj hkey).2]
      exact hparse
    · exact serves_of_delivered hdata hpart hmodule

/-- Every part of a component whose own module was built is loaded, with the component that was
compiled for it. -/
theorem part_loaded (h : site.Walks entries course final) (hfrontier : course.frontier = [])
    (haliases : site.KeepsAbsolute) (hdir : Path.isAbsolute site.baseDir)
    (hposix : LoadsPosix course) (hplain : LoadsPlain course) {module : OutputModule}
    (hmodule : module ∈ course.walk.result.modules) (hspace : module.space = fileSpace)
    (hfile : ComponentFile.isFile module.path.toList) :
    ∃ data : ComponentData, data.owner = module.path ∧
      site.CompiledOnce final.requests module.path data.component ∧
      ∀ part served, data.component.served? site.buildOptions.sourceMap part = some served →
        (∀ index, part.index? = some index → index < Part.indexBound) →
        ∃ pending : PendingModule, pending.key = (part.kind.space, part.path module.path) ∧
          pending.data = some (.part data part) ∧
          (pending, site.outcome pending) ∈ course.loaded := by
  obtain ⟨hloaded, hdelivered⟩ := h.file_loaded hmodule hspace
  obtain ⟨identity, component, hcompiled, hentry⟩ :=
    h.exists_compiledOnce hposix hloaded ⟨hfile, rfl⟩ hdelivered
  obtain ⟨hmark, hpath⟩ := hplain _ _ hloaded rfl hfile
  refine ⟨⟨module.path, identity, component⟩, rfl, hcompiled, fun part served hserved hindex => ?_⟩
  obtain ⟨args, hargs, haddress, hdata⟩ := ComponentFile.exists_mem_importsOf hpath hserved
  rw [← hentry] at hargs
  have hcarried : ComponentFile.carried? args.data = some ⟨module.path, identity, component⟩ := by
    rw [hdata]
    rfl
  -- the import of a part is a rooted path, which leads to the part with the component that was
  -- compiled
  have hrooted : Path.IsRooted module.path.toList := (h.isPlaced hdir hloaded).path
  have htarget : Walk.target? (site.resolved args) = some ⟨part.path module.path, part.kind.space,
      some (.part ⟨module.path, identity, component⟩ part)⟩ :=
    target_of_part haliases haddress hcarried hrooted hfile hmark hindex
  exact ⟨_, rfl, rfl, (h.isClosed (h.isPosix_modules hposix) hfrontier).imports _ module args _
    hloaded hdelivered hargs htarget⟩

/-- A part that is loaded shows. -/
theorem shows_of_loaded (h : site.Walks entries course final) {pending : PendingModule}
    {data : ComponentData} {part : Part} {served : ServedPart}
    (hkey : pending.key = (part.kind.space, part.path data.owner))
    (hdata : pending.data = some (.part data part))
    (hserved : data.component.served? site.buildOptions.sourceMap part = some served)
    (hloaded : (pending, site.outcome pending) ∈ course.loaded) :
    site.Shows course.walk.result data.owner part served := by
  have hspace : pending.space = part.kind.space := (Prod.mk.inj hkey).1
  have hshown := h.sound.shows h.deliversKeys hloaded
  rw [outcome_of_served hdata hspace hserved, errorsOf_served, hkey] at hshown
  rcases hshown with ⟨herrors, module, hmodule, hone⟩ | ⟨herrors, hreported, hmissing⟩
  · refine .inl ⟨List.map_eq_nil_iff.1 herrors, module, hone, ?_⟩
    obtain ⟨loaded, hanswered, -, rfl⟩ := Walk.delivered?_eq_some.1 hmodule
    cases hanswered
    rfl
  · refine .inr ⟨fun hnil => herrors (List.map_eq_nil_iff.2 hnil), hmissing, fun text htext => ?_⟩
    exact hreported (List.mem_map_of_mem htext)

end Walks

/-- What shows in a result still does when more errors are reported. -/
theorem Shows.append_errors {result : BuildResult} {owner : String} {part : Part}
    {served : ServedPart} (h : site.Shows result owner part served) (late : List Message) :
    site.Shows { result with errors := result.errors ++ late } owner part served := by
  rcases h with hshown | ⟨herrors, hmissing, hreported⟩
  · exact .inl hshown
  · exact .inr ⟨herrors, hmissing, fun text htext => List.mem_append_left _ (hreported text htext)⟩

/-- What a build owes for the parts of its components, with the requests that it made. -/
structure ServesParts (site : Site) (result : BuildResult) (requests : List Request) : Prop where
  /-- A module of a part serves that part of a component, whose own module stands before it. -/
  sound : ∀ before module after (kind : PartKind), result.modules = before ++ module :: after →
    module.space = kind.space →
    ∃ owner part component, Part.parse module.path = .ok (some (owner, part)) ∧ part.kind = kind ∧
      (∃ entry ∈ before, entry.key = (fileSpace, owner)) ∧
      site.CompiledOnce requests owner component ∧ component.Serves part module.contents
  /-- Every part of a component whose own module was built shows. No list of style blocks is so long
  that an index reaches the bound. -/
  complete : ∀ module ∈ result.modules, module.space = fileSpace →
    ComponentFile.isFile module.path.toList →
    ∃ component, site.CompiledOnce requests module.path component ∧
      ∀ part served, component.served? site.buildOptions.sourceMap part = some served →
        (∀ index, part.index? = some index → index < Part.indexBound) →
        site.Shows result module.path part served

/-- A build serves the parts of its components: no others, and all of them. -/
theorem servesParts_of_build (site : Site) {limit : Nat} {entries : List String}
    {result : BuildResult} {session : Session}
    (hrun : (site.build limit entries).run site.opened = (some result, session))
    (haliases : site.KeepsAbsolute) (hdir : Path.isAbsolute site.baseDir)
    (hposix : LoadsPosix (site.course limit entries))
    (hplain : LoadsPlain (site.course limit entries)) :
    site.ServesParts result session.requests := by
  by_cases hfailed : site.failed = []
  · obtain ⟨hwalks, hfrontier, hended⟩ := walks_of_build hfailed hrun
    obtain ⟨late, rfl⟩ := Build.exists_of_runEnd hended
    constructor
    · intro before module after kind hsplit hspace
      exact hwalks.exists_of_part hposix hsplit hspace
    · intro module hmodule hspace hfile
      obtain ⟨data, howner, hcompiled, hparts⟩ :=
        hwalks.part_loaded hfrontier haliases hdir hposix hplain hmodule hspace hfile
      refine ⟨data.component, hcompiled, fun part served hserved hindex => ?_⟩
      obtain ⟨pending, hkey, hdata, hloaded⟩ := hparts part served hserved hindex
      rw [← howner] at hkey ⊢
      exact (hwalks.shows_of_loaded hkey hdata hserved hloaded).append_errors late
  · -- nothing is built when a start hook fails
    obtain ⟨failure, hnone, hsame⟩ := build_run_of_failed hfailed
    rw [hsame] at hrun
    obtain rfl := Option.some.inj (congrArg Prod.fst hrun)
    constructor
    · intro before module after kind hsplit
      rw [hnone] at hsplit
      exact absurd hsplit.symm (by simp)
    · intro module hmodule
      rw [hnone] at hmodule
      cases hmodule

/-- A site of one component, the template of which does not compile. -/
def gallery : Site where
  answer _ _ := .ok (.object [
    ("script", .object [("content", .string "")]),
    ("template", .object [("code", .string ""), ("errors", .array [.string "no end tag"])]),
    ("styles", .array [.object [("code", .string "p \x7b\x7d")]])])
  disk :=
    { readBytes := fun path => if path = "/a.vue" then .ok [] else .error .notFound
      canonical := .ok
      kind? := fun _ => none
      entries := fun _ => .ok []
      workingDir := "/"
      programDir := "/" }
  options := {}

/-- The script and the style block are served, and the template leaves its error. -/
theorem servesParts_gallery : ∃ result session,
    (gallery.build 2 ["a.vue"]).run gallery.opened = (some result, session) ∧
    gallery.KeepsAbsolute ∧ Path.isAbsolute gallery.baseDir ∧
    LoadsPosix (gallery.course 2 ["a.vue"]) ∧ LoadsPlain (gallery.course 2 ["a.vue"]) ∧
    result.modules.map (·.path) =
      ["/a.vue", "/a.vue?type=script", "/a.vue?type=style&index=0"] ∧
    result.errors.map (·.text) = ["no end tag"] ∧
    gallery.ServesParts result session.requests := by
  -- the build is recorded once, for its result and for what it loads
  have hrecord : (fun record : RunRecord => (record.result?.map fun result =>
      (result.modules.map (·.path), result.errors.map (·.text)), record.course.loadedKeys))
        ((gallery.record 2 ["a.vue"]).run gallery.opened).1 =
      (some (["/a.vue", "/a.vue?type=script", "/a.vue?type=style&index=0"], ["no end tag"]),
        [("file", "/a.vue"), ("sfc-script", "/a.vue?type=script"),
          ("sfc-style", "/a.vue?type=style&index=0"),
          ("sfc-template", "/a.vue?type=template")]) := by
    decide +kernel
  obtain ⟨hshape, hloaded⟩ := Prod.mk.inj hrecord
  have hkeys : (gallery.course 2 ["a.vue"]).loadedKeys =
      [("file", "/a.vue"), ("sfc-script", "/a.vue?type=script"),
        ("sfc-style", "/a.vue?type=style&index=0"), ("sfc-template", "/a.vue?type=template")] := by
    rw [course]
    exact hloaded
  have haliases : gallery.KeepsAbsolute := by
    intro entry hentry
    cases hentry
  have hdir : Path.isAbsolute gallery.baseDir := rfl
  have hposix : LoadsPosix (gallery.course 2 ["a.vue"]) := by
    rw [loadsPosix_iff, hkeys]
    decide
  have hplain : LoadsPlain (gallery.course 2 ["a.vue"]) := by
    rw [loadsPlain_iff, hkeys]
    decide
  obtain ⟨result, hresult, hshape⟩ := Option.map_eq_some_iff.1 hshape
  obtain ⟨hpaths, herrors⟩ := Prod.mk.inj hshape
  have hrun := build_run_of_result? hresult
  exact ⟨result, _, hrun, haliases, hdir, hposix, hplain, hpaths, herrors,
    servesParts_of_build gallery hrun haliases hdir hposix hplain⟩

end Site

end SfcBundler
