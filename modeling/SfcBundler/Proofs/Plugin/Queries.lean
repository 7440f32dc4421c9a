import SfcBundler.Proofs.Plugin.Parts

/-!
# Components with a query

A specifier of a component may have a query that names no part. Such a specifier is resolved as the
component itself, but the query stays at the end of the path, and what is read is the file of that
name. So it is not the component that is loaded.

## Main definitions

* `Query.NamesNoPart`: queries without a part in them

## Main results

* `Path.absolutize_append`: a query stays at the end of a path
* `Site.resolved_query`: where a component with a query leads
* `Site.exists_outcome_of_missing`: a file that is not there is not loaded
* `Site.query_unserved`: a component with a query is not built
-/

namespace SfcBundler

section Paths

variable {text more last : List Char} {front : List (List Char)} {mark c : Char}

theorem Text.fields_append_last (h : fields mark text = front ++ [last]) (hmore : mark ∉ more) :
    fields mark (text ++ more) = front ++ [last ++ more] := by
  have hpieces : ∀ piece ∈ front ++ [last ++ more], mark ∉ piece := by
    intro piece hpiece
    rcases List.mem_append.1 hpiece with hfront | hlast
    · exact notMem_of_mem_fields (h ▸ List.mem_append_left _ hfront)
    · obtain rfl := List.mem_singleton.1 hlast
      rw [List.mem_append, not_or]
      exact ⟨notMem_of_mem_fields (h ▸ List.mem_append_right _ List.mem_cons_self), hmore⟩
  rw [← join_fields mark text, h, join_append_last, fields_join hpieces (by simp)]

namespace Path

/-- A normal form ends with the last segment of the path, if that is a step. -/
theorem ofSegments_append_step (absolute : Bool) (front : List (List Char)) (h : IsStep last) :
    Normal.ofSegments absolute (front ++ [last]) =
      ⟨absolute, (front.foldl (Normal.push absolute) []).reverse ++ [last]⟩ := by
  have hsegments : ∀ segment ∈ [last], IsStep segment := by
    intro segment hsegment
    rwa [List.mem_singleton.1 hsegment]
  rw [Normal.ofSegments, List.foldl_append, foldl_push_of_isStep absolute hsegments,
    List.reverse_append, List.reverse_reverse]

theorem toText_append (absolute : Bool) (front : List (List Char)) (last more : List Char) :
    (⟨absolute, front ++ [last ++ more]⟩ : Normal).toText =
      (⟨absolute, front ++ [last]⟩ : Normal).toText ++ more := by
  have hne (segment : List Char) : ¬ (front ++ [segment]).isEmpty = true := by simp
  cases absolute with
  | true =>
    rw [Normal.toText, Normal.toText, if_pos rfl, if_pos rfl, List.cons_append,
      Text.join_append_last]
  | false =>
    rw [Normal.toText, Normal.toText, if_neg Bool.false_ne_true, if_neg Bool.false_ne_true,
      if_neg (hne _), if_neg (hne _), Text.join_append_last]

/-- What stands behind a path stays there in its normal form, if the last segment of the path holds
anything but dots. -/
theorem normalize_append (h : Text.fields '/' text = front ++ [last]) (hc : c ∈ last)
    (hdot : c ≠ '.') (hmore : '/' ∉ more) :
    (normalize (text ++ more)).toText = (normalize text).toText ++ more := by
  have hmem : last ∈ Text.fields '/' text := by simp [h]
  have hslash : '/' ∉ last := Text.notMem_of_mem_fields hmem
  have hnil : text ≠ [] := List.ne_nil_of_mem (Text.mem_of_mem_fields hmem hc)
  have hboth : '/' ∉ last ++ more := by
    rw [List.mem_append, not_or]
    exact ⟨hslash, hmore⟩
  -- both last segments are steps, and the same ones stand before them
  rw [normalize, normalize, Text.fields_append_last h hmore, h, isAbsoluteText_append hnil,
    ofSegments_append_step _ _ (isStep_of_mem hc hdot hslash),
    ofSegments_append_step _ _ (isStep_of_mem (List.mem_append_left more hc) hdot hboth),
    toText_append]

/-- A query stays at the end of the path of a component, wherever the path is seen from. -/
theorem absolutize_append {path query : String} (h : ComponentFile.isFile path.toList)
    (hquery : '/' ∉ query.toList) (base : String) :
    absolutize (path ++ query) base = absolutize path base ++ query := by
  have hsuffix : ComponentFile.extension <:+ joinText base.toList path.toList :=
    (List.isSuffixOf_iff_suffix.1 h).trans (isSuffix_joinText _ _)
  have hne : path.toList ≠ [] := by
    intro hnil
    have hmem := ComponentFile.mem_of_isFile h
    rw [hnil] at hmem
    cases hmem
  -- the extension stands in the last segment
  obtain ⟨before, hbefore⟩ := hsuffix
  obtain ⟨front, last, hfields⟩ :=
    (List.eq_nil_or_concat' (Text.fields '/' before)).resolve_left (Text.fields_ne_nil '/' before)
  have hlast : Text.fields '/' (joinText base.toList path.toList) =
      front ++ [last ++ ComponentFile.extension] := by
    rw [← hbefore]
    exact Text.fields_append_last hfields (by decide)
  have hextension : 'v' ∈ last ++ ComponentFile.extension :=
    List.mem_append_right _ (by decide)
  have hnormal := normalize_append hlast hextension (by decide) hquery
  rw [absolutize, absolutize, clean, clean, join, join, String.toList_ofList, String.toList_ofList,
    String.toList_append, joinText_append _ hne, hnormal, String.ofList_append,
    String.ofList_toList]

end Path

end Paths

/-- A query in which no part is named: its first type, if it has one, is empty. -/
def Query.NamesNoPart (query : String) : Prop :=
  ∀ name, Query.param? query "type" = some name → name = ""

theorem Query.NamesNoPart.ofQuery_eq {query : String} (h : Query.NamesNoPart query) :
    Part.ofQuery query = .ok none := by
  rw [Part.ofQuery]
  cases hname : Query.param? query "type" with
  | none => rfl
  | some name => simp [h name hname]

theorem Part.parse_append {owner query : String} (howner : '?' ∉ owner.toList)
    (h : Query.NamesNoPart query) : Part.parse (owner ++ "?" ++ query) = .ok none := by
  have hsplit : Query.split (owner ++ "?" ++ query) = (owner, some query) := by
    have htext : (owner ++ "?" ++ query).toList = owner.toList ++ '?' :: query.toList := by
      simp
    rw [Query.split, htext, Text.cut_append howner]
    simp only [String.ofList_toList]
  rw [parse, hsplit]
  simp only [h.ofQuery_eq]
  rfl

namespace Site

variable {site : Site} {args : ResolveArgs} {path query : String}

/-- A component with a query that names no part leads to the path of the component with the query
behind it. -/
theorem resolved_query (hargs : args.path = path ++ "?" ++ query)
    (hfile : ComponentFile.isFile path.toList)
    (hmark : '?' ∉ (Path.absolutize path args.resolveDir).toList) (hslash : '/' ∉ query.toList)
    (hline : '\n' ∉ query.toList) (hpart : Query.NamesNoPart query)
    (halias : site.aliases.apply args.path = args.path) :
    site.resolved args =
      .ok { path := Path.absolutize path args.resolveDir ++ "?" ++ query, space := fileSpace } := by
  have htext : args.path.toList = path.toList ++ '?' :: query.toList := by
    simp [hargs]
  have haddress : ComponentFile.isAddress args.path.toList := by
    rw [htext]
    exact ComponentFile.isAddress_append hfile hline
  have hquery : '/' ∉ ("?" ++ query).toList := by
    simpa using hslash
  -- without a slash a query is no step of the path and stays behind the name of the file
  have hplace : site.place args = Path.absolutize path args.resolveDir ++ "?" ++ query := by
    rw [place, halias, hargs, String.append_assoc, Path.absolutize_append hfile hquery,
      ← String.append_assoc]
  rw [resolved, if_pos haddress, hplace, ComponentFile.resolvePart, Part.parse_append hmark hpart]
  rfl

/-- A file that is not there is not loaded, and the error is about it. -/
theorem exists_outcome_of_missing {pending : PendingModule} {failure : IoFailure}
    (hspace : pending.space = fileSpace)
    (hmissing : site.disk.readBytes pending.path = .error failure) :
    ∃ message, site.outcome pending = .error message ∧
      message.location = some ⟨pending.path, fileSpace⟩ := by
  have hkinds (kind : PartKind) : pending.space ≠ kind.space := by
    rw [hspace]
    exact kind.space_ne_fileSpace.symm
  have hbytes : (MonadFiles.readBytes pending.path : StateM Session _).run
      (site.session.withRequests []) = (.error failure, site.session.withRequests []) :=
    congrArg (fun bytes => (bytes, site.session.withRequests [])) hmissing
  have hrun := site.load_run pending []
  rw [load_eq] at hrun
  split at hrun
  · -- a component
    have hload : (ComponentFile.load site.state pending.args).run (site.session.withRequests []) =
        (.error (.unreadable pending.path failure), site.session.withRequests []) := by
      rw [ComponentFile.load, show pending.args.path = pending.path from rfl, run_bind_of_eq hbytes]
      rfl
    rw [run_map_of_eq hload] at hrun
    exact ⟨_, (congrArg Prod.fst hrun).symm, by rw [hspace]; rfl⟩
  · -- a file that no plugin claims
    have hstyle : ¬ (StyleSheet.isAddress pending.path.toList ∧ pending.space = StyleSheet.space) :=
      fun hboth => absurd (hspace.symm.trans hboth.2) (by decide)
    rw [if_neg (hkinds _), if_neg (hkinds _), if_neg (hkinds _), if_neg hstyle,
      Build.loadUnclaimed, if_neg (not_not_intro hspace)] at hrun
    cases hloader : Loader.ofPath? pending.path with
    | none =>
      rw [hloader] at hrun
      exact ⟨_, (congrArg Prod.fst hrun).symm, by rw [hspace]; rfl⟩
    | some loader =>
      have htext : (site.session.withRequests []).disk.readText pending.path = .error failure := by
        rw [show (site.session.withRequests []).disk = site.disk from rfl, Snapshot.readText,
          hmissing]
      rw [hloader] at hrun
      dsimp only at hrun
      rw [run_bind_of_eq (Session.readText_run pending.path), htext] at hrun
      exact ⟨_, (congrArg Prod.fst hrun).symm, by rw [hspace]; rfl⟩

/-- What is loaded in the space of files waits without data. -/
theorem Walks.mem_loaded_of_file {entries : List String} {course : Course} {final : Session}
    (h : site.Walks entries course final) {args : ResolveArgs} {pending : PendingModule}
    (hargs : args ∈ course.resolved.map Prod.fst)
    (htarget : Walk.target? (site.resolved args) = some pending)
    (hspace : pending.space = fileSpace) (hdata : pending.data = none) :
    (pending, site.outcome pending) ∈ course.loaded := by
  obtain ⟨⟨_, answer⟩, hanswer, rfl⟩ := List.mem_map.1 hargs
  obtain rfl := h.follows.resolved _ answer hanswer
  obtain ⟨⟨other, outcome⟩, hother, hkey⟩ :=
    List.mem_map.1 (h.sound.settled _ _ pending hanswer htarget)
  obtain ⟨hsame, hpath⟩ := Prod.mk.inj hkey
  have hnone : other.data = none := by
    cases h.fits hother with
    | plain hnone => exact hnone
    | part hpart hkind =>
      exact absurd (hkind.symm.trans (hsame.trans hspace)) (PartKind.space_ne_fileSpace _)
  -- the keys are the same, and neither waits with data
  obtain rfl : other = pending := by
    obtain ⟨path, space, data?⟩ := pending
    obtain ⟨path', space', data?'⟩ := other
    cases hsame
    cases hpath
    cases hdata
    cases hnone
    rfl
  rwa [h.follows.loaded other outcome hother] at hother

/-- A component with a query that names no part is not built, whether it is an entry point or
imported, and whether there is such a component or not. It is resolved as the component, but the
file that is looked for has the query in its name. -/
theorem query_unserved {limit : Nat} {entries : List String} {result : BuildResult}
    {session : Session} (hfailed : site.failed = [])
    (hrun : (site.build limit entries).run site.opened = (some result, session))
    (hasked : args ∈ Build.entryFrontier site.baseDir entries ∨
      ∃ module ∈ result.modules, args ∈ Walk.importsOf module)
    (hargs : args.path = path ++ "?" ++ query) (hfile : ComponentFile.isFile path.toList)
    (hmark : '?' ∉ (Path.absolutize path args.resolveDir).toList) (hslash : '/' ∉ query.toList)
    (hline : '\n' ∉ query.toList) (hpart : Query.NamesNoPart query)
    (halias : site.aliases.apply args.path = args.path) {failure : IoFailure}
    (hmissing : site.disk.readBytes (Path.absolutize path args.resolveDir ++ "?" ++ query) =
      .error failure) :
    let place := Path.absolutize path args.resolveDir ++ "?" ++ query
    site.resolved args = .ok { path := place, space := fileSpace } ∧
      (∀ module ∈ result.modules, module.key ≠ (fileSpace, place)) ∧
      ∃ message ∈ result.errors, message.location = some ⟨place, fileSpace⟩ := by
  intro place
  have hresolved := resolved_query hargs hfile hmark hslash hline hpart halias
  obtain ⟨hwalks, hfrontier, hended⟩ := walks_of_build hfailed hrun
  obtain ⟨late, rfl⟩ := Build.exists_of_runEnd hended
  have hmem : args ∈ (site.course limit entries).resolved.map Prod.fst :=
    (hwalks.sound.mem_asked_iff hfrontier).2 hasked
  have htarget : Walk.target? (site.resolved args) = some ⟨place, fileSpace, none⟩ := by
    rw [hresolved]
    exact target?_ok rfl rfl fileSpace_ne_empty
  have hloaded := hwalks.mem_loaded_of_file hmem htarget rfl rfl
  -- the file of the component is not looked for, only one whose name has the query in it
  obtain ⟨message, houtcome, hlocation⟩ : ∃ message,
      site.outcome ⟨place, fileSpace, none⟩ = .error message ∧
        message.location = some ⟨place, fileSpace⟩ :=
    exists_outcome_of_missing rfl hmissing
  have hshown := hwalks.sound.shows hwalks.deliversKeys hloaded
  rw [houtcome] at hshown
  refine ⟨hresolved, ?_⟩
  rcases hshown with ⟨hnil, -⟩ | ⟨-, hreported, hnone⟩
  · cases hnil
  · exact ⟨hnone, message, List.mem_append_left _ (hreported List.mem_cons_self), hlocation⟩

/-- A component that is built from its path is not built from its path with a query. -/
theorem query_unserved_gallery : ∃ plain queried plainSession queriedSession,
    (gallery.build 2 ["a.vue"]).run gallery.opened = (some plain, plainSession) ∧
    (∃ module ∈ plain.modules, module.key = (fileSpace, "/a.vue")) ∧
    (gallery.build 2 ["a.vue?raw"]).run gallery.opened = (some queried, queriedSession) ∧
    (∀ module ∈ queried.modules, module.key ≠ (fileSpace, "/a.vue?raw")) ∧
    ∃ message ∈ queried.errors, message.location = some ⟨"/a.vue?raw", fileSpace⟩ := by
  have hplain : (((gallery.record 2 ["a.vue"]).run gallery.opened).1.result?.map fun result =>
      (result.modules.map (·.key)).contains (fileSpace, "/a.vue")) = some true := by
    decide +kernel
  have hqueried :
      (((gallery.record 2 ["a.vue?raw"]).run gallery.opened).1.result?.isSome) = true := by
    decide +kernel
  obtain ⟨plain, hplain, hmem⟩ := Option.map_eq_some_iff.1 hplain
  obtain ⟨queried, hqueried⟩ := Option.isSome_iff_exists.1 hqueried
  have hplainRun := build_run_of_result? hplain
  have hqueriedRun := build_run_of_result? hqueried
  obtain ⟨module, hmodule, hkey⟩ := List.mem_map.1 (List.contains_iff_mem.1 hmem)
  have hasked : { path := "a.vue?raw", resolveDir := "/" } ∈
      Build.entryFrontier gallery.baseDir ["a.vue?raw"] :=
    List.mem_cons_self
  have hpart : Query.NamesNoPart "raw" := by
    intro name hname
    cases hname
  have hargs : "a.vue?raw" = "a.vue" ++ "?" ++ "raw" := rfl
  have hmissing : gallery.disk.readBytes (Path.absolutize "a.vue" "/" ++ "?" ++ "raw") =
      .error .notFound := rfl
  obtain ⟨-, hnone, herror⟩ := query_unserved (by decide +kernel) hqueriedRun (.inl hasked) hargs
    (by decide) (by decide) (by decide) (by decide) hpart rfl hmissing
  exact ⟨plain, queried, _, _, hplainRun, ⟨module, hmodule, hkey⟩, hqueriedRun, hnone, herror⟩

end Site

end SfcBundler
