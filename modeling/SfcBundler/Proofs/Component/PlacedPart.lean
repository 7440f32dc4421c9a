import SfcBundler.Plugin.StyleSheets
import SfcBundler.Proofs.Component.PartAddress
import SfcBundler.Proofs.Path.Placed

/-!
# Addresses of places

What is made of the path of a place, and what its entry module shows of the addresses of its parts,
does not depend on the directory that the place lies below, but for the front of it.

## Main definitions

* `Path.IsOrdinary`: a directory whose path means nothing in an address or between quotes
* `Path.shownSteps`: the steps to a place as a printed path shows them
* `EntryModule.shownSteps`: the ways that an entry module leads to

## Main results

* `Part.parse_place`: how the address of a place is read
* `ComponentFile.isAddress_place`, `StyleSheet.isAddress_place`: what a place is the address of
* `Path.shown_place`: what is shown of the path of a place is the path of a place
* `EntryModule.imports_placed`: the imports of an entry module lead to places
-/

namespace SfcBundler

/-- A directory whose path stands between quotes as it is and holds no query. -/
def Path.IsOrdinary (dir : String) : Prop := Json.IsPlain dir.toList ∧ '?' ∉ dir.toList

instance (dir : String) : Decidable (Path.IsOrdinary dir) := inferInstanceAs (Decidable (_ ∧ _))

section Place

variable {dir : String} {steps front : List (List Char)} {name : List Char}

namespace Path

/-- The steps to a directory are made of the characters of its path, and of slashes and dots. -/
theorem mem_trail_stepsTo {c : Char} (hc : c ∈ trail (stepsTo dir)) :
    c ∈ dir.toList ∨ c = '/' ∨ c = '.' := by
  obtain ⟨step, hstep, hc⟩ := List.mem_flatMap.1 hc
  rcases List.mem_cons.1 hc with rfl | hc
  · exact .inr (.inl rfl)
  · exact (mem_of_mem_normalize hstep hc).imp_right .inr

theorem IsOrdinary.mark_notMem (h : IsOrdinary dir) : '?' ∉ trail (stepsTo dir) := by
  intro hmem
  rcases mem_trail_stepsTo hmem with hdir | hslash | hdot
  · exact h.2 hdir
  · exact absurd hslash (by decide)
  · exact absurd hdot (by decide)

theorem IsOrdinary.isPlain (h : IsOrdinary dir) : Json.IsPlain (trail (stepsTo dir)) := by
  intro c hc
  rcases mem_trail_stepsTo hc with hdir | rfl | rfl
  · exact h.1 c hdir
  · decide
  · decide

/-- A step is one as it is shown, too. -/
theorem IsStep.shown {step : List Char} (h : IsStep step) (hmild : Json.IsMild step) :
    IsStep (Json.shown step) := by
  by_cases hback : '\\' ∈ Json.shown step
  · refine isStep_of_mem hback (by decide) fun hslash => ?_
    exact hmild.slash_notMem_inner h.noSlash (Json.shown_subset hslash)
  · rwa [hmild.shown_eq_self hback]

/-- Steps as a printed path shows them, which is up to the first double quote. -/
def shownSteps : List (List Char) → List (List Char)
  | [] => []
  | step :: rest => if '\x22' ∈ step then [Json.shown step] else Json.shown step :: shownSteps rest

theorem shownSteps_ne_nil (h : steps ≠ []) : shownSteps steps ≠ [] := by
  obtain ⟨step, rest, rfl⟩ := List.exists_cons_of_ne_nil h
  rw [shownSteps]
  split <;> exact List.cons_ne_nil _ _

theorem AreSteps.shownSteps (h : AreSteps steps) (hmild : ∀ step ∈ steps, Json.IsMild step) :
    AreSteps (shownSteps steps) := by
  induction steps with
  | nil => exact h
  | cons step rest ih =>
    have hhere := (h step List.mem_cons_self).shown (hmild step List.mem_cons_self)
    rw [Path.shownSteps]
    split
    · intro other hother
      rwa [List.mem_singleton.1 hother]
    · intro other hother
      rcases List.mem_cons.1 hother with rfl | hother
      · exact hhere
      · exact ih (fun next hnext => h next (List.mem_cons_of_mem step hnext))
          (fun next hnext => hmild next (List.mem_cons_of_mem step hnext)) other hother

theorem shown_trail (steps : List (List Char)) :
    Json.shown (trail steps) = trail (shownSteps steps) := by
  induction steps with
  | nil => rfl
  | cons step rest ih =>
    have hslash (text : List Char) : Json.shown ('/' :: text) = '/' :: Json.shown text :=
      Json.shown_append ['/'] text
    have hdouble : '\x22' ∈ '/' :: step ↔ '\x22' ∈ step := by simp
    rw [trail, List.flatMap_cons, ← trail, Json.shown_append, if_congr hdouble rfl rfl, shownSteps,
      hslash, ih]
    split
    · simp [trail]
    · rfl

/-- What is shown of the path of a place is the path of a place. -/
theorem shown_place (hdir : IsOrdinary dir) (hsteps : steps ≠ []) :
    Json.shown (place dir steps).toList = (place dir (shownSteps steps)).toList := by
  rw [toList_place hsteps, toList_place (shownSteps_ne_nil hsteps), Json.shown_append,
    if_neg hdir.isPlain.double_notMem, Json.shown_of_isPlain hdir.isPlain, shown_trail]

/-- A place is a component file if its last step is the name of one. -/
theorem isFile_place (dir : String) (front : List (List Char)) (hname : ComponentFile.isFile name) :
    ComponentFile.isFile (place dir (front ++ [name])).toList := by
  obtain ⟨stem, rfl⟩ := List.isSuffixOf_iff_suffix.1 hname
  refine List.isSuffixOf_iff_suffix.2 ⟨trail (stepsTo dir) ++ trail front ++ '/' :: stem, ?_⟩
  rw [toList_place (by simp), trail_append]
  simp [trail]

/-- Two texts are the same with forward slashes if they are so behind a text in front. -/
theorem toPosix_append_inj (front text other : List Char) :
    toPosix (String.ofList (front ++ text)) = toPosix (String.ofList (front ++ other)) ↔
      toPosix (String.ofList text) = toPosix (String.ofList other) := by
  have happend (back : List Char) : toPosix (String.ofList (front ++ back)) =
      toPosix (String.ofList front) ++ toPosix (String.ofList back) := by
    rw [toPosix, String.toList_ofList, List.map_append, String.ofList_append, toPosix,
      String.toList_ofList, toPosix, String.toList_ofList]
  rw [happend, happend, String.append_right_inj]

end Path

/-! ### What a place is the address of -/

/-- Whether a text with a slash is the address of a component shows behind the slash, if no query
starts in front of it. -/
theorem ComponentFile.isAddress_append_slash {front : List Char} (h : '?' ∉ front)
    (back : List Char) : isAddress (front ++ '/' :: back) = isAddress ('/' :: back) := by
  induction front with
  | nil => rfl
  | cons c front ih =>
    rw [List.mem_cons, not_or] at h
    rw [List.cons_append, isAddress, ih h.2, Bool.or_eq_right_iff_imp]
    intro haddress
    split at haddress
    · rename_i hprefix
      have htext := Text.isPrefixOf?_eq_some.1 hprefix
      have hslash : '/' ∈ extension ++ [] := htext ▸ by simp
      exact absurd hslash (by decide)
    · rename_i query hprefix
      have htext : (c :: front) ++ '/' :: back = extension ++ '?' :: query :=
        Text.isPrefixOf?_eq_some.1 hprefix
      -- the slash stands neither in the extension nor at the start of a query
      rcases List.append_eq_append_iff.1 htext with
        ⟨more, hextension, hback⟩ | ⟨more, hfront, hback⟩
      · cases more with
        | nil => cases hback
        | cons d more =>
          obtain ⟨rfl, -⟩ := List.cons_eq_cons.1 hback
          exact absurd (hextension ▸ by simp : '/' ∈ extension) (by decide)
      · cases more with
        | nil => cases hback
        | cons d more =>
          obtain ⟨rfl, -⟩ := List.cons_eq_cons.1 hback
          have hmark : '?' ∈ c :: front := hfront ▸ by simp
          exact absurd hmark (by simp [h.1, h.2])
    · cases haddress

theorem ComponentFile.isAddress_place (hdir : Path.IsOrdinary dir) (hsteps : steps ≠ []) :
    isAddress (Path.place dir steps).toList = isAddress (Path.trail steps) := by
  obtain ⟨step, rest, rfl⟩ := List.exists_cons_of_ne_nil hsteps
  rw [Path.toList_place hsteps]
  exact isAddress_append_slash hdir.mark_notMem (step ++ Path.trail rest)

theorem isSuffixOf_append_cons {mark : Char} {ending : List Char} (h : mark ∉ ending)
    (front back : List Char) :
    ending.isSuffixOf (front ++ mark :: back) = ending.isSuffixOf (mark :: back) := by
  rw [Bool.eq_iff_iff, List.isSuffixOf_iff_suffix, List.isSuffixOf_iff_suffix]
  refine ⟨fun hsuffix => ?_, fun hsuffix => hsuffix.trans (List.suffix_append _ _)⟩
  have hback := List.suffix_append front (mark :: back)
  rcases Nat.le_total ending.length (mark :: back).length with hle | hle
  · exact List.suffix_of_suffix_length_le hsuffix hback hle
  · have hmark := List.suffix_of_suffix_length_le hback hsuffix hle
    exact absurd (hmark.subset List.mem_cons_self) h

theorem StyleSheet.isAddress_place (hsteps : steps ≠ []) :
    isAddress (Path.place dir steps).toList = isAddress (Path.trail steps) := by
  obtain ⟨step, rest, rfl⟩ := List.exists_cons_of_ne_nil hsteps
  have htrail : Path.trail (step :: rest) = '/' :: (step ++ Path.trail rest) := rfl
  rw [Path.toList_place hsteps, htrail, isAddress, isSuffixOf_append_cons (by decide),
    isSuffixOf_append_cons (by decide), isAddress]

namespace Part

/-- How the address of a place is read does not depend on the directory, but for the front of the
owner. -/
theorem parse_place (steps : List (List Char)) :
    (∀ dir, '?' ∉ Path.trail (Path.stepsTo dir) → parse (Path.place dir steps) = .ok none) ∨
    (∃ cause, ∀ dir, '?' ∉ Path.trail (Path.stepsTo dir) →
      parse (Path.place dir steps) = .error cause) ∨
    ∃ owner part, ∀ dir, '?' ∉ Path.trail (Path.stepsTo dir) →
      parse (Path.place dir steps) =
        .ok (some (String.ofList (Path.trail (Path.stepsTo dir) ++ owner), part)) := by
  by_cases hsteps : steps = []
  · refine .inl fun dir hdir => ?_
    -- nothing stands behind the directory
    have hmark : '?' ∉ (Path.place dir steps).toList := by
      rw [hsteps]
      rcases Path.toList_place_nil with hroot | htrail
      · rw [hroot]
        decide
      · rwa [htrail]
    rw [parse, Query.split, Text.cut_eq_none.2 hmark]
  have hcut (dir : String) (hdir : '?' ∉ Path.trail (Path.stepsTo dir)) :=
    Text.cut_append_of_notMem hdir (Path.trail steps)
  cases hquery : Text.cut '?' (Path.trail steps) with
  | none =>
    refine .inl fun dir hdir => ?_
    rw [parse, Query.split, Path.toList_place hsteps, hcut dir hdir, hquery]
    rfl
  | some halves =>
    have hparse (dir : String) (hdir : '?' ∉ Path.trail (Path.stepsTo dir)) :
        parse (Path.place dir steps) = (ofQuery (String.ofList halves.2)).map fun part =>
          part.map fun part =>
            (String.ofList (Path.trail (Path.stepsTo dir) ++ halves.1), part) := by
      rw [parse, Query.split, Path.toList_place hsteps, hcut dir hdir, hquery]
      rfl
    rcases hpart : ofQuery (String.ofList halves.2) with cause | (_ | part)
    · exact .inr (.inl ⟨cause, fun dir hdir => by rw [hparse dir hdir, hpart]; rfl⟩)
    · exact .inl fun dir hdir => by rw [hparse dir hdir, hpart]; rfl
    · exact .inr (.inr ⟨halves.1, part, fun dir hdir => by rw [hparse dir hdir, hpart]; rfl⟩)

/-- The address of a part of a place is that of a place. -/
theorem path_place (part : Part) : part.path (Path.place dir (front ++ [name])) =
    Path.place dir (front ++ [name ++ part.query.toList]) := by
  refine String.toList_injective ?_
  rw [path, String.toList_append, Path.toList_place (by simp), Path.toList_place (by simp),
    Path.trail_append, Path.trail_append]
  simp [Path.trail]

theorem areSteps_query (hsteps : Path.AreSteps (front ++ [name])) (part : Part) :
    Path.AreSteps (front ++ [name ++ part.query.toList]) := by
  refine Path.AreSteps.append hsteps.left fun step hstep => ?_
  obtain rfl := List.mem_singleton.1 hstep
  obtain ⟨selection, hselection⟩ := part.exists_query
  have hmark : '?' ∈ part.query.toList := by
    rw [hselection]
    exact List.mem_cons_self
  refine Path.isStep_of_mem (List.mem_append_right _ hmark) (by decide) ?_
  rw [List.mem_append, not_or]
  exact ⟨(hsteps name (by simp)).noSlash, part.slash_notMem_query⟩

theorem isMild_query (hmild : ∀ step ∈ front ++ [name], Json.IsMild step) (part : Part) :
    ∀ step ∈ front ++ [name ++ part.query.toList], Json.IsMild step := by
  intro step hstep
  rcases List.mem_append.1 hstep with hstep | hstep
  · exact hmild step (List.mem_append_left _ hstep)
  · obtain rfl := List.mem_singleton.1 hstep
    exact (hmild name (by simp)).append part.isPlain_query.isMild

/-- What is shown of the address of a part is a way below the directory. -/
theorem areSteps_shown (hsteps : Path.AreSteps (front ++ [name]))
    (hmild : ∀ step ∈ front ++ [name], Json.IsMild step) (part : Part) :
    Path.AreSteps (Path.shownSteps (front ++ [name ++ part.query.toList])) :=
  (part.areSteps_query hsteps).shownSteps (part.isMild_query hmild)

end Part

/-- A mild path has forward slashes only. -/
theorem Path.toPosix_of_isMild {path : String} (h : Json.IsMild path.toList) :
    Path.toPosix path = path :=
  Path.toPosix_of_notMem fun hback => (h _ hback).2 rfl

section Mild

variable (hmild : ∀ step ∈ steps, Json.IsMild step)
include hmild

theorem Path.isMild_trail : Json.IsMild (Path.trail steps) := by
  intro c hc
  obtain ⟨step, hstep, hc⟩ := List.mem_flatMap.1 hc
  rcases List.mem_cons.1 hc with rfl | hc
  · decide
  · exact hmild step hstep c hc

theorem Path.isMild_place (hdir : Path.IsOrdinary dir) (hsteps : steps ≠ []) :
    Json.IsMild (Path.place dir steps).toList := by
  rw [Path.toList_place hsteps]
  exact hdir.isPlain.isMild.append (Path.isMild_trail hmild)

/-- The path that is recorded of a file in the directory is mild, too. -/
theorem ComponentFile.isMild_recordedPath (hdir : Path.isAbsolute dir)
    (hsteps : Path.AreSteps steps) (hne : steps ≠ []) :
    Json.IsMild (ComponentFile.recordedPath (Path.place dir steps) dir).toList := by
  have hjoin : Json.IsMild (Text.join ['/'] steps) := fun c hc =>
    Path.isMild_trail hmild c (Path.slash_join_eq_trail hne ▸ List.mem_cons_of_mem _ hc)
  have hway : Json.IsMild (String.ofList (Path.Normal.toText ⟨false, steps⟩)).toList := by
    rw [String.toList_ofList, Path.Normal.toText, if_neg (by simp), if_neg (by simpa using hne)]
    exact hjoin
  rw [ComponentFile.recordedPath, Path.relativeTo?_place hdir hsteps, Option.getD_some,
    Path.toPosix_of_isMild hway]
  exact hway

end Mild

theorem eraseDups_map {α β : Type} [BEq α] [LawfulBEq α] [BEq β] [LawfulBEq β] {change : α → β}
    (items : List α)
    (h : ∀ item ∈ items, ∀ other ∈ items, change item = change other → item = other) :
    (items.map change).eraseDups = items.eraseDups.map change := by
  match items with
  | [] => rfl
  | item :: rest =>
    have hsubset : rest.filter (fun other => !other == item) ⊆ item :: rest := fun other hother =>
      List.mem_cons_of_mem item (List.mem_of_mem_filter hother)
    have hfilter : (rest.map change).filter (fun other => !other == change item) =
        (rest.filter fun other => !other == item).map change := by
      rw [List.filter_map]
      refine congrArg _ (List.filter_congr fun other hother => ?_)
      have hiff : change other = change item ↔ other = item :=
        ⟨h other (List.mem_cons_of_mem item hother) item List.mem_cons_self, congrArg change⟩
      rw [Function.comp_apply, Bool.eq_iff_iff]
      simp [hiff]
    rw [List.map_cons, List.eraseDups_cons, List.eraseDups_cons, hfilter, List.map_cons,
      eraseDups_map _ fun one hone other hother => h one (hsubset hone) other (hsubset hother)]
termination_by items.length
decreasing_by
  exact Nat.lt_succ_of_le (List.length_filter_le _ _)

/-- The ways from the directory to the places that the entry module of a file leads to. -/
def EntryModule.shownSteps (entry : EntryModule) (front : List (List Char)) (name : List Char) :
    List (List (List Char)) :=
  (entry.parts.map fun part => Path.shownSteps (front ++ [name ++ part.query.toList])).eraseDups

/-- The imports of the entry module of a file lead to places below the directory. -/
theorem EntryModule.imports_placed (hdir : Path.isAbsolute dir) (hordinary : Path.IsOrdinary dir)
    (hsteps : Path.AreSteps (front ++ [name])) (hmild : ∀ step ∈ front ++ [name], Json.IsMild step)
    {entry : EntryModule} (howner : entry.owner = Path.toPosix (Path.place dir (front ++ [name])))
    (hfile : entry.file = ComponentFile.recordedPath (Path.place dir (front ++ [name])) dir) :
    Scan.imports entry.contents .js =
      (entry.shownSteps front name).map fun steps => (Path.place dir steps, .statement) := by
  have hplace := Path.isMild_place hmild hordinary (by simp)
  rw [Path.toPosix_of_isMild hplace] at howner
  have hentry : entry.IsMild :=
    ⟨howner ▸ hplace, hfile ▸ ComponentFile.isMild_recordedPath hmild hdir hsteps (by simp)⟩
  have hshown (part : Part) : entry.shownPath part =
      (Path.place dir (Path.shownSteps (front ++ [name ++ part.query.toList]))).toList := by
    rw [EntryModule.shownPath, howner, Part.path_place, Path.shown_place hordinary (by simp)]
  have hall : ∀ steps ∈ entry.parts.map fun part =>
      Path.shownSteps (front ++ [name ++ part.query.toList]), Path.AreSteps steps := by
    intro steps hmem
    obtain ⟨part, -, rfl⟩ := List.mem_map.1 hmem
    exact part.areSteps_shown hsteps hmild
  -- what is shown twice leads to the same place twice
  have haddresses : (entry.parts.map entry.shownPath).eraseDups =
      (entry.shownSteps front name).map fun steps => (Path.place dir steps).toList := by
    rw [EntryModule.shownSteps, ← eraseDups_map _ fun one hone other hother heq =>
      Path.place_injective hdir (hall one hone) (hall other hother) (String.toList_injective heq),
      List.map_map]
    exact congrArg List.eraseDups (List.map_congr_left fun part _ => hshown part)
  rw [EntryModule.imports_eq hentry, haddresses, List.map_map]
  exact List.map_congr_left fun steps _ => by rw [Function.comp_apply, String.ofList_toList]

/-- They are places other than the directory itself. -/
theorem EntryModule.areSteps_of_mem_shownSteps (hsteps : Path.AreSteps (front ++ [name]))
    (hmild : ∀ step ∈ front ++ [name], Json.IsMild step) {entry : EntryModule}
    (h : steps ∈ entry.shownSteps front name) : Path.AreSteps steps ∧ steps ≠ [] := by
  obtain ⟨part, -, rfl⟩ := List.mem_map.1 (List.mem_eraseDups.1 h)
  exact ⟨part.areSteps_shown hsteps hmild, Path.shownSteps_ne_nil (by simp)⟩

end Place

/-- A component file is no style sheet. -/
theorem StyleSheet.not_isAddress_of_isFile {path : List Char} (h : ComponentFile.isFile path) :
    ¬ StyleSheet.isAddress path := by
  obtain ⟨stem, rfl⟩ := List.isSuffixOf_iff_suffix.1 h
  -- the last letters differ
  rw [StyleSheet.isAddress, Bool.or_eq_true, List.isSuffixOf_iff_suffix, List.isSuffixOf_iff_suffix]
  rintro (⟨front, heq⟩ | ⟨front, heq⟩)
  · have hlast := congrArg List.getLast? heq
    simp [ComponentFile.extension] at hlast
  · have hlast := congrArg List.getLast? heq
    simp [ComponentFile.extension] at hlast

end SfcBundler
