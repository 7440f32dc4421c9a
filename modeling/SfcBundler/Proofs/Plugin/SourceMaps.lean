import SfcBundler.Proofs.Plugin.Loads
import SfcBundler.Proofs.Scan.Tail
import SfcBundler.Proofs.Text.Base64

/-!
# Source maps inside of scripts

A source map is written behind a script, as a comment in base 64. It can be got back from there,
whatever the script holds: base 64 has no line ends, so the last line that begins like such a
comment is the one that was added. And since the comment has no quotes, it neither gives the script
an import nor takes one from it, even where the script ends inside of a literal or of a comment.

## Main definitions

* `ComponentFile.Carries`: what a served script has to do with the script block and its source map

## Main results

* `ComponentFile.cutLast?_sourceMapComment`: script and source map are found again
* `ComponentFile.imports_sourceMapComment`: the comment does not change the imports
* `ComponentFile.loadScript_carries`: a script block is served with its source map
-/

namespace SfcBundler

theorem isScript_loaderOfLang (lang : Option String) : (loaderOfLang lang).isScript := by
  unfold loaderOfLang
  split <;> rfl

namespace ComponentFile

/-! ### The comment -/

theorem toList_sourceMapComment (sourceMap : Json) : (sourceMapComment sourceMap).toList =
    sourceMapPrefix.toList ++ Base64.encode (Utf8.encode sourceMap.write) := by
  rw [sourceMapComment, String.toList_append, String.toList_ofList]

theorem head?_sourceMapPrefix : sourceMapPrefix.toList.head? = some '\n' := rfl

/-- Base 64 has neither line ends nor quotes. -/
theorem isSign_ne {c : Char} (h : Base64.isSign c) : c ≠ '\n' ∧ Scan.isQuote c = false := by
  constructor
  · rintro rfl
    exact absurd h (by decide)
  · by_contra hquote
    simp only [Scan.isQuote, Bool.not_eq_false, Bool.or_eq_true, beq_iff_eq] at hquote
    rcases hquote with rfl | rfl <;> exact absurd h (by decide)

theorem sourceMapComment_ne (sourceMap : Json) : sourceMapComment sourceMap ≠ "" := by
  intro hnil
  have htext := congrArg String.toList hnil
  rw [toList_sourceMapComment] at htext
  cases htext

/-- A script and the digits of its source map are found again around the last prefix. -/
theorem cutLast?_sourceMapComment (content : List Char) (sourceMap : Json) :
    Text.cutLast? sourceMapPrefix.toList (content ++ (sourceMapComment sourceMap).toList) =
      some (content, Base64.encode (Utf8.encode sourceMap.write)) := by
  rw [toList_sourceMapComment]
  refine Text.cutLast?_append head?_sourceMapPrefix (fun hline => ?_) content
  exact (isSign_ne (List.all_eq_true.1 (Base64.all_isSign_encode _) _ hline)).1 rfl

theorem isQuote_of_mem_sourceMapComment (sourceMap : Json) :
    ∀ c ∈ (sourceMapComment sourceMap).toList, Scan.isQuote c = false := by
  have hopening : sourceMapPrefix.toList.all (!Scan.isQuote ·) := by decide
  rw [toList_sourceMapComment]
  refine List.forall_mem_append.2 ⟨fun c hc => ?_, fun c hc => ?_⟩
  · simpa using List.all_eq_true.1 hopening c hc
  · exact (isSign_ne (List.all_eq_true.1 (Base64.all_isSign_encode _) c hc)).2

/-- The comment of a source map does not change what a script imports. -/
theorem imports_sourceMapComment {loader : Loader} (hloader : loader.isScript) (content : String)
    (sourceMap : Json) : Scan.imports (content ++ sourceMapComment sourceMap) loader =
      Scan.imports content loader := by
  refine Scan.imports_append hloader (fun c hc => ?_)
    (isQuote_of_mem_sourceMapComment sourceMap) content
  have hhead : (sourceMapComment sourceMap).toList.head? = some '\n' := by
    rw [toList_sourceMapComment, List.head?_append, head?_sourceMapPrefix]
    rfl
  rw [hhead] at hc
  cases hc
  decide

/-! ### Served scripts -/

/-- A script is served unchanged exactly where no source map is wanted or there is none. Otherwise
the script stands in front of the last prefix, and the source map behind it. The imports are those
of the script. -/
structure Carries (mode : SourceMapMode) (script : ScriptPart) (contents : String) : Prop where
  unchanged_iff : contents = script.content ↔ mode.isEnabled = false ∨ script.sourceMap = none
  recovered : ∀ sourceMap, mode.isEnabled → script.sourceMap = some sourceMap → ∃ digits,
    Text.cutLast? sourceMapPrefix.toList contents.toList = some (script.content.toList, digits) ∧
      Base64.decode? digits = some (Utf8.encode sourceMap.write)
  imports_eq : Scan.imports contents script.loader = Scan.imports script.content script.loader

theorem carries_scriptContents (mode : SourceMapMode) (script : ScriptPart) :
    Carries mode script (scriptContents script mode) := by
  cases hmap : script.sourceMap with
  | none =>
    have hcontents : scriptContents script mode = script.content := by rw [scriptContents, hmap]
    rw [hcontents]
    exact ⟨by simp [hmap], fun _ _ h => by simp [hmap] at h, rfl⟩
  | some sourceMap =>
    -- a map that there is becomes a comment only where maps are wanted
    by_cases henabled : mode.isEnabled
    · have hcontents : scriptContents script mode =
          script.content ++ sourceMapComment sourceMap := by
        rw [scriptContents, hmap]
        exact if_pos henabled
      rw [hcontents]
      refine ⟨by simp [hmap, henabled, sourceMapComment_ne], fun other _ hother => ?_,
        imports_sourceMapComment (isScript_loaderOfLang script.lang) _ _⟩
      obtain rfl := Option.some.inj (hmap.symm.trans hother)
      refine ⟨_, ?_, Base64.decode?_encode _⟩
      rw [String.toList_append, cutLast?_sourceMapComment]
    · have hcontents : scriptContents script mode = script.content := by
        rw [scriptContents, hmap]
        exact if_neg henabled
      rw [hcontents]
      exact ⟨by simp [henabled], fun _ h => absurd h henabled, rfl⟩

variable {args : LoadArgs} {data : ComponentData} {script : ScriptPart}

/-- A script block is served with its source map. -/
theorem loadScript_carries (mode : SourceMapMode) (hdata : args.data = some (.part data .script))
    (hscript : data.component.script = some script) : ∃ contents,
      loadScript mode args = .ok (partModule data contents script.loader) ∧
        Carries mode script contents := by
  refine ⟨scriptContents script mode, ?_, carries_scriptContents mode script⟩
  have hpart : partOf .script args = .ok (data, .script) := partOf_eq_ok.2 ⟨hdata, rfl⟩
  rw [loadScript, hpart]
  dsimp only [bind, Except.bind]
  rw [hscript]
  rfl

/-- A script that ends inside of a template literal, behind a comment that looks like a source
map. -/
def unfinished : ScriptPart where
  content := "import a from 'a';" ++ sourceMapPrefix ++ "e30=\nexport default \x60import 'b';"
  lang := some "tsx"
  sourceMap := some (.object [("version", .number (.integer 3))])

/-- A component with that script. -/
def draft : ComponentData := ⟨"/src/Draft.vue", ⟨7⟩, { script := some unfinished }⟩

/-- The source map that is found behind the script is its own. -/
theorem loadScript_draft : draft.component.script = some unfinished ∧ ∃ contents,
    loadScript .linked ⟨"/src/Draft.vue?type=script", "sfc-script", some (.part draft .script)⟩ =
      .ok (partModule draft contents .tsx) ∧ Carries .linked unfinished contents := by
  have hscript : draft.component.script = some unfinished := rfl
  exact ⟨hscript, loadScript_carries .linked rfl hscript⟩

end ComponentFile

end SfcBundler
