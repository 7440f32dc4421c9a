import SfcBundler.Component.EntryModule
import SfcBundler.Proofs.Scan.Lines

/-!
# What an entry module imports

The scanner finds in an entry module the parts of its component and nothing else, whatever the
paths in it look like, as long as they stand between quotes as they are.

## Main definitions

* `EntryModule.parts`: the parts of a component in the order of their imports
* `EntryModule.IsPlain`, `EntryModule.IsMild`: both paths of an entry module are plain, or mild
* `EntryModule.shownPath`: the address of a part as the text of an entry module shows it

## Main results

* `Part.path_injective`: different parts of a component have different addresses
* `EntryModule.specifiers_contents`: what the statements of an entry module name, one by one
* `EntryModule.imports_eq`: the imports of an entry module, as they are shown in it
* `EntryModule.imports_contents`: the imports of an entry module are the addresses of its parts
-/

namespace SfcBundler

theorem exists_of_mem_toDigits {base : Nat} (hbase : 1 < base) {n : Nat} {c : Char}
    (hc : c ∈ Nat.toDigits base n) : ∃ digit < base, c = digit.digitChar := by
  induction n using Nat.strongRecOn with
  | ind n ih =>
    -- the last digit is a remainder, and those before it are the digits of the quotient
    rw [Nat.toDigits_eq_if hbase] at hc
    split at hc
    · exact ⟨n, ‹_›, by simpa using hc⟩
    · rcases List.mem_append.1 hc with hc | hc
      · exact ih (n / base) (Nat.div_lt_self (by omega) hbase) hc
      · exact ⟨n % base, Nat.mod_lt n (by omega), by simpa using hc⟩

/-- Digits up to hexadecimal ones are plain. -/
theorem isPlain_toDigits {base : Nat} (hbase : 1 < base) (hle : base ≤ 16) (n : Nat) :
    Json.IsPlain (Nat.toDigits base n) := by
  intro c hc
  obtain ⟨digit, hdigit, rfl⟩ := exists_of_mem_toDigits hbase hc
  have hall : ∀ digit < 16, Json.IsPlain [Nat.digitChar digit] := by decide
  exact hall digit (by omega) _ List.mem_cons_self

namespace Part

theorem decimal_injective {one other : Nat} (h : Text.decimal one = Text.decimal other) :
    one = other := by
  have hdigits : Nat.toDigits 10 one = Nat.toDigits 10 other := String.ofList_injective h
  rw [← Nat.ofDigitChars_ten_toDigits (n := one), hdigits, Nat.ofDigitChars_ten_toDigits]

theorem query_script : script.query = "?type=script" := rfl

theorem query_template : template.query = "?type=template" := rfl

theorem query_style (index : Nat) :
    (style index).query = "?type=style&index=" ++ Text.decimal index := rfl

theorem query_injective {one other : Part} (h : one.query = other.query) : one = other := by
  match one, other with
  | script, script | template, template => rfl
  -- queries of one kind differ in the index alone, and those of two kinds in the kind
  | style i, style j =>
    rw [query_style, query_style, String.append_right_inj] at h
    rw [decimal_injective h]
  | script, template | template, script => exact absurd h (by decide)
  | style i, script | style i, template | script, style i | template, style i =>
    have htext := congrArg String.toList h
    simp [query_script, query_template, query_style] at htext

theorem path_injective {one other : Part} {owner : String} (h : one.path owner = other.path owner) :
    one = other :=
  query_injective ((String.append_right_inj owner).1 h)

theorem isPlain_query (part : Part) : Json.IsPlain part.query.toList := by
  match part with
  | script => decide
  | template => decide
  | style index =>
    rw [query_style, String.toList_append, Json.isPlain_append]
    exact ⟨by decide, by simpa [Text.decimal] using isPlain_toDigits (by decide) (by decide) index⟩

theorem isMild_path {owner : String} (h : Json.IsMild owner.toList) (part : Part) :
    Json.IsMild (part.path owner).toList := by
  rw [path, String.toList_append]
  exact h.append part.isPlain_query.isMild

theorem toList_path_ne_nil (part : Part) (owner : String) : (part.path owner).toList ≠ [] := by
  rw [path, String.toList_append]
  refine List.append_ne_nil_of_right_ne_nil _ ?_
  match part with
  | script => decide
  | template => decide
  | style index => simp [query_style]

end Part

namespace EntryModule

open Scan

/-- The parts of a component in the order in which its entry module imports them. -/
def parts (entry : EntryModule) : List Part :=
  (if entry.component.script.isSome then [.script] else []) ++
  (List.range entry.component.styles.length).map .style ++
  (if entry.component.template.isSome then [.template] else [])

/-- Both paths of an entry module stand between quotes as they are. -/
structure IsPlain (entry : EntryModule) : Prop where
  owner : Json.IsPlain entry.owner.toList
  file : Json.IsPlain entry.file.toList

/-- Neither path of an entry module holds a single quote or a backslash. -/
structure IsMild (entry : EntryModule) : Prop where
  owner : Json.IsMild entry.owner.toList
  file : Json.IsMild entry.file.toList

/-- The address of a part as the text of an entry module shows it. -/
def shownPath (entry : EntryModule) (part : Part) : List Char :=
  Json.shown (part.path entry.owner).toList

theorem IsPlain.isMild {entry : EntryModule} (h : entry.IsPlain) : entry.IsMild :=
  ⟨h.owner.isMild, h.file.isMild⟩

theorem IsPlain.shownPath_eq {entry : EntryModule} (h : entry.IsPlain) (part : Part) :
    entry.shownPath part = (part.path entry.owner).toList := by
  rw [shownPath, Part.path, String.toList_append]
  exact Json.shown_of_isPlain (Json.isPlain_append.2 ⟨h.owner, part.isPlain_query⟩)

/-- The text of statements, each on a line of its own. -/
def text (lines : List String) : List Char := lines.flatMap fun line => line.toList ++ ['\n']

theorem toList_contents (entry : EntryModule) : entry.contents.toList = text entry.lines := by
  simp [contents, text, String.toList_join, List.flatMap_map]

theorem text_append (front back : List String) : text (front ++ back) = text front ++ text back :=
  List.flatMap_append

theorem text_cons (line : String) (lines : List String) :
    text (line :: lines) = text [line] ++ text lines :=
  text_append [line] lines

/-- A statement that names a part gives what is shown of its address. -/
theorem reads_source {entry : EntryModule} (h : entry.IsMild) (part : Part)
    (keyword clause : String)
    (hkeyword : ∀ rest, afterKeyword? (keyword.toList ++ rest) = some rest)
    (hclause : clause.toList.all isClause) (hfrom : isFromClause clause.toList)
    (hbare : isBareCode (keyword.toList ++ clause.toList)) :
    Reads (text [keyword ++ clause ++ entry.source part ++ ";"])
      [entry.shownPath part] := by
  have hreads := reads_statement hkeyword (List.all_eq_true.1 hclause) hfrom hbare
    (part.toList_path_ne_nil entry.owner) (part.isMild_path h.owner)
  simpa [text, source, Json.printText, shownPath] using hreads

/-- A statement of bare code without keywords gives nothing. -/
theorem reads_code (code : String) (hkeyword : holdsKeyword (code.toList ++ [';']) = false)
    (hbare : isBareCode (code.toList ++ [';'])) : Reads (text [code ++ ";"]) [] := by
  have hreads := reads_of_isSilent (isSilent_code hkeyword) hbare
  simpa [text] using hreads

/-- A statement that sets something to a mild text gives nothing. -/
theorem reads_setting (front : String) {value : String} (hbare : isBareCode front.toList)
    (hkeyword : holdsKeyword (front.toList ++ ['\x22']) = false)
    (hmild : Json.IsMild value.toList) :
    Reads (text [front ++ Json.printText value ++ ";"]) [] := by
  have hreads := reads_literal hbare hkeyword hmild
  simpa [text, Json.printText] using hreads

theorem reads_scriptLine {entry : EntryModule} (h : entry.IsMild) :
    Reads (text [entry.scriptLine])
      ((if entry.component.script.isSome then [Part.script] else []).map entry.shownPath) := by
  rw [scriptLine]
  split
  · exact reads_source h .script "import" " script from "
      (fun _ => rfl) (by decide) (by decide) (by decide)
  · exact reads_code "const script = \x7b\x7d" (by decide) (by decide)

theorem reads_styleLines {entry : EntryModule} (h : entry.IsMild) :
    Reads (text entry.styleLines)
      (((List.range entry.component.styles.length).map Part.style).map entry.shownPath) := by
  rw [styleLines]
  induction List.range entry.component.styles.length with
  | nil => exact .nil
  | cons index rest ih =>
    have hreads := reads_source h (.style index) "import" " "
      (fun _ => rfl) (by decide) (by decide) (by decide)
    rw [List.map_cons, text_cons]
    exact hreads.append ih

theorem reads_templateLines {entry : EntryModule} (h : entry.IsMild) :
    Reads (text entry.templateLines)
      ((if entry.component.template.isSome then [Part.template] else []).map entry.shownPath) := by
  rw [templateLines]
  split
  · cases entry.serverRender with
    | false =>
      have hreads := reads_source h .template "import" " \x7b render \x7d from "
        (fun _ => rfl) (by decide) (by decide) (by decide)
      rw [text_cons]
      exact hreads.append (reads_code "script.render = render" (by decide) (by decide))
    | true =>
      have hreads := reads_source h .template "import" " \x7b ssrRender \x7d from "
        (fun _ => rfl) (by decide) (by decide) (by decide)
      rw [text_cons]
      exact hreads.append (reads_code "script.ssrRender = ssrRender" (by decide) (by decide))
  · exact .nil

theorem reads_recordLines {entry : EntryModule} (h : entry.IsMild) :
    Reads (text entry.recordLines) [] := by
  have hscope : Json.IsPlain entry.identity.scopeId.toList := by
    rw [Identity.scopeId, String.toList_append, Json.isPlain_append]
    refine ⟨by decide, ?_⟩
    simpa [Identity.hashId, Text.hex] using
      isPlain_toDigits (Nat.one_lt_two_pow (n := 4) (by decide)) (by decide)
        entry.identity.value.toNat
  have hscopeLine : Reads (text (if entry.component.hasScopedStyle then
      ["script.__scopeId = " ++ Json.printText entry.identity.scopeId ++ ";"] else [])) [] := by
    split
    · exact reads_setting "script.__scopeId = " (by decide) (by decide) hscope.isMild
    · exact .nil
  have hserverLine : Reads (text (if entry.serverRender then
      ["script.__ssrInlineRender = true;"] else [])) [] := by
    split
    · exact reads_code "script.__ssrInlineRender = true" (by decide) (by decide)
    · exact .nil
  rw [recordLines, text_append, text_append]
  exact ((reads_setting "script.__file = " (by decide) (by decide) h.file).append
    hscopeLine).append hserverLine

/-- The last statement begins with a keyword, but its clause is not one of an import. -/
theorem reads_default : Reads (text ["export default script;"]) [] := by
  have hsilent : IsSilent "export default script;".toList :=
    .cons (fun _ => rfl)
      (show IsSilent ("xport default script".toList ++ [';']) from isSilent_code (by decide))
  exact reads_of_isSilent hsilent (by decide)

theorem reads_exportLines {entry : EntryModule} (h : entry.IsMild) :
    Reads (text entry.exportLines)
      ((if entry.component.script.isSome then [Part.script] else []).map entry.shownPath) := by
  rw [exportLines, text_append]
  split
  · exact (reads_source h .script "export" " * from "
      (fun _ => rfl) (by decide) (by decide) (by decide)).append reads_default
  · exact Reads.nil.append reads_default

/-- What the statements of an entry module name, one by one: the script twice, as its exports are
passed on as well. -/
theorem specifiers_contents {entry : EntryModule} (h : entry.IsMild) :
    specifiers statementAt? true (blankComments true entry.contents.toList) =
      (entry.parts ++ if entry.component.script.isSome then [Part.script] else []).map
        entry.shownPath := by
  -- each group of statements is read on its own, in the order in which they are written
  have hreads := (reads_scriptLine h).append ((reads_styleLines h).append
    ((reads_templateLines h).append ((reads_recordLines h).append (reads_exportLines h))))
  simp only [← text_append] at hreads
  rw [toList_contents, lines, parts]
  simpa using hreads.specifiers_eq

theorem nodup_parts (entry : EntryModule) : entry.parts.Nodup := by
  have hstyles : ((List.range entry.component.styles.length).map Part.style).Nodup :=
    List.pairwise_map.2 (List.nodup_range.imp fun hne heq => hne (Part.style.inj heq))
  simp only [parts, List.nodup_append]
  refine ⟨⟨by split <;> simp, hstyles, ?_⟩, by split <;> simp, ?_⟩
  · intro part hpart other hother
    split at hpart <;> simp_all
    grind
  · intro part hpart other hother
    split at hother <;> simp_all
    grind

theorem script_mem_parts {entry : EntryModule} (h : entry.component.script.isSome) :
    Part.script ∈ entry.parts := by
  simp [parts, h]

theorem eraseDups_of_nodup {α : Type} [BEq α] [LawfulBEq α] {items : List α}
    (hnodup : items.Nodup) : items.eraseDups = items := by
  induction items with
  | nil => rfl
  | cons item rest ih =>
    obtain ⟨hitem, hrest⟩ := List.nodup_cons.1 hnodup
    -- nothing is taken out, as the item does not stand behind itself
    have hfilter : rest.filter (fun other => !other == item) = rest :=
      List.filter_eq_self.2 fun other hother => by
        have hne : other ≠ item := fun heq => hitem (heq ▸ hother)
        simpa using hne
    rw [List.eraseDups_cons, hfilter, ih hrest]

/-- What is written again behind a list counts for nothing. -/
theorem eraseDups_append_of_subset {α : Type} [BEq α] [LawfulBEq α] {front back : List α}
    (hsubset : ∀ item ∈ back, item ∈ front) : (front ++ back).eraseDups = front.eraseDups := by
  have hback : back.removeAll front = [] :=
    List.filter_eq_nil_iff.2 fun item hitem => by simp [hsubset item hitem]
  rw [List.eraseDups_append, hback, List.eraseDups_nil, List.append_nil]

/-- The imports of an entry module are what it shows of the addresses of the parts of its component,
each once. -/
theorem imports_eq {entry : EntryModule} (h : entry.IsMild) :
    Scan.imports entry.contents .js =
      (entry.parts.map entry.shownPath).eraseDups.map fun address =>
        (String.ofList address, ImportKind.statement) := by
  rw [imports, if_pos (show Loader.isScript .js = true from rfl), specifiers_contents h,
    List.map_append, eraseDups_append_of_subset]
  -- the script is the one part that is named twice
  intro address haddress
  split at haddress
  · obtain ⟨part, hpart, rfl⟩ := List.mem_map.1 haddress
    obtain rfl := List.mem_singleton.1 hpart
    exact List.mem_map.2 ⟨.script, script_mem_parts ‹_›, rfl⟩
  · simp at haddress

/-- Every part of the component is imported. -/
theorem mem_imports {entry : EntryModule} (h : entry.IsPlain) {part : Part}
    (hpart : part ∈ entry.parts) :
    (part.path entry.owner, ImportKind.statement) ∈ Scan.imports entry.contents .js := by
  have haddress : entry.shownPath part ∈ entry.parts.map entry.shownPath :=
    List.mem_map_of_mem hpart
  rw [imports_eq h.isMild]
  refine List.mem_map.2 ⟨_, List.mem_eraseDups.2 haddress, ?_⟩
  rw [h.shownPath_eq, String.ofList_toList]

/-- The imports of an entry module are the addresses of the parts of its component, each once:
the script, the styles in order, and the template. -/
theorem imports_contents (entry : EntryModule) (h : entry.IsPlain) :
    Scan.imports entry.contents .js =
        entry.parts.map (fun part => (part.path entry.owner, ImportKind.statement)) ∧
      (Scan.imports entry.contents .js).Nodup := by
  have haddresses : (entry.parts.map entry.shownPath).Nodup :=
    List.pairwise_map.2 (entry.nodup_parts.imp fun hne heq => by
      rw [h.shownPath_eq, h.shownPath_eq] at heq
      exact hne (Part.path_injective (String.toList_injective heq)))
  have himports := imports_eq h.isMild
  rw [eraseDups_of_nodup haddresses, List.map_map] at himports
  simp only [Function.comp_def, h.shownPath_eq, String.ofList_toList] at himports
  refine ⟨himports, ?_⟩
  rw [himports]
  exact List.pairwise_map.2 (entry.nodup_parts.imp fun hne heq =>
    hne (Part.path_injective (congrArg Prod.fst heq)))

/-- A component whose paths look like comments and imports. -/
def mimic : EntryModule where
  owner := "/* // import a from `b`.vue"
  file := "*/ export * from /*"
  identity := ⟨1⟩
  serverRender := true
  component :=
    { script := some { content := "" }
      template := some { code := "" }
      styles := [{ code := "" }, { code := "", isScoped := true }] }

/-- Nothing in the paths of `mimic` hides a part or is taken for an import. -/
theorem imports_mimic :
    mimic.IsPlain ∧ Scan.imports mimic.contents .js = [
      ("/* // import a from `b`.vue?type=script", .statement),
      ("/* // import a from `b`.vue?type=style&index=0", .statement),
      ("/* // import a from `b`.vue?type=style&index=1", .statement),
      ("/* // import a from `b`.vue?type=template", .statement)] := by
  have hplain : mimic.IsPlain := ⟨by decide, by decide⟩
  exact ⟨hplain, (imports_contents mimic hplain).1⟩

end EntryModule

end SfcBundler
