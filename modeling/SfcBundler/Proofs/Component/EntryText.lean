import SfcBundler.Proofs.Component.EntryImports
import SfcBundler.Proofs.Json.RoundTrip

/-!
# The text of an entry module

An entry module is read back from its text. Each of its statements is a line, and a line is fixed
text with at most one literal in it, which begins at the first double quote. Whatever stands in the
paths of the module is escaped in the literals: it makes no lines, and it ends no literal.

## Main definitions

* `EntryModule.Statement`, with the text that is `written` for it and how that is `read?`
* `EntryModule.statements`: the statements of an entry module
* `EntryModule.Agrees`: two entry modules are the same, as far as they are written down

## Main results

* `EntryModule.Statement.read?_written`: each statement is read back, with its literal
* `EntryModule.fields_contents`: the lines of an entry module are its statements
* `EntryModule.contents_faithful`: an entry module is determined by its text
-/

namespace SfcBundler

/-! ### Numbers -/

theorem toDigits_injective {base : Nat} (hbase : 1 < base) (hle : base ≤ 16) {one other : Nat}
    (h : Nat.toDigits base one = Nat.toDigits base other) : one = other := by
  have hdigit : ∀ digit < 16, ∀ other < 16, Nat.digitChar digit = Nat.digitChar other →
      digit = other := by decide
  -- the last digits are compared, and the quotients by induction
  induction one using Nat.strongRecOn generalizing other with
  | ind one ih =>
    rw [Nat.toDigits_eq_if (n := one) hbase, Nat.toDigits_eq_if (n := other) hbase] at h
    split at h <;> split at h
    · exact hdigit one (by omega) other (by omega) (List.singleton_inj.1 h)
    · have hlength := congrArg List.length h
      simp at hlength
    · have hlength := congrArg List.length h
      simp at hlength
    · obtain ⟨hquotient, hlast⟩ := List.append_inj' h rfl
      have hmod := Nat.mod_lt one (show base > 0 by omega)
      have hmod' := Nat.mod_lt other (show base > 0 by omega)
      have hdiv := ih (one / base) (Nat.div_lt_self (by omega) hbase) hquotient
      have hrem := hdigit (one % base) (by omega) (other % base) (by omega)
        (List.singleton_inj.1 hlast)
      rw [← Nat.div_add_mod one base, hdiv, hrem, Nat.div_add_mod]

theorem Identity.scopeId_injective {one other : Identity} (h : one.scopeId = other.scopeId) :
    one = other := by
  have hdigits : Nat.toDigits 16 one.value.toNat = Nat.toDigits 16 other.value.toNat :=
    String.ofList_injective ((String.append_right_inj "data-v-").1 h)
  have hvalue := UInt64.toNat_inj.1 (toDigits_injective (by decide) (by decide) hdigits)
  rw [← (show Identity.mk one.value = one from rfl), hvalue]

theorem Json.parseText_quote (text : String) :
    Json.parseText (Json.quote text.toList) = .ok (.string text) := by
  have hwritable : Json.Writable 127 (.string text) := .string text
  have hparse := Json.parse_print hwritable
  simpa [Json.parse, Json.print, Json.write, Json.writeWith] using hparse

namespace EntryModule

/-! ### Statements -/

/-- A statement of an entry module. -/
inductive Statement where
  | importScript (source : String)
  | emptyScript
  | importStyle (source : String)
  | importRender (serverRender : Bool) (source : String)
  | setRender (serverRender : Bool)
  | recordFile (file : String)
  | recordScope (scope : String)
  | markServer
  | exportAll (source : String)
  | exportDefault
deriving Repr, DecidableEq

namespace Statement

/-- The fixed text of a statement. -/
def front : Statement → String
  | importScript _ => "import script from "
  | emptyScript => "const script = \x7b\x7d"
  | importStyle _ => "import "
  | importRender false _ => "import \x7b render \x7d from "
  | importRender true _ => "import \x7b ssrRender \x7d from "
  | setRender false => "script.render = render"
  | setRender true => "script.ssrRender = ssrRender"
  | recordFile _ => "script.__file = "
  | recordScope _ => "script.__scopeId = "
  | markServer => "script.__ssrInlineRender = true"
  | exportAll _ => "export * from "
  | exportDefault => "export default script"

/-- The text that a statement quotes, if it does. -/
def literal? : Statement → Option String
  | importScript literal | importStyle literal | importRender _ literal | recordFile literal
  | recordScope literal | exportAll literal => some literal
  | _ => none

/-- The text of a statement. -/
def written (statement : Statement) : List Char :=
  statement.front.toList ++
    (statement.literal?.elim [] fun literal => Json.quote literal.toList) ++ [';']

/-- The statement with a fixed text and a literal. -/
def ofFront? (front : String) (literal : Option String) : Option Statement :=
  match front, literal with
  | "import script from ", some source => some (importScript source)
  | "const script = \x7b\x7d", none => some emptyScript
  | "import ", some source => some (importStyle source)
  | "import \x7b render \x7d from ", some source => some (importRender false source)
  | "import \x7b ssrRender \x7d from ", some source => some (importRender true source)
  | "script.render = render", none => some (setRender false)
  | "script.ssrRender = ssrRender", none => some (setRender true)
  | "script.__file = ", some file => some (recordFile file)
  | "script.__scopeId = ", some scope => some (recordScope scope)
  | "script.__ssrInlineRender = true", none => some markServer
  | "export * from ", some source => some (exportAll source)
  | "export default script", none => some exportDefault
  | _, _ => none

/-- The statement of a line that ends in a semicolon. What stands from the first double quote on
must be a JSON string. -/
def read? (line : List Char) : Option Statement :=
  if line.getLast? = some ';' then
    match Text.cut '\x22' line.dropLast with
    | none => ofFront? (String.ofList line.dropLast) none
    | some (front, back) =>
      match Json.parseText ('\x22' :: back) with
      | .ok (.string literal) => ofFront? (String.ofList front) (some literal)
      | _ => none
  else none

theorem ofFront?_front (statement : Statement) :
    ofFront? statement.front statement.literal? = some statement := by
  match statement with
  | importScript _ | emptyScript | importStyle _ | importRender false _ | importRender true _
  | setRender false | setRender true | recordFile _ | recordScope _ | markServer | exportAll _
  | exportDefault => rfl

/-- The fixed text of a statement has no double quotes and no line ends. -/
theorem isPlain_front (statement : Statement) : Json.IsPlain statement.front.toList := by
  cases statement with
  | importRender serverRender | setRender serverRender =>
    cases serverRender <;> (simp only [front]; decide)
  | _ => simp only [front]; decide

/-- A statement is a line. -/
theorem isLine_written (statement : Statement) : Json.IsLine statement.written := by
  rw [written, Json.isLine_append, Json.isLine_append]
  refine ⟨⟨statement.isPlain_front.isLine, ?_⟩, Json.isLine_cons.2 ⟨by decide, Json.isLine_nil⟩⟩
  cases statement.literal? with
  | none => exact Json.isLine_nil
  | some literal => exact Json.isLine_quote literal.toList

theorem newline_notMem_written (statement : Statement) : '\n' ∉ statement.written := fun hline =>
  absurd (statement.isLine_written '\n' hline) (by decide)

/-- Each statement is read back, with the literal that it quotes. -/
theorem read?_written (statement : Statement) : read? statement.written = some statement := by
  have hback := statement.ofFront?_front
  rw [read?, written, if_pos List.getLast?_concat, List.dropLast_concat]
  cases hliteral : statement.literal? with
  | none =>
    rw [hliteral] at hback
    have hcut : Text.cut '\x22' statement.front.toList = none :=
      Text.cut_eq_none.2 statement.isPlain_front.double_notMem
    simpa [hcut] using hback
  | some literal =>
    rw [hliteral] at hback
    have hquote := Json.parseText_quote literal
    rw [Json.quote_eq_inner, List.cons_append] at hquote
    -- the fixed text has no quote, so the first one opens the literal
    have hcut : Text.cut '\x22' (statement.front.toList ++
        '\x22' :: (Json.inner literal.toList ++ ['\x22'])) =
          some (statement.front.toList, Json.inner literal.toList ++ ['\x22']) :=
      Text.cut_append statement.isPlain_front.double_notMem _
    simpa [Json.quote_eq_inner, hcut, hquote] using hback

theorem written_injective {one other : Statement} (h : one.written = other.written) :
    one = other := by
  have hread := one.read?_written
  rw [h, other.read?_written] at hread
  exact (Option.some.inj hread).symm

end Statement

/-! ### Entry modules -/

/-- The statement that binds the script, or an empty object in its place. -/
def scriptStatement (entry : EntryModule) : Statement :=
  if entry.component.script.isSome then .importScript (Part.script.path entry.owner)
  else .emptyScript

/-- The imports of the styles, in order. -/
def styleStatements (entry : EntryModule) : List Statement :=
  (List.range entry.component.styles.length).map fun index =>
    .importStyle ((Part.style index).path entry.owner)

/-- The import of the render function, and its place in the script. -/
def templateStatements (entry : EntryModule) : List Statement :=
  if entry.component.template.isSome then
    [.importRender entry.serverRender (Part.template.path entry.owner),
      .setRender entry.serverRender]
  else []

/-- What is recorded of the component. -/
def recordStatements (entry : EntryModule) : List Statement :=
  [.recordFile entry.file] ++
    (if entry.component.hasScopedStyle then [.recordScope entry.identity.scopeId] else []) ++
    (if entry.serverRender then [.markServer] else [])

/-- The exports. -/
def exportStatements (entry : EntryModule) : List Statement :=
  (if entry.component.script.isSome then [.exportAll (Part.script.path entry.owner)] else []) ++
    [.exportDefault]

/-- The statements of an entry module. -/
def statements (entry : EntryModule) : List Statement :=
  entry.scriptStatement :: entry.styleStatements ++ entry.templateStatements ++
    entry.recordStatements ++ entry.exportStatements

@[simp]
theorem toList_printText (text : String) :
    (Json.printText text).toList = Json.quote text.toList := by
  rw [Json.printText, String.toList_ofList]

theorem toList_scriptLine (entry : EntryModule) :
    entry.scriptLine.toList = entry.scriptStatement.written := by
  rw [scriptLine, scriptStatement]
  split
  · simp [source, Statement.written, Statement.front, Statement.literal?]
  · rfl

theorem map_styleLines (entry : EntryModule) :
    entry.styleLines.map String.toList = entry.styleStatements.map Statement.written := by
  rw [styleLines, styleStatements, List.map_map, List.map_map]
  refine List.map_congr_left fun index _ => ?_
  simp [source, Statement.written, Statement.front, Statement.literal?]

theorem map_templateLines (entry : EntryModule) :
    entry.templateLines.map String.toList = entry.templateStatements.map Statement.written := by
  rw [templateLines, templateStatements]
  split
  · cases entry.serverRender <;>
      simp [source, renderName, Statement.written, Statement.front, Statement.literal?]
  · rfl

theorem map_recordLines (entry : EntryModule) :
    entry.recordLines.map String.toList = entry.recordStatements.map Statement.written := by
  have hfile : ("script.__file = " ++ Json.printText entry.file ++ ";").toList =
      (Statement.recordFile entry.file).written := by
    simp [Statement.written, Statement.front, Statement.literal?]
  have hscope : ("script.__scopeId = " ++ Json.printText entry.identity.scopeId ++ ";").toList =
      (Statement.recordScope entry.identity.scopeId).written := by
    simp [Statement.written, Statement.front, Statement.literal?]
  have hserver : "script.__ssrInlineRender = true;".toList = Statement.markServer.written := rfl
  simp only [recordLines, recordStatements, List.map_append, apply_ite (List.map _), List.map_cons,
    List.map_nil, hfile, hscope, hserver]

theorem map_exportLines (entry : EntryModule) :
    entry.exportLines.map String.toList = entry.exportStatements.map Statement.written := by
  rw [exportLines, exportStatements]
  split
  · simp [source, Statement.written, Statement.front, Statement.literal?]
  · rfl

/-- The lines of an entry module are its statements as they are written. -/
theorem map_lines (entry : EntryModule) :
    entry.lines.map String.toList = entry.statements.map Statement.written := by
  simp only [lines, statements, List.cons_append, List.map_cons, List.map_append,
    toList_scriptLine, map_styleLines, map_templateLines, map_recordLines, map_exportLines]

theorem toList_contents_eq (entry : EntryModule) : entry.contents.toList =
    (entry.statements.map Statement.written).flatMap (· ++ ['\n']) := by
  rw [toList_contents, text, ← map_lines, List.flatMap_map]

/-- Each statement is a line, and there are no other lines. -/
theorem fields_contents (entry : EntryModule) :
    Text.fields '\n' entry.contents.toList = entry.statements.map Statement.written ++ [[]] := by
  rw [toList_contents_eq]
  refine Text.fields_lines fun line hline => ?_
  obtain ⟨statement, -, rfl⟩ := List.mem_map.1 hline
  exact statement.newline_notMem_written

/-! ### What the text determines -/

/-- The kind of part that a statement imports, and where from. -/
def Statement.imported? : Statement → Option (PartKind × String)
  | importScript source => some (.script, source)
  | importStyle source => some (.style, source)
  | importRender _ source => some (.template, source)
  | _ => none

/-- The parts of a component are imported in order. -/
theorem filterMap_imported? (entry : EntryModule) :
    entry.statements.filterMap Statement.imported? =
      entry.parts.map fun part => (part.kind, part.path entry.owner) := by
  -- the statements of each kind of parts import the parts of that kind, and the others import none
  have hscript : [entry.scriptStatement].filterMap Statement.imported? =
      (if entry.component.script.isSome then [Part.script] else []).map fun part =>
        (part.kind, part.path entry.owner) := by
    rw [scriptStatement]
    split <;> rfl
  have hstyles : entry.styleStatements.filterMap Statement.imported? =
      ((List.range entry.component.styles.length).map Part.style).map fun part =>
        (part.kind, part.path entry.owner) := by
    rw [styleStatements, List.filterMap_map, List.map_map, ← List.filterMap_eq_map]
    rfl
  have htemplate : entry.templateStatements.filterMap Statement.imported? =
      (if entry.component.template.isSome then [Part.template] else []).map fun part =>
        (part.kind, part.path entry.owner) := by
    rw [templateStatements]
    split <;> rfl
  have hrecord : entry.recordStatements.filterMap Statement.imported? = [] := by
    rw [recordStatements]
    split <;> split <;> rfl
  have hexport : entry.exportStatements.filterMap Statement.imported? = [] := by
    rw [exportStatements]
    split <;> rfl
  rw [statements, ← List.singleton_append]
  simp only [List.filterMap_append, hscript, hstyles, htemplate, hrecord, hexport,
    List.append_nil, parts, List.map_append]

theorem markServer_mem_statements (entry : EntryModule) :
    .markServer ∈ entry.statements ↔ entry.serverRender := by
  simp [statements, scriptStatement, styleStatements, templateStatements, recordStatements,
    exportStatements, eq_ite_iff]

theorem recordFile_mem_statements (entry : EntryModule) (file : String) :
    .recordFile file ∈ entry.statements ↔ file = entry.file := by
  simp [statements, scriptStatement, styleStatements, templateStatements, recordStatements,
    exportStatements, eq_ite_iff]

theorem recordScope_mem_statements (entry : EntryModule) (scope : String) :
    .recordScope scope ∈ entry.statements ↔
      entry.component.hasScopedStyle ∧ scope = entry.identity.scopeId := by
  simp [statements, scriptStatement, styleStatements, templateStatements, recordStatements,
    exportStatements, eq_ite_iff]

theorem map_kind_parts (entry : EntryModule) : entry.parts.map Part.kind =
    List.replicate entry.component.script.isSome.toNat .script ++
      List.replicate entry.component.styles.length .style ++
      List.replicate entry.component.template.isSome.toNat .template := by
  have hstyles : ((List.range entry.component.styles.length).map Part.style).map Part.kind =
      List.replicate entry.component.styles.length .style := by
    rw [List.map_map]
    exact List.eq_replicate_iff.2 ⟨by simp, by simp [Part.kind]⟩
  rw [parts, List.map_append, List.map_append, hstyles]
  cases entry.component.script.isSome <;> cases entry.component.template.isSome <;> rfl

/-- Two entry modules are the same, as far as they are written down: the identity only where a style
is scoped, and the path of the component only where there is a part to import. -/
structure Agrees (one other : EntryModule) : Prop where
  script : one.component.script.isSome = other.component.script.isSome
  styles : one.component.styles.length = other.component.styles.length
  template : one.component.template.isSome = other.component.template.isSome
  serverRender : one.serverRender = other.serverRender
  file : one.file = other.file
  hasScopedStyle : one.component.hasScopedStyle = other.component.hasScopedStyle
  identity : one.component.hasScopedStyle → one.identity = other.identity
  owner : one.parts ≠ [] → one.owner = other.owner

/-- Entry modules that import from the same places have the same parts. -/
theorem parts_of_imports_eq {one other : EntryModule}
    (h : one.parts.map (fun part => (part.kind, part.path one.owner)) =
      other.parts.map fun part => (part.kind, part.path other.owner)) :
    one.component.script.isSome = other.component.script.isSome ∧
      one.component.styles.length = other.component.styles.length ∧
      one.component.template.isSome = other.component.template.isSome := by
  have hkinds : one.parts.map Part.kind = other.parts.map Part.kind := by
    simpa [Function.comp_def] using congrArg (List.map Prod.fst) h
  -- the kinds are counted
  have hcount (kind : PartKind) := congrArg (List.count kind) hkinds
  simp only [map_kind_parts, List.count_append, List.count_replicate] at hcount
  have hscript : one.component.script.isSome.toNat = other.component.script.isSome.toNat := by
    simpa using hcount .script
  have hstyles : one.component.styles.length = other.component.styles.length := by
    simpa using hcount .style
  have htemplate : one.component.template.isSome.toNat =
      other.component.template.isSome.toNat := by
    simpa using hcount .template
  have hinjective : ∀ one other : Bool, one.toNat = other.toNat → one = other := by decide
  exact ⟨hinjective _ _ hscript, hstyles, hinjective _ _ htemplate⟩

/-- Entry modules with the same statements agree. -/
theorem agrees_of_statements_eq {one other : EntryModule} (h : one.statements = other.statements) :
    one.Agrees other := by
  have himports : one.parts.map (fun part => (part.kind, part.path one.owner)) =
      other.parts.map fun part => (part.kind, part.path other.owner) := by
    rw [← filterMap_imported?, h, filterMap_imported?]
  have hscopes (scope : String) : one.component.hasScopedStyle ∧ scope = one.identity.scopeId ↔
      other.component.hasScopedStyle ∧ scope = other.identity.scopeId := by
    rw [← recordScope_mem_statements, h, recordScope_mem_statements]
  obtain ⟨hscript, hstyles, htemplate⟩ := parts_of_imports_eq himports
  have hparts : one.parts = other.parts := by
    simp only [parts, hscript, hstyles, htemplate]
  refine ⟨hscript, hstyles, htemplate, ?_, ?_, ?_, fun hscoped => ?_, fun hne => ?_⟩
  · rw [Bool.eq_iff_iff, ← markServer_mem_statements, h, markServer_mem_statements]
  · rw [← recordFile_mem_statements, ← h, recordFile_mem_statements]
  · rw [Bool.eq_iff_iff]
    exact ⟨fun hscoped => ((hscopes _).1 ⟨hscoped, rfl⟩).1,
      fun hscoped => ((hscopes _).2 ⟨hscoped, rfl⟩).1⟩
  · exact Identity.scopeId_injective ((hscopes _).1 ⟨hscoped, rfl⟩).2
  · -- an address is the owner with a query that the part alone determines
    obtain ⟨part, hpart⟩ := List.exists_mem_of_ne_nil _ hne
    rw [← hparts, List.map_inj_left] at himports
    exact (String.append_left_inj part.query).1 (Prod.mk.inj (himports part hpart)).2

/-- Entry modules that agree have the same statements. -/
theorem statements_eq_of_agrees {one other : EntryModule} (h : one.Agrees other) :
    one.statements = other.statements := by
  have hrecord : one.recordStatements = other.recordStatements := by
    rw [recordStatements, recordStatements, ← h.file, ← h.serverRender, ← h.hasScopedStyle]
    split
    · rw [h.identity ‹_›]
    · rfl
  by_cases hparts : one.parts = []
  · -- without parts the path of the component is nowhere in the module
    have hnone : one.component.script.isSome = false ∧ one.component.styles.length = 0 ∧
        one.component.template.isSome = false := by
      simpa [parts] using hparts
    obtain ⟨hscript, hstyles, htemplate⟩ := hnone
    simp only [statements, hrecord, scriptStatement, styleStatements, templateStatements,
      exportStatements, ← h.script, ← h.styles, ← h.template, hscript, hstyles, htemplate,
      Bool.false_eq_true, if_false, List.range_zero, List.map_nil]
  · simp only [statements, hrecord, scriptStatement, styleStatements, templateStatements,
      exportStatements, h.owner hparts, h.script, h.styles, h.template, h.serverRender]

/-- Entry modules have the same text exactly where they have the same statements. -/
theorem contents_eq_iff_statements_eq {one other : EntryModule} :
    one.contents = other.contents ↔ one.statements = other.statements := by
  constructor
  · intro h
    have hfields := one.fields_contents
    rw [h, other.fields_contents] at hfields
    have hlines := List.append_cancel_right hfields
    exact ((List.map_injective_iff.2 fun _ _ => Statement.written_injective) hlines).symm
  · intro h
    refine String.toList_injective ?_
    rw [toList_contents_eq, toList_contents_eq, h]

/-- An entry module that can be read back from its text: its lines are its statements, none of them
holds a control, each is read with the text that it quotes, and another entry module has the same
text exactly where it agrees with this one. -/
structure IsFaithful (entry : EntryModule) : Prop where
  lines : Text.fields '\n' entry.contents.toList =
    entry.statements.map Statement.written ++ [[]]
  isLine : ∀ statement ∈ entry.statements, Json.IsLine statement.written
  reads : ∀ statement ∈ entry.statements, Statement.read? statement.written = some statement
  same : ∀ other, entry.contents = other.contents ↔ entry.Agrees other

/-- Whatever its paths are, an entry module can be read back from its text. -/
theorem contents_faithful (entry : EntryModule) : entry.IsFaithful where
  lines := entry.fields_contents
  isLine statement _ := statement.isLine_written
  reads statement _ := statement.read?_written
  same other := by
    rw [contents_eq_iff_statements_eq]
    exact ⟨agrees_of_statements_eq, statements_eq_of_agrees⟩

/-- A path that would end its literal and begin a line of its own is one literal. -/
example : (Statement.recordFile "\x22;\nexport \\").written =
    "script.__file = \"\\\";\\nexport \\\\\";".toList := by decide

end EntryModule

end SfcBundler
