import SfcBundler.Proofs.Command.Handover
import SfcBundler.Proofs.Json.RoundTrip

/-!
# Output for machines

The report of a build for machines is one line for each module, warning and error, and one for the
summary. Whatever texts there are in the messages and modules, whoever reads the lines gets back
what was reported, and the exit code agrees with them.

## Main definitions

* `Report.Record`: what one line says
* `Report.read?`: a report read back, line by line
* `Report.records`: what is reported of a build
* `Command.SingleBuild`: a build of a configuration that comes to its end
* `Command.IsFaithful`: an outcome that tells a build as it was

## Main results

* `Report.read?_text_build`: the report of a build read back
* `Command.isFaithful_of_singleBuild`: the outcome of a build is faithful
-/

namespace SfcBundler

/-- The severity with a name. -/
def Severity.ofName? (text : String) : Option Severity := [error, warning].find? (·.name = text)

/-- Counts that fit a machine word of 64 bits. -/
structure BuildSummary.Fits (counts : BuildSummary) : Prop where
  entries : counts.entries < 2 ^ 64
  modules : counts.modules < 2 ^ 64
  errors : counts.errors < 2 ^ 64
  warnings : counts.warnings < 2 ^ 64
  milliseconds : counts.milliseconds < 2 ^ 64

namespace Report

/-- What a line of a report says. -/
inductive Record where
  | module (space path : String) (loader : Loader) (contents : String)
  | message (severity : Severity) (file space plugin : Option String) (text : String)
  | summary (counts : BuildSummary)
deriving Repr, DecidableEq

namespace Record

/-- What is said of a module. -/
def ofModule (module : OutputModule) : Record :=
  .module module.space module.path module.loader module.contents

/-- What is said of a message. -/
def ofMessage (severity : Severity) (message : Message) : Record :=
  .message severity message.file? (message.location.map (·.space)) message.plugin message.text

/-- Whether a line is about an error. -/
def isError : Record → Bool
  | message .error .. => true
  | _ => false

/-- Whether a line is about a warning. -/
def isWarning : Record → Bool
  | message .warning .. => true
  | _ => false

@[simp]
theorem isError_ofModule (module : OutputModule) : (ofModule module).isError = false := rfl

@[simp]
theorem isError_ofMessage (severity : Severity) (message : Message) :
    (ofMessage severity message).isError = decide (severity = .error) := by
  cases severity <;> rfl

@[simp]
theorem isError_summary (counts : BuildSummary) : (summary counts).isError = false := rfl

@[simp]
theorem isWarning_ofModule (module : OutputModule) : (ofModule module).isWarning = false := rfl

@[simp]
theorem isWarning_ofMessage (severity : Severity) (message : Message) :
    (ofMessage severity message).isWarning = decide (severity = .warning) := by
  cases severity <;> rfl

@[simp]
theorem isWarning_summary (counts : BuildSummary) : (summary counts).isWarning = false := rfl

/-- A text, or null in place of one. -/
def nullable? : Json → Option (Option String)
  | .null => some none
  | .string text => some (some text)
  | _ => none

/-- A count. -/
def count? : Json → Option Nat
  | .number (.integer (.ofNat count)) => some count
  | _ => none

/-- A line as data. An object must have the fields that its type calls for, and no others. -/
def ofJson? (value : Json) : Option Record := do
  let text (name : String) : Option String := (value.field? name).bind Json.text?
  let nullable (name : String) : Option (Option String) := (value.field? name).bind nullable?
  let count (name : String) : Option Nat := (value.field? name).bind count?
  let fields ← match value with
    | .object fields => some fields
    | _ => none
  match ← text "type", fields.length with
  | "module", 5 =>
    return .module (← text "namespace") (← text "path") (← (← text "loader") |> Loader.ofName?)
      (← text "contents")
  | "message", 6 =>
    return .message (← (← text "severity") |> Severity.ofName?) (← nullable "file")
      (← nullable "namespace") (← nullable "plugin") (← text "message")
  | "summary", 6 =>
    return .summary ⟨← count "entries", ← count "modules", ← count "errors", ← count "warnings",
      ← count "duration_ms"⟩
  | _, _ => none

theorem ofJson?_moduleJson (module : OutputModule) :
    ofJson? (moduleJson module) = some (ofModule module) := by
  have hfields : moduleJson module = .object [
      ("contents", .string module.contents), ("loader", .string module.loader.name),
      ("namespace", .string module.space), ("path", .string module.path),
      ("type", .string "module")] := by
    simp (disch := decide) only [moduleJson, Json.ofFields, List.foldl_cons, List.foldl_nil,
      Json.insertField_nil, Json.insertField_of_lt, Json.insertField_of_not_lt]
  have hloader : Loader.ofName? module.loader.name = some module.loader := by
    cases module.loader <;> decide
  simp [ofJson?, hfields, Json.field?, Json.text?, List.lookup_cons, hloader, ofModule]

theorem ofJson?_messageJson (severity : Severity) (message : Message) :
    ofJson? (messageJson severity message) = some (ofMessage severity message) := by
  have hfields : messageJson severity message = .object [
      ("file", .ofText? message.file?), ("message", .string message.text),
      ("namespace", .ofText? (message.location.map (·.space))),
      ("plugin", .ofText? message.plugin), ("severity", .string severity.name),
      ("type", .string "message")] := by
    simp (disch := decide) only [messageJson, Json.ofFields, List.foldl_cons, List.foldl_nil,
      Json.insertField_nil, Json.insertField_of_lt, Json.insertField_of_not_lt]
  have hseverity : Severity.ofName? severity.name = some severity := by
    cases severity <;> decide
  have hnullable (text? : Option String) : nullable? (.ofText? text?) = some text? := by
    cases text? <;> rfl
  simp [ofJson?, hfields, Json.field?, Json.text?, List.lookup_cons, hseverity, hnullable,
    ofMessage]

theorem ofJson?_summaryJson (counts : BuildSummary) :
    ofJson? (summaryJson counts) = some (.summary counts) := by
  have hfields : summaryJson counts = .object [
      ("duration_ms", .nat counts.milliseconds), ("entries", .nat counts.entries),
      ("errors", .nat counts.errors), ("modules", .nat counts.modules),
      ("type", .string "summary"), ("warnings", .nat counts.warnings)] := by
    simp (disch := decide) only [summaryJson, Json.ofFields, List.foldl_cons, List.foldl_nil,
      Json.insertField_nil, Json.insertField_of_lt, Json.insertField_of_not_lt]
  have hcount (count : Nat) : count? (.nat count) = some count := rfl
  simp [ofJson?, hfields, Json.field?, Json.text?, List.lookup_cons, hcount]

end Record

/-- The lines of a text, each of which must be ended. -/
def lines? (text : String) : Option (List String) :=
  let pieces := Text.fields '\n' text.toList
  if pieces.getLast? = some [] then some (pieces.dropLast.map String.ofList) else none

/-- A report read back: each line is one object. -/
def read? (text : String) : Option (List Record) := do
  let lines ← lines? text
  lines.mapM fun line => do Record.ofJson? (← Json.parse? line)

/-- What is reported of a build, in order. -/
def records (withModules : Bool) (result : BuildResult) (counts : BuildSummary) : List Record :=
  (if withModules then result.modules.map .ofModule else []) ++
    result.warnings.map (.ofMessage .warning) ++ result.errors.map (.ofMessage .error) ++
    [.summary counts]

/-- Pieces without line ends are the lines of their report. -/
theorem lines?_text {pieces : List String} (h : ∀ piece ∈ pieces, '\n' ∉ piece.toList) :
    lines? (text pieces) = some pieces := by
  have hlines : (text pieces).toList = (pieces.map String.toList).flatMap (· ++ ['\n']) := by
    simp [text, String.toList_join, List.flatMap_map]
  have hfields : Text.fields '\n' (text pieces).toList = pieces.map String.toList ++ [[]] := by
    rw [hlines]
    exact Text.fields_lines (by simpa using h)
  have hpieces : (pieces.map String.toList).map String.ofList = pieces := by simp
  rw [lines?, hfields]
  simp [hpieces]

/-- A piece of a report that is read back as a record. -/
structure Prints (piece : String) (record : Record) : Prop where
  line : '\n' ∉ piece.toList
  reads : (do Record.ofJson? (← Json.parse? piece)) = some record

theorem prints_print {fields : List (String × Json)} {record : Record}
    (hwritable : ∀ field ∈ fields, Json.Writable 126 field.2)
    (hrecord : Record.ofJson? (Json.ofFields fields) = some record) :
    Prints (Json.ofFields fields).print record := by
  have hprinted : Json.Writable 127 (Json.ofFields fields) := Json.writable_ofFields hwritable
  constructor
  · intro hline
    rw [Json.print, String.toList_ofList] at hline
    exact absurd (hprinted.isLine_write _ hline) (by decide)
  · rw [Json.parse?, Json.parse_print hprinted]
    exact hrecord

theorem writable_ofText? (depth : Nat) (text? : Option String) :
    Json.Writable depth (.ofText? text?) := by
  cases text? with
  | none => exact .null
  | some text => exact .string text

theorem writable_nat (depth : Nat) {count : Nat} (h : count < 2 ^ 64) :
    Json.Writable depth (.nat count) := by
  apply Json.Writable.integer
  constructor <;> omega

theorem prints_module (module : OutputModule) :
    Prints (Report.module .json module) (.ofModule module) := by
  refine prints_print ?_ (Record.ofJson?_moduleJson module)
  simp [Json.Writable.string]

theorem prints_message (severity : Severity) (message : Message) :
    Prints (Report.message .json severity message) (.ofMessage severity message) := by
  refine prints_print ?_ (Record.ofJson?_messageJson severity message)
  simp [Json.Writable.string, writable_ofText?]

theorem prints_summary {counts : BuildSummary} (h : counts.Fits) :
    Prints (Report.summary .json counts) (.summary counts) := by
  refine prints_print ?_ (Record.ofJson?_summaryJson counts)
  simp [Json.Writable.string, writable_nat _ h.entries, writable_nat _ h.modules,
    writable_nat _ h.errors, writable_nat _ h.warnings, writable_nat _ h.milliseconds]

/-- Pieces that are read back one by one are the lines of their report, and are read back
together. -/
theorem lines?_and_read?_text {pieces : List String} {records : List Record}
    (h : List.Forall₂ Prints pieces records) :
    lines? (text pieces) = some pieces ∧ read? (text pieces) = some records := by
  have hlines : lines? (text pieces) = some pieces := by
    apply lines?_text
    induction h with
    | nil => simp
    | cons hpiece _ ih => exact List.forall_mem_cons.2 ⟨hpiece.line, ih⟩
  refine ⟨hlines, ?_⟩
  rw [read?, hlines]
  change pieces.mapM _ = _
  clear hlines
  induction h with
  | nil => rfl
  | cons hpiece _ ih =>
    rw [List.mapM_cons, hpiece.reads, ih]
    rfl

/-- The pieces of the report of a build, each with what it says. -/
theorem prints_build (withModules : Bool) (result : BuildResult) {counts : BuildSummary}
    (h : counts.Fits) :
    List.Forall₂ Prints (build .json withModules result counts)
      (records withModules result counts) := by
  have hmodules (modules : List OutputModule) :
      List.Forall₂ Prints (modules.map (Report.module .json)) (modules.map .ofModule) :=
    List.forall₂_map_left_iff.2 (List.forall₂_map_right_iff.2
      (List.forall₂_same.2 fun module _ => prints_module module))
  have hmessages (severity : Severity) (messages : List Message) :
      List.Forall₂ Prints (messages.map (Report.message .json severity))
        (messages.map (.ofMessage severity)) :=
    List.forall₂_map_left_iff.2 (List.forall₂_map_right_iff.2
      (List.forall₂_same.2 fun message _ => prints_message severity message))
  -- modules, warnings and errors in this order, and the summary at the end
  have hresult := List.rel_append (List.rel_append (hmodules (if withModules then result.modules
    else [])) (hmessages .warning result.warnings)) (hmessages .error result.errors)
  have hall := List.rel_append hresult (.cons (prints_summary h) .nil)
  cases withModules
  · simpa [build, Report.result, records] using hall
  · simpa [build, Report.result, records] using hall

/-- The report of a build read back. -/
theorem read?_text_build (withModules : Bool) (result : BuildResult) {counts : BuildSummary}
    (h : counts.Fits) :
    read? (text (build .json withModules result counts)) =
      some (records withModules result counts) :=
  (lines?_and_read?_text (prints_build withModules result h)).2

theorem length_lines?_text_build (withModules : Bool) (result : BuildResult)
    {counts : BuildSummary} (h : counts.Fits) :
    (lines? (text (build .json withModules result counts))).map List.length =
      some ((if withModules then result.modules.length else 0) + result.warnings.length +
        result.errors.length + 1) := by
  rw [(lines?_and_read?_text (prints_build withModules result h)).1, Option.map_some,
    length_build]

theorem any_isError_records (withModules : Bool) (result : BuildResult) (counts : BuildSummary) :
    (records withModules result counts).any Record.isError = result.hasErrors := by
  cases withModules <;> cases herrors : result.errors <;>
    simp [records, BuildResult.hasErrors, Function.comp_def, herrors]

/-- The errors are the lines about errors. -/
theorem countP_isError_records (withModules : Bool) (result : BuildResult)
    (counts : BuildSummary) :
    (records withModules result counts).countP Record.isError = result.errors.length := by
  cases withModules <;> simp [records, List.countP_map, Function.comp_def]

/-- The warnings are the lines about warnings. -/
theorem countP_isWarning_records (withModules : Bool) (result : BuildResult)
    (counts : BuildSummary) :
    (records withModules result counts).countP Record.isWarning = result.warnings.length := by
  cases withModules <;> simp [records, List.countP_map, Function.comp_def]

end Report

namespace Command

section Build

variable {σ : Type} [MonadFiles (StateM σ)]

/-- A build of a configuration that comes to its end: the clock is read, the entry points are found
and built, and the clock is read again. -/
structure SingleBuild (build : Build (StateM σ)) (config : WorkspaceConfig) (clock : StateM σ Nat)
    (state : σ) where
  start : Nat
  begun : σ
  entries : List String
  searched : σ
  result : BuildResult
  finished : σ
  stop : Nat
  ended : σ
  started : clock.run state = (start, begun)
  found : (config.findEntries : StateM σ _).run begun = (entries, searched)
  built : (build.run maxRounds entries).run searched = (some result, finished)
  stopped : clock.run finished = (stop, ended)

/-- A build with a result, taken apart. -/
def SingleBuild.ofIsSome {build : Build (StateM σ)} {config : WorkspaceConfig}
    {clock : StateM σ Nat} {state : σ}
    (h : ((do
      let _ ← clock
      build.run maxRounds (← config.findEntries)).run state).1.isSome) :
    SingleBuild build config clock state where
  start := (clock.run state).1
  begun := (clock.run state).2
  entries := ((config.findEntries : StateM σ _).run (clock.run state).2).1
  searched := ((config.findEntries : StateM σ _).run (clock.run state).2).2
  result := Option.get _ h
  finished := _
  stop := _
  ended := _
  started := rfl
  found := rfl
  built := Prod.ext (Option.some_get h).symm rfl
  stopped := rfl

/-- The summary of a build. -/
def SingleBuild.summary {build : Build (StateM σ)} {config : WorkspaceConfig}
    {clock : StateM σ Nat} {state : σ} (single : SingleBuild build config clock state) :
    BuildSummary :=
  .ofResult single.entries.length (single.stop - single.start) single.result

/-- An outcome whose output tells a build as it was: one line for each module that is asked for, for
each warning, for each error and for the summary, in this order, which counts the lines before it.
The exit code says whether there is a line about an error. -/
structure IsFaithful (withModules : Bool) (result : BuildResult) (counts : BuildSummary)
    (outcome : CommandOutcome) : Prop where
  lines : (Report.lines? (Report.text outcome.output)).map List.length =
    some ((if withModules then result.modules.length else 0) + result.warnings.length +
      result.errors.length + 1)
  records : Report.read? (Report.text outcome.output) =
    some (Report.records withModules result counts)
  errors : (Report.records withModules result counts).countP Report.Record.isError = counts.errors
  warnings : (Report.records withModules result counts).countP Report.Record.isWarning =
    counts.warnings
  exitCode : outcome.exitCode =
    if (Report.records withModules result counts).any Report.Record.isError then 1 else 0

/-- The outcome of a build that comes to its end. -/
theorem buildEntries_run {build : Build (StateM σ)} {config : WorkspaceConfig}
    {clock : StateM σ Nat} {state : σ} (single : SingleBuild build config clock state)
    (arguments : Arguments) :
    ((buildEntries build config arguments clock).run state).1 =
      { exitCode := if single.result.hasErrors then 1 else 0
        output := Report.build arguments.output arguments.printModules single.result
          single.summary } := by
  rw [buildEntries, run_bind_of_eq single.started, run_bind_of_eq single.found,
    run_bind_of_eq single.built]
  dsimp only
  rw [run_bind_of_eq single.stopped]
  rfl

/-- A build that comes to its end is told as it was, for every reader of lines. This is so for
whatever plugins there are, and it is what a run of the command leaves behind. -/
theorem isFaithful_of_singleBuild {build : Build (StateM σ)} {config : WorkspaceConfig}
    {clock : StateM σ Nat} {state : σ} {arguments : Arguments}
    (single : SingleBuild build config clock state) (hjson : arguments.output = .json)
    (hfits : single.summary.Fits) :
    IsFaithful arguments.printModules single.result single.summary
      ((buildEntries build config arguments clock).run state).1 ∧
    ∀ (Server : Type) [CompilerService (StateM σ) Server] (server : Cell (StateM σ) Server)
      (aliases : Cell (StateM σ) AliasSet) (texts : List String) (defaultCompiler : Option String)
      (before : σ),
      Arguments.parse texts defaultCompiler = .ok arguments →
      (prepare server aliases arguments).run before = (.ok (build, config), state) →
      ((run server aliases clock texts defaultCompiler).run before).1 =
        ((buildEntries build config arguments clock).run state).1 := by
  constructor
  · have houtcome := buildEntries_run single arguments
    rw [hjson] at houtcome
    rw [houtcome]
    exact {
      lines := Report.length_lines?_text_build _ _ hfits
      records := Report.read?_text_build _ _ hfits
      errors := Report.countP_isError_records _ _ _
      warnings := Report.countP_isWarning_records _ _ _
      exitCode := by rw [Report.any_isError_records] }
  · intro Server _ server aliases texts defaultCompiler before hparse hprepare
    rw [run, hparse]
    dsimp only
    rw [carryOut, run_bind_of_eq hprepare]
    rfl

end Build

end Command

namespace Desk

/-- A compiler, and a script whose name, imports and text hold what must be escaped. -/
def letter : Desk where
  session := {
    disk := {
      readBytes := fun path =>
        if path = "/c.js" then .ok []
        else if path = "/\x22.js" then .ok (Utf8.encode "import './\\.js';\n\x01".toList)
        else .error .notFound
      canonical := .ok
      kind? := fun path => if path = "/c.js" || path = "/\x22.js" then some .file else none
      entries := fun _ => .error .notFound
      workingDir := "/"
      programDir := "/" } }

/-- The arguments of a run that reports the script. -/
def letterArguments : Arguments where
  entries := ["\x22.js"]
  compiler := "c.js"
  output := .json
  printModules := true

theorem eq_ok_get {σ ε α β : Type} {answer : Except ε (α × β) × σ}
    (h : answer.1.toOption.isSome) :
    answer = (.ok ((answer.1.toOption.get h).1, (answer.1.toOption.get h).2), answer.2) := by
  obtain ⟨error | value, state⟩ := answer
  · cases h
  · rfl

/-- What the run is prepared with. -/
def letterHost : Build (StateM Desk) × WorkspaceConfig :=
  ((Command.prepare poolCell aliasCell letterArguments).run letter).1.toOption.get
    (by decide +kernel)

/-- The state that the run is prepared in. -/
def letterState : Desk := ((Command.prepare poolCell aliasCell letterArguments).run letter).2

/-- The build of the script. -/
def letterBuild : Command.SingleBuild letterHost.1 letterHost.2 (return 0) letterState :=
  .ofIsSome (by decide +kernel)

/-- The three lines of the run are read back, with all that was escaped in them, and the exit code
is that of the one error. -/
theorem isFaithful_letter :
    letterArguments.output = .json ∧ letterBuild.summary.Fits ∧
    Arguments.parse ["-c", "c.js", "--output", "json", "--print-modules", "\x22.js"] none =
      .ok letterArguments ∧
    Command.IsFaithful true letterBuild.result letterBuild.summary
      ((Command.run poolCell aliasCell (return 0)
        ["-c", "c.js", "--output", "json", "--print-modules", "\x22.js"] none).run letter).1 ∧
    Report.records true letterBuild.result letterBuild.summary = [
      .module "file" "/\x22.js" .js "import './\\.js';\n\x01",
      .message .error (some "/\\.js") (some "file") none
        "failed to read /\\.js: No such file or directory (os error 2)",
      .summary ⟨1, 1, 1, 0, 0⟩] := by
  have hparse : Arguments.parse
      ["-c", "c.js", "--output", "json", "--print-modules", "\x22.js"] none =
        .ok letterArguments := by
    rfl
  have hprepare : (Command.prepare poolCell aliasCell letterArguments).run letter =
      (.ok (letterHost.1, letterHost.2), letterState) := by
    unfold letterHost letterState
    exact eq_ok_get _
  have hsummary : letterBuild.summary = ⟨1, 1, 1, 0, 0⟩ := by
    decide +kernel
  have hfits : letterBuild.summary.Fits := by
    rw [hsummary]
    constructor <;> simp
  have hrecords : Report.records true letterBuild.result letterBuild.summary = [
      .module "file" "/\x22.js" .js "import './\\.js';\n\x01",
      .message .error (some "/\\.js") (some "file") none
        "failed to read /\\.js: No such file or directory (os error 2)",
      .summary ⟨1, 1, 1, 0, 0⟩] := by
    decide +kernel
  have hjson : letterArguments.output = .json := rfl
  obtain ⟨hfaithful, hrun⟩ := Command.isFaithful_of_singleBuild letterBuild hjson hfits
  refine ⟨hjson, hfits, hparse, ?_, hrecords⟩
  rw [hrun Pool poolCell aliasCell _ none letter hparse hprepare]
  exact hfaithful

end Desk

end SfcBundler
