import SfcBundler.Build.Hooks
import SfcBundler.Command.Arguments
import SfcBundler.Text.Character

/-!
# Reports

A report of a build holds its modules, if they are asked for, its warnings, its errors and a
summary, for a reader at a terminal or as one JSON object per line.

## Main definitions

* `Severity`, `BuildSummary`: what is reported beside the messages and modules themselves
* `Report.message`, `Report.module`, `Report.summary`: single pieces
* `Report.build`: the whole report

## Main results

* `Report.length_build`: how many pieces a report for machines has
-/

namespace SfcBundler

/-- How bad a message is. -/
inductive Severity where
  | error
  | warning
deriving Repr, DecidableEq

namespace Severity

/-- The name of a severity. -/
def name : Severity → String
  | error => "error"
  | warning => "warning"

end Severity

/-- The counts of a build, and how long it took. -/
structure BuildSummary where
  entries : Nat
  modules : Nat
  errors : Nat
  warnings : Nat
  milliseconds : Nat
deriving Repr, DecidableEq

/-- The summary of a result. -/
def BuildSummary.ofResult (entries milliseconds : Nat) (result : BuildResult) : BuildSummary where
  entries
  modules := result.modules.length
  errors := result.errors.length
  warnings := result.warnings.length
  milliseconds

/-- Colours of a terminal. -/
inductive TerminalColour where
  | red
  | green
  | yellow
  | cyan
deriving Repr, DecidableEq

namespace TerminalColour

/-- The number of a colour. -/
def number : TerminalColour → String
  | red => "31"
  | green => "32"
  | yellow => "33"
  | cyan => "36"

/-- A text in a colour. -/
def paint (colour : TerminalColour) (text : String) : String :=
  "\x1b[" ++ colour.number ++ "m" ++ text ++ "\x1b[0m"

end TerminalColour

/-- The colour of a severity. -/
def Severity.colour : Severity → TerminalColour
  | error => .red
  | warning => .yellow

namespace Report

/-- A message as data. -/
def messageJson (severity : Severity) (message : Message) : Json :=
  Json.ofFields [
    ("type", .string "message"),
    ("severity", .string severity.name),
    ("file", .ofText? message.file?),
    ("namespace", .ofText? (message.location.map (·.space))),
    ("plugin", .ofText? message.plugin),
    ("message", .string message.text)]

/-- A message. -/
def message (format : OutputFormat) (severity : Severity) (message : Message) : String :=
  match format with
  | .human => severity.colour.paint severity.name ++ ": " ++ message.format
  | .json => (messageJson severity message).print

/-- A module as data. -/
def moduleJson (module : OutputModule) : Json :=
  Json.ofFields [
    ("type", .string "module"),
    ("namespace", .string module.space),
    ("path", .string module.path),
    ("loader", .string module.loader.name),
    ("contents", .string module.contents)]

/-- A module: a heading and its contents. -/
def module (format : OutputFormat) (module : OutputModule) : String :=
  match format with
  | .human =>
    let heading := "// " ++ module.space ++ ":" ++ module.path ++ " (" ++ module.loader.name ++ ")"
    TerminalColour.cyan.paint heading ++ "\n" ++
      String.ofList (Text.trimEnd module.contents.toList)
  | .json => (moduleJson module).print

/-- A count with its noun. -/
def counted (count : Nat) (noun : String) : String :=
  Text.decimal count ++ " " ++ noun ++ (if count = 1 then "" else "s")

/-- A summary as data. -/
def summaryJson (summary : BuildSummary) : Json :=
  Json.ofFields [
    ("type", .string "summary"),
    ("entries", .nat summary.entries),
    ("modules", .nat summary.modules),
    ("errors", .nat summary.errors),
    ("warnings", .nat summary.warnings),
    ("duration_ms", .nat summary.milliseconds)]

/-- A summary in sentences. -/
def summarySentences (summary : BuildSummary) : List String :=
  let time := Text.decimal summary.milliseconds ++ "ms"
  let entries := Text.decimal summary.entries ++ " entries"
  if summary.errors = 0 && summary.warnings = 0 then
    [TerminalColour.green.paint "✓" ++ " Built " ++ entries ++ " into " ++
      Text.decimal summary.modules ++ " modules (" ++ time ++ ")"]
  else
    (if summary.errors = 0 then []
      else [TerminalColour.red.paint "✗" ++ " Found " ++ counted summary.errors "error" ++
        " in " ++ entries]) ++
    (if summary.warnings = 0 then []
      else [TerminalColour.yellow.paint "⚠" ++ " Found " ++ counted summary.warnings "warning"]) ++
    ["Time: " ++ time]

/-- A summary. -/
def summary (format : OutputFormat) (summary : BuildSummary) : String :=
  match format with
  | .human => "\n".intercalate (summarySentences summary)
  | .json => (summaryJson summary).print

/-- The modules, warnings and errors of a result. -/
def result (format : OutputFormat) (withModules : Bool) (result : BuildResult) : List String :=
  (if withModules then result.modules.map (module format) else []) ++
    result.warnings.map (message format .warning) ++ result.errors.map (message format .error)

/-- The report of a build. For a reader an empty line stands before the summary. -/
def build (format : OutputFormat) (withModules : Bool) (built : BuildResult)
    (counts : BuildSummary) : List String :=
  result format withModules built ++ (match format with | .human => [""] | .json => []) ++
    [summary format counts]

/-- The text of a report: each piece is ended by a line feed. -/
def text (pieces : List String) : String := String.join (pieces.map (· ++ "\n"))

theorem length_build (withModules : Bool) (built : BuildResult) (counts : BuildSummary) :
    (build .json withModules built counts).length =
      (if withModules then built.modules.length else 0) + built.warnings.length +
        built.errors.length + 1 := by
  cases withModules <;> simp [build, result] <;> omega

end Report

end SfcBundler
