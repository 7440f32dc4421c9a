import SfcBundler.Build.Host
import SfcBundler.Command.Config
import SfcBundler.Command.Report
import SfcBundler.Engine.Cache
import SfcBundler.Engine.Protocol
import SfcBundler.Plugin.Setup

/-!
# Carrying out a command line

A run has engines started for the compiler's script, builds the entries of its command line with the
component plugin, and reports. How the engines are started and what they answer is left to whoever
serves the run.

## Main definitions

* `CompilerService`: what serves a run
* `CommandOutcome`: what a run writes, and its exit code
* `RunFailure`: why a run does not come to a build
* `Command.buildEntries`: the build of a configuration
* `Command.run`: the run of a command line
-/

namespace SfcBundler

/-- What serves a run: it is started for the script of the compiler, kept from then on, and answers
requests. -/
class CompilerService (m : Type → Type) (Server : Type) where
  /-- Start the engines for a script; without a size there are as many as the system has room
  for. -/
  start (script : Script) (size : Option PoolSize) : m (Except EngineError Server)
  /-- Answer a request. -/
  execute (server : Server) (request : Request) : m (Server × Except EngineError Response)

/-- A server in a cell as an executor. -/
def CompilerService.executor {m : Type → Type} [Monad m] {Server : Type}
    [CompilerService m Server] (cell : Cell m Server) : Executor m := fun request => do
  let (server, outcome) ← CompilerService.execute (← cell.get) request
  cell.set server
  return outcome

/-- What a run leaves behind: its exit code, the pieces that it writes to its output, and what it
complains about. -/
structure CommandOutcome where
  exitCode : Nat
  output : List String := []
  complaint : Option String := none
deriving Repr, DecidableEq

/-- Why a run does not come to a build, or to the end of one. -/
inductive RunFailure where
  | ignore (error : IgnoreError)
  | unreadableCompiler (path : String) (cause : IoFailure)
  | compilerNotStarted (cause : EngineError)
  | plugin (cause : PluginError)
  | endless
deriving Repr

/-- The wording of a failed run. -/
def RunFailure.message : RunFailure → String
  | ignore error => error.message
  | unreadableCompiler path cause => "failed to read compiler " ++ path ++ ": " ++ cause.message
  | compilerNotStarted cause => "failed to start the compiler: " ++ cause.message
  | plugin cause => cause.message
  | endless => "the build does not come to an end"

/-- The wording of a command line that is refused. -/
def UsageStop.message : UsageStop → String
  | help => ""
  | version => ""
  | missingArgument => "entries and a compiler are required"
  | unknownArgument => "there is an unknown option"
  | invalidValue => "an option has no value or a wrong one"
  | unreadableValue => "the number of workers cannot be read"
  | unexpectedValue => "a flag takes no value"
  | repeatedArgument => "an option is given more than once"

namespace Command

/-- The name and version of the program. -/
def versionText : String := "sfc-build 0.1.0"

/-- How the program is used. -/
def helpText : String := "\n".intercalate [
  "Usage: sfc-build [OPTIONS] --compiler <COMPILER> <ENTRIES>...",
  "",
  "  -c, --compiler <COMPILER>  the script of the compiler",
  "      --ssr                  build for the server",
  "      --dev                  build for development",
  "      --sourcemap            put source maps into scripts",
  "  -p, --tsconfig <TSCONFIG>  the file with path aliases",
  "      --workers <WORKERS>    how many engines to start",
  "      --output <OUTPUT>      human or json",
  "      --print-modules        print all modules",
  "      --ignore <IGNORE>      a pattern of paths to leave out",
  "  -w, --watch                build again when files change",
  "  -v, --verbose              log more",
  "  -h, --help                 print this text",
  "  -V, --version              print the version"]

/-- The outcome of a command line that is not carried out. -/
def stopped : UsageStop → CommandOutcome
  | .help => { exitCode := 0, output := [helpText] }
  | .version => { exitCode := 0, output := [versionText] }
  | reason => { exitCode := 2, complaint := some reason.message }

/-- The outcome of a run that does not come to a build. -/
def failed (failure : RunFailure) : CommandOutcome :=
  { exitCode := 1, complaint := some failure.message }

/-- How many rounds a build may take. -/
def maxRounds : Nat := 1000000

section Run

variable {m : Type → Type} [Monad m] [MonadFiles m] {Server : Type} [CompilerService m Server]

/-- Start the compiler of a configuration. -/
def startCompiler (config : WorkspaceConfig) : m (Except RunFailure Server) := do
  match ← Script.ofFile config.compiler with
  | .error cause => return .error (.unreadableCompiler config.compiler cause)
  | .ok script =>
    return (← CompilerService.start script config.pool).mapError .compilerNotStarted

/-- The host of a configuration, with the component plugin. -/
def host (config : WorkspaceConfig) (server : Cell m Server) (aliases : Cell m AliasSet) :
    m (Except RunFailure (Build m)) := do
  match PluginConfig.check { executor := some (CompilerService.executor server) } with
  | .error cause => return .error (.plugin cause)
  | .ok plugin => .ok <$> Build.ofPlugins config.buildOptions [plugin.toPlugin aliases]

/-- Build the entry points of a configuration and report. `clock` tells the time in
milliseconds. -/
def buildEntries (build : Build m) (config : WorkspaceConfig) (arguments : Arguments)
    (clock : m Nat) : m CommandOutcome := do
  let start ← clock
  let entries ← config.findEntries
  match ← build.run maxRounds entries with
  | none => return failed .endless
  | some result =>
    let summary := BuildSummary.ofResult entries.length ((← clock) - start) result
    return {
      exitCode := if result.hasErrors then 1 else 0
      output := Report.build arguments.output arguments.printModules result summary }

/-- The host of arguments, and their configuration. What serves the run and the aliases are kept in
cells. -/
def prepare (server : Cell m Server) (aliases : Cell m AliasSet) (arguments : Arguments) :
    m (Except RunFailure (Build m × WorkspaceConfig)) := do
  match ← WorkspaceConfig.load (← MonadFiles.workingDir) arguments with
  | .error error => return .error (.ignore error)
  | .ok config =>
    match ← startCompiler config with
    | .error failure => return .error failure
    | .ok started =>
      server.set started
      return (← host config server aliases).map (·, config)

/-- Carry out arguments. -/
def carryOut (server : Cell m Server) (aliases : Cell m AliasSet) (clock : m Nat)
    (arguments : Arguments) : m CommandOutcome := do
  match ← prepare server aliases arguments with
  | .error failure => return failed failure
  | .ok (build, config) =>
    let outcome ← buildEntries build config arguments clock
    build.dispose
    return outcome

/-- Run a command line. -/
def run (server : Cell m Server) (aliases : Cell m AliasSet) (clock : m Nat) (texts : List String)
    (defaultCompiler : Option String) : m CommandOutcome :=
  match Arguments.parse texts defaultCompiler with
  | .error reason => return stopped reason
  | .ok arguments => carryOut server aliases clock arguments

end Run

end Command

end SfcBundler
