import SfcBundler.Engine.Pool

/-!
# A pool that is started

Whoever starts a pool starts its workers one by one and then takes their reports. Each worker makes
an engine and reports whether it could. All of them take their steps in any order, and the reports
come in as they are sent. A fatal failure ends the taking of reports at once; a pool that fails
waits for all its workers.

The engines are made by one factory that all workers share. What it shares between them is used by
one worker at a time: two workers that want a script to be compiled get the outcome of one
compilation.

## Main definitions

* `EngineFactory`: how the engines of all workers are made
* `Gathering`: what is known of the reports taken so far
* `Launch`, `Startup`: how far a worker has come, and all of them with whoever starts them
* `Startup.Step`, `Startup.Run`: the steps of all of them, and a number of steps
-/

namespace SfcBundler

/-- The engine of a worker, or why there is none, and what the factory shares afterwards. -/
abbrev EngineFactory (σ Engine : Type) := Nat → σ → σ × Except EngineError Engine

/-- The factory that gives each worker what is meant for it. -/
def EngineFactory.ofOutcomes {Engine : Type} (outcome : Nat → Except EngineError Engine) :
    EngineFactory Unit Engine :=
  fun index _ => ((), outcome index)

/-- The factory of the engines for one script, which is compiled once for all of them. What the
contexts are like when they are ready may differ from worker to worker. -/
def ScriptSetup.factory {Context : Type} [ScriptRuntime Context]
    (setup : Nat → ScriptSetup Context) :
    EngineFactory (CompilerCache Context) (ScriptEngine Context) :=
  fun index cache => (setup index).create cache

/-- What is known of the reports taken so far. -/
structure Gathering (Engine : Type) where
  /-- How many more reports are taken. -/
  left : Nat
  engines : List Engine := []
  /-- The failure to tell of. -/
  failure : Option EngineError := none

namespace Gathering

variable {Engine : Type}

/-- Whether the failure to tell of is fatal. -/
def isFatal (gathering : Gathering Engine) : Bool := gathering.failure.any EngineError.isFatal

/-- Whether no more reports are taken. -/
def isOver (gathering : Gathering Engine) : Bool := gathering.left == 0 || gathering.isFatal

/-- What is known with one more report. The first failure is told of, but for a fatal one. -/
def take (gathering : Gathering Engine) : Except EngineError Engine → Gathering Engine
  | .ok engine =>
    { gathering with left := gathering.left - 1, engines := gathering.engines ++ [engine] }
  | .error error =>
    let failure := if error.isFatal then error else gathering.failure.getD error
    { gathering with left := gathering.left - 1, failure := some failure }

/-- What comes of the reports. -/
def verdict (gathering : Gathering Engine) : Except EngineError (EnginePool Engine) :=
  if gathering.engines.isEmpty || gathering.isFatal then
    .error (gathering.failure.getD .closed)
  else .ok ⟨gathering.engines⟩

end Gathering

/-- How far a worker has come. -/
inductive Launch (Engine : Type) where
  /-- It has no engine yet. -/
  | pending
  /-- It knows whether it has an engine. -/
  | made (outcome : Except EngineError Engine)
  /-- It has told so. -/
  | reported (outcome : Except EngineError Engine)

namespace Launch

variable {Engine : Type}

/-- Whether a worker has an engine, if it knows. -/
def outcome? : Launch Engine → Option (Except EngineError Engine)
  | pending => none
  | made outcome | reported outcome => some outcome

/-- What a worker has reported. -/
def reported? : Launch Engine → Option (Except EngineError Engine)
  | reported outcome => some outcome
  | _ => none

end Launch

/-- A pool that is started. -/
structure Startup (σ Engine : Type) where
  /-- What the factory shares between the workers. -/
  shared : σ
  /-- How many workers are still to be started. -/
  unstarted : Nat
  launches : List (Launch Engine) := []
  /-- The reports on their way, the oldest first. -/
  reports : List (Except EngineError Engine) := []
  gathering : Gathering Engine
  /-- What starting the pool gives, once it is over. -/
  verdict : Option (Except EngineError (EnginePool Engine)) := none

namespace Startup

variable {σ Engine : Type}

/-- The start of a pool with a number of workers, at least one. -/
def begin (shared : σ) (workers : Nat) : Startup σ Engine where
  shared
  unstarted := max workers 1
  gathering := { left := max workers 1 }

/-- The state with a worker replaced. -/
def setLaunch (state : Startup σ Engine) (index : Nat) (launch : Launch Engine) :
    Startup σ Engine :=
  { state with launches := state.launches.set index launch }

/-- One step of a worker or of whoever starts the pool. -/
inductive Step (factory : EngineFactory σ Engine) : Startup σ Engine → Startup σ Engine → Prop
  /-- One more worker is started. -/
  | launch {state : Startup σ Engine} {rest : Nat} (hunstarted : state.unstarted = rest + 1) :
    Step factory state
      { state with unstarted := rest, launches := state.launches ++ [.pending] }
  /-- A worker makes its engine, or fails to. -/
  | make {state : Startup σ Engine} (index : Nat) {shared : σ} {outcome : Except EngineError Engine}
    (hlaunch : state.launches[index]? = some .pending)
    (hmade : factory index state.shared = (shared, outcome)) :
    Step factory state { state.setLaunch index (.made outcome) with shared }
  /-- A worker reports. -/
  | report {state : Startup σ Engine} (index : Nat) {outcome : Except EngineError Engine}
    (hlaunch : state.launches[index]? = some (.made outcome)) :
    Step factory state
      { state.setLaunch index (.reported outcome) with reports := state.reports ++ [outcome] }
  /-- The oldest report is taken. -/
  | take {state : Startup σ Engine} {outcome : Except EngineError Engine}
    {rest : List (Except EngineError Engine)} (hunstarted : state.unstarted = 0)
    (hgoing : state.gathering.isOver = false) (hreports : state.reports = outcome :: rest) :
    Step factory state
      { state with reports := rest, gathering := state.gathering.take outcome }
  /-- All workers of a pool that fails have ended. -/
  | fail {state : Startup σ Engine} {error : EngineError} (hunstarted : state.unstarted = 0)
    (hover : state.gathering.isOver = true) (hverdict : state.gathering.verdict = .error error)
    (hended : ∀ launch ∈ state.launches, launch.reported?.isSome = true)
    (hpending : state.verdict = none) :
    Step factory state { state with verdict := some (.error error) }
  /-- The pool is ready. -/
  | succeed {state : Startup σ Engine} {pool : EnginePool Engine} (hunstarted : state.unstarted = 0)
    (hover : state.gathering.isOver = true) (hverdict : state.gathering.verdict = .ok pool)
    (hpending : state.verdict = none) :
    Step factory state { state with verdict := some (.ok pool) }

/-- A number of steps. -/
inductive Run (factory : EngineFactory σ Engine) (start : Startup σ Engine) :
    Nat → Startup σ Engine → Prop
  | refl : Run factory start 0 start
  | step {steps : Nat} {state next : Startup σ Engine} :
    Run factory start steps state → Step factory state next → Run factory start (steps + 1) next

end Startup

end SfcBundler
