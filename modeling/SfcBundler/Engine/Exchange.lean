import SfcBundler.Engine.Pool

/-!
# A pool at work

Callers hand requests to the workers of a pool over a bounded queue, and each waits for the reply to
its own request. Callers and workers take their steps in any order. What an engine does with a
request is its own affair, but it answers every one: it does not break off in the middle.

## Main definitions

* `Call`, `Job`, `Worker`, `Exchange`: the callers, what is queued, the workers, and all of them
* `PoolEvent`: what happens to an accepted request
* `Exchange.Step`, `Exchange.Run`: the steps of callers and workers, and any number of steps
* `EnginePool.open`: a pool that starts to work
-/

namespace SfcBundler

/-- The outcome of a request. -/
abbrev Outcome := Except EngineError Response

/-- How far a call has come. -/
inductive CallState where
  /-- It waits for room in the queue. -/
  | sending
  /-- Its request is accepted, and it waits for the reply. -/
  | waiting
  /-- The reply is there. -/
  | replied (outcome : Outcome)
  /-- It is over. -/
  | returned (outcome : Outcome)
  /-- The caller gave it up. -/
  | dropped

/-- A call under way keeps the queue open. -/
def CallState.underWay : CallState → Bool
  | sending | waiting | replied _ => true
  | returned _ | dropped => false

/-- A call of a pool. -/
structure Call where
  request : Request
  state : CallState

/-- The call after an outcome was sent to it. Nothing happens to one that waits no longer. -/
def Call.reply (outcome : Outcome) (call : Call) : Call :=
  match call.state with
  | .waiting => { call with state := .replied outcome }
  | _ => call

/-- An accepted request with the number of the call that waits for its reply. -/
structure Job where
  ticket : Nat
  request : Request

/-- What a worker does. Only one of them at a time may receive from the queue. -/
inductive Task where
  | idle
  | receiving
  | serving (job : Job)
  | stopped

/-- The job that a worker serves. -/
def Task.job? : Task → Option Job
  | serving job => some job
  | _ => none

/-- A worker with an engine of its own, and the state in which that engine sees the files. -/
structure Worker (σ Engine : Type) where
  engine : Engine
  view : σ
  task : Task := .idle

/-- Whether requests are still taken. -/
inductive Phase where
  | accepting
  /-- No new calls; whoever closes the pool waits for the workers. -/
  | closing
  /-- Closing the pool is done. -/
  | closed

/-- A pool at work: its calls in the order in which they were made, the queue, and the workers. -/
structure Exchange (σ Engine : Type) where
  capacity : Nat
  phase : Phase := .accepting
  calls : List Call := []
  queue : List Job := []
  workers : List (Worker σ Engine)

/-- An outcome with the job that it is about and the worker that it comes from. -/
structure Completion where
  worker : Nat
  job : Job
  outcome : Outcome

/-- What happens to an accepted request. -/
inductive PoolEvent where
  | accepted (job : Job)
  | started (worker : Nat) (job : Job)
  | finished (done : Completion)

/-- A pool that starts to work, all its engines with the same view of the files. -/
def EnginePool.open {σ Engine : Type} (pool : EnginePool Engine) (capacity : Nat) (view : σ) :
    Exchange σ Engine where
  capacity
  workers := pool.engines.map fun engine => { engine, view }

namespace Exchange

variable {σ Engine : Type}

/-- The jobs that workers serve. -/
def running (state : Exchange σ Engine) : List Job := state.workers.filterMap (·.task.job?)

/-- The state with a call replaced. -/
def setCall (state : Exchange σ Engine) (ticket : Nat) (call : Call) : Exchange σ Engine :=
  { state with calls := state.calls.set ticket call }

/-- The state with a worker replaced. -/
def setWorker (state : Exchange σ Engine) (index : Nat) (worker : Worker σ Engine) :
    Exchange σ Engine :=
  { state with workers := state.workers.set index worker }

/-- One step of a caller, a worker or whoever closes the pool, with what happens in it to an
accepted request. -/
inductive Step [JsEngine (StateM σ) Engine] :
    Exchange σ Engine → Option PoolEvent → Exchange σ Engine → Prop
  /-- A request comes in. -/
  | call {state : Exchange σ Engine} (request : Request) (hphase : state.phase = .accepting) :
    Step state none { state with calls := state.calls ++ [⟨request, .sending⟩] }
  /-- A request comes too late. -/
  | refuse {state : Exchange σ Engine} (request : Request) (hphase : state.phase ≠ .accepting) :
    Step state none
      { state with calls := state.calls ++ [⟨request, .returned (.error .closed)⟩] }
  /-- There is room in the queue. -/
  | accept {state : Exchange σ Engine} (ticket : Nat) {request : Request}
    (hcall : state.calls[ticket]? = some ⟨request, .sending⟩)
    (hroom : state.queue.length < max 1 state.capacity)
    (halive : ∃ worker ∈ state.workers, worker.task ≠ .stopped) :
    Step state (some (.accepted ⟨ticket, request⟩))
      { state.setCall ticket ⟨request, .waiting⟩ with
        queue := state.queue ++ [⟨ticket, request⟩] }
  /-- No worker is left to send to. -/
  | bounce {state : Exchange σ Engine} (ticket : Nat) {request : Request}
    (hcall : state.calls[ticket]? = some ⟨request, .sending⟩)
    (hdead : ∀ worker ∈ state.workers, worker.task = .stopped) :
    Step state none (state.setCall ticket ⟨request, .returned (.error .closed)⟩)
  /-- A worker locks the queue. -/
  | lock {state : Exchange σ Engine} (index : Nat) {worker : Worker σ Engine}
    (hworker : state.workers[index]? = some worker) (hidle : worker.task = .idle)
    (hfree : ∀ other ∈ state.workers, other.task ≠ .receiving) :
    Step state none (state.setWorker index { worker with task := .receiving })
  /-- A worker takes the first job of the queue and unlocks it. -/
  | take {state : Exchange σ Engine} (index : Nat) {worker : Worker σ Engine} {job : Job}
    {rest : List Job}
    (hworker : state.workers[index]? = some worker) (hreceiving : worker.task = .receiving)
    (hqueue : state.queue = job :: rest) :
    Step state (some (.started index job))
      { state.setWorker index { worker with task := .serving job } with queue := rest }
  /-- An engine is done with a job, and the outcome is sent to whoever waits for it. -/
  | finish {state : Exchange σ Engine} (index : Nat) {worker : Worker σ Engine} {job : Job}
    {engine : Engine} {view : σ} {outcome : Outcome}
    (hworker : state.workers[index]? = some worker) (hserving : worker.task = .serving job)
    (hanswer : (JsEngine.execute worker.engine job.request : StateM σ _).run worker.view =
      ((engine, outcome), view)) :
    Step state (some (.finished ⟨index, job, outcome⟩))
      { state.setWorker index { engine, view } with
        calls := state.calls.modify job.ticket (Call.reply outcome) }
  /-- A caller takes its reply. -/
  | receive {state : Exchange σ Engine} (ticket : Nat) {request : Request} {outcome : Outcome}
    (hcall : state.calls[ticket]? = some ⟨request, .replied outcome⟩) :
    Step state none (state.setCall ticket ⟨request, .returned outcome⟩)
  /-- Nobody is left who could send the reply: the queue is gone, or the job is. -/
  | orphan {state : Exchange σ Engine} (ticket : Nat) {request : Request}
    (hcall : state.calls[ticket]? = some ⟨request, .waiting⟩)
    (hlost : (∀ worker ∈ state.workers, worker.task = .stopped) ∨
      ⟨ticket, request⟩ ∉ state.queue ++ state.running) :
    Step state none (state.setCall ticket ⟨request, .returned (.error .closed)⟩)
  /-- A caller gives up. -/
  | drop {state : Exchange σ Engine} (ticket : Nat) {call : Call}
    (hcall : state.calls[ticket]? = some call) (hstate : call.state.underWay = true) :
    Step state none (state.setCall ticket { call with state := .dropped })
  /-- Somebody starts to close the pool. -/
  | shutdown {state : Exchange σ Engine} (hphase : state.phase = .accepting) :
    Step state none { state with phase := .closing }
  /-- A worker finds the queue empty, and nobody can send to it any more. -/
  | stop {state : Exchange σ Engine} (index : Nat) {worker : Worker σ Engine}
    (hworker : state.workers[index]? = some worker) (hreceiving : worker.task = .receiving)
    (hphase : state.phase ≠ .accepting) (hqueue : state.queue = [])
    (hcalls : ∀ call ∈ state.calls, call.state.underWay = false) :
    Step state none (state.setWorker index { worker with task := .stopped })
  /-- All workers have stopped, and closing the pool returns. -/
  | join {state : Exchange σ Engine} (hphase : state.phase = .closing)
    (hworkers : ∀ worker ∈ state.workers, worker.task = .stopped) :
    Step state none { state with phase := .closed }

/-- Any number of steps, with what happens in them. -/
inductive Run [JsEngine (StateM σ) Engine] (start : Exchange σ Engine) :
    List PoolEvent → Exchange σ Engine → Prop
  | refl : Run start [] start
  | step {events : List PoolEvent} {event : Option PoolEvent} {state next : Exchange σ Engine} :
    Run start events state → Step state event next → Run start (events ++ event.toList) next

end Exchange

end SfcBundler
