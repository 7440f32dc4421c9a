import SfcBundler.Engine.Exchange
import SfcBundler.Proofs.Walk.Record

/-!
# The flow of jobs through a pool

Jobs go from the queue to a worker, and from there they are done. What happened to them says where
they are: nothing is lost, nothing is done twice, and the order of the queue is kept.

## Main definitions

* `Exchange.accepted`, `Exchange.started`, `Exchange.finished`: the jobs of events of one kind
* `JsEngine.executeAll`: requests answered by one engine, one after the other
* `Exchange.Flow`: where the jobs of a pool are, in terms of what happened to them

## Main results

* `Exchange.Flow.step`: every step of a pool keeps the flow
-/

namespace SfcBundler

namespace PoolEvent

/-- The accepted job of an event. -/
def accepted? : PoolEvent → Option Job
  | accepted job => some job
  | _ => none

/-- The started job of an event, with its worker. -/
def started? : PoolEvent → Option (Nat × Job)
  | started worker job => some (worker, job)
  | _ => none

/-- The finished job of an event. -/
def finished? : PoolEvent → Option Completion
  | finished done => some done
  | _ => none

end PoolEvent

/-- A list before and after one of its items is replaced. -/
theorem exists_of_getElem?_set {α : Type} {items : List α} {index : Nat} {item : α}
    (h : items[index]? = some item) (new : α) :
    ∃ front back, items = front ++ item :: back ∧ items.set index new = front ++ new :: back := by
  obtain ⟨hindex, rfl⟩ := List.getElem?_eq_some_iff.1 h
  obtain ⟨front, back, hsplit, -, hset⟩ : ∃ front back,
      items = front ++ items[index] :: back ∧ front.length = index ∧
        items.set index new = front ++ new :: back := List.exists_of_set hindex
  exact ⟨front, back, hsplit, hset⟩

/-- An item of a list after one of its items is replaced. -/
theorem cases_of_getElem?_set {α : Type} {items : List α} {index other : Nat} {new item : α}
    (h : (items.set index new)[other]? = some item) :
    (index = other ∧ item = new) ∨ (index ≠ other ∧ items[other]? = some item) := by
  rw [List.getElem?_set] at h
  by_cases hsame : index = other
  · rw [if_pos hsame] at h
    split at h
    · exact .inl ⟨hsame, (Option.some.inj h).symm⟩
    · cases h
  · rw [if_neg hsame] at h
    exact .inr ⟨hsame, h⟩

namespace Exchange

section Events

variable (events : List PoolEvent)

/-- The jobs accepted, in order. -/
def accepted : List Job := events.filterMap PoolEvent.accepted?

/-- The jobs started, in order, each with its worker. -/
def started : List (Nat × Job) := events.filterMap PoolEvent.started?

/-- The jobs finished, in order. -/
def finished : List Completion := events.filterMap PoolEvent.finished?

/-- The jobs that a worker started, in order. -/
def startedOn (index : Nat) : List Job :=
  ((started events).filter (·.1 = index)).map Prod.snd

/-- The jobs that a worker finished, in order. -/
def finishedOn (index : Nat) : List Completion := (finished events).filter (·.worker = index)

variable (job : Job) (worker index : Nat) (done : Completion)

@[simp]
theorem accepted_append (more : List PoolEvent) :
    accepted (events ++ more) = accepted events ++ accepted more := List.filterMap_append

@[simp]
theorem started_append (more : List PoolEvent) :
    started (events ++ more) = started events ++ started more := List.filterMap_append

@[simp]
theorem finished_append (more : List PoolEvent) :
    finished (events ++ more) = finished events ++ finished more := List.filterMap_append

@[simp]
theorem startedOn_append (more : List PoolEvent) :
    startedOn (events ++ more) index = startedOn events index ++ startedOn more index := by
  simp [startedOn]

@[simp]
theorem finishedOn_append (more : List PoolEvent) :
    finishedOn (events ++ more) index = finishedOn events index ++ finishedOn more index := by
  simp [finishedOn]

@[simp] theorem accepted_accepted : accepted [.accepted job] = [job] := rfl
@[simp] theorem accepted_started : accepted [.started worker job] = [] := rfl
@[simp] theorem accepted_finished : accepted [.finished done] = [] := rfl
@[simp] theorem started_accepted : started [.accepted job] = [] := rfl
@[simp] theorem started_started : started [.started worker job] = [(worker, job)] := rfl
@[simp] theorem started_finished : started [.finished done] = [] := rfl
@[simp] theorem finished_accepted : finished [.accepted job] = [] := rfl
@[simp] theorem finished_started : finished [.started worker job] = [] := rfl
@[simp] theorem finished_finished : finished [.finished done] = [done] := rfl
@[simp] theorem startedOn_accepted : startedOn [.accepted job] index = [] := rfl
@[simp] theorem startedOn_finished : startedOn [.finished done] index = [] := rfl
@[simp] theorem finishedOn_accepted : finishedOn [.accepted job] index = [] := rfl
@[simp] theorem finishedOn_started : finishedOn [.started worker job] index = [] := rfl

@[simp]
theorem startedOn_started :
    startedOn [.started worker job] index = if worker = index then [job] else [] := by
  by_cases h : worker = index <;> simp [startedOn, h]

@[simp]
theorem finishedOn_finished :
    finishedOn [.finished done] index = if done.worker = index then [done] else [] := by
  by_cases h : done.worker = index <;> simp [finishedOn, h]

end Events

end Exchange

namespace JsEngine

variable {σ Engine : Type} [JsEngine (StateM σ) Engine]

/-- Answer requests one after the other. -/
def executeAll (engine : Engine) : List Request → StateM σ (Engine × List Outcome)
  | [] => return (engine, [])
  | request :: rest => do
    let (engine, outcome) ← execute engine request
    let (engine, outcomes) ← executeAll engine rest
    return (engine, outcome :: outcomes)

/-- One more request is answered after those before it. -/
theorem executeAll_append {engine between last : Engine} {requests : List Request}
    {outcomes : List Outcome} {view view' view'' : σ} {request : Request} {outcome : Outcome}
    (h : (executeAll engine requests).run view = ((between, outcomes), view'))
    (hlast : (execute between request : StateM σ _).run view' = ((last, outcome), view'')) :
    (executeAll engine (requests ++ [request])).run view =
      ((last, outcomes ++ [outcome]), view'') := by
  induction requests generalizing engine view outcomes with
  | nil =>
    cases h
    rw [List.nil_append, executeAll, run_bind_of_eq hlast]
    rfl
  | cons first rest ih =>
    obtain ⟨⟨next, answer⟩, middle, hfirst, h⟩ := exists_of_run_bind h
    obtain ⟨⟨after, answers⟩, middle', hrest, heq⟩ := exists_of_run_bind h
    cases heq
    rw [List.cons_append, executeAll, run_bind_of_eq hfirst, run_bind_of_eq (ih hrest)]
    rfl

end JsEngine

namespace Exchange

open scoped List

variable {σ Engine : Type} [JsEngine (StateM σ) Engine] {start state next : Exchange σ Engine}
  {events : List PoolEvent}

omit [JsEngine (StateM σ) Engine] in
/-- What the workers serve, before and after one of them is replaced. -/
theorem exists_running {index : Nat} {worker : Worker σ Engine}
    (hworker : state.workers[index]? = some worker) (new : Worker σ Engine) :
    ∃ front back, state.running = front ++ worker.task.job?.toList ++ back ∧
      (state.setWorker index new).running = front ++ new.task.job?.toList ++ back := by
  obtain ⟨front, back, hsplit, hset⟩ := exists_of_getElem?_set hworker new
  have hjobs (between : Worker σ Engine) : (front ++ between :: back).filterMap (·.task.job?) =
      front.filterMap (·.task.job?) ++ between.task.job?.toList ++
        back.filterMap (·.task.job?) := by
    rw [List.filterMap_append, List.append_assoc]
    cases hjob : between.task.job? <;> simp [hjob]
  refine ⟨front.filterMap (·.task.job?), back.filterMap (·.task.job?), ?_, ?_⟩
  · rw [running, hsplit, hjobs]
  · rw [running, setWorker, hset, hjobs]

/-- Where the jobs of a pool are, in terms of what happened to them. -/
structure Flow (start : Exchange σ Engine) (events : List PoolEvent) (state : Exchange σ Engine) :
    Prop where
  capacity : state.capacity = start.capacity
  /-- Nobody is hired. -/
  staff : state.workers.length = start.workers.length
  /-- The queue holds what was accepted last. -/
  fifo : accepted events = (started events).map Prod.snd ++ state.queue
  /-- What was started is finished, or a worker is at it. -/
  conserved : ((started events).map Prod.snd).Perm
    ((finished events).map Completion.job ++ state.running)
  /-- A worker starts a job when it is done with those before. -/
  serial : ∀ index worker, state.workers[index]? = some worker →
    startedOn events index =
      (finishedOn events index).map Completion.job ++ worker.task.job?.toList
  /-- The outcomes of a worker are those of its engine, one job after the other. -/
  simulates : ∀ index first worker, start.workers[index]? = some first →
    state.workers[index]? = some worker →
      (JsEngine.executeAll first.engine
        ((finishedOn events index).map (·.job.request))).run first.view =
        ((worker.engine, (finishedOn events index).map (·.outcome)), worker.view)
  /-- An outcome is what an engine made of the request. -/
  produced : ∀ done ∈ finished events, ∃ (engine : Engine) (view : σ),
    ((JsEngine.execute engine done.job.request : StateM σ _).run view).1.2 = done.outcome
  /-- All that happens is the work of one of the workers. -/
  startedBy : ∀ item ∈ started events, item.1 < state.workers.length
  finishedBy : ∀ done ∈ finished events, done.worker < state.workers.length
  bounded : state.queue.length ≤ max 1 state.capacity

namespace Flow

theorem refl (start : Exchange σ Engine) (hqueue : start.queue = [])
    (hidle : ∀ worker ∈ start.workers, worker.task.job? = none) : Flow start [] start where
  capacity := rfl
  staff := rfl
  fifo := hqueue.symm
  conserved := by
    have hrunning : start.running = [] := List.filterMap_eq_nil_iff.2 hidle
    rw [hrunning]
    exact .refl _
  serial index worker h := by
    rw [hidle worker (List.mem_of_getElem? h)]
    rfl
  simulates index first worker hfirst hworker := by
    cases hfirst.symm.trans hworker
    rfl
  produced := by simp [finished]
  startedBy := by simp [started]
  finishedBy := by simp [finished]
  bounded := by simp [hqueue]

/-- The flow depends on the queue and the workers alone. -/
theorem of_eq (h : Flow start events state) (hcapacity : next.capacity = state.capacity)
    (hqueue : next.queue = state.queue) (hworkers : next.workers = state.workers) :
    Flow start events next := by
  obtain ⟨capacity, phase, calls, queue, workers⟩ := next
  dsimp only at hcapacity hqueue hworkers
  subst hcapacity hqueue hworkers
  exact ⟨h.capacity, h.staff, h.fifo, h.conserved, h.serial, h.simulates, h.produced,
    h.startedBy, h.finishedBy, h.bounded⟩

/-- Every accepted job is in one place: in the queue, with a worker, or finished. -/
theorem places (h : Flow start events state) : (accepted events) ~
    state.queue ++ state.running ++ (finished events).map Completion.job := by
  rw [h.fifo]
  calc (started events).map Prod.snd ++ state.queue
      ~ (finished events).map Completion.job ++ state.running ++ state.queue :=
        h.conserved.append_right _
    _ ~ state.queue ++ ((finished events).map Completion.job ++ state.running) :=
        List.perm_append_comm
    _ ~ state.queue ++ (state.running ++ (finished events).map Completion.job) :=
        List.perm_append_comm.append_left _
    _ = state.queue ++ state.running ++ (finished events).map Completion.job := by
        rw [List.append_assoc]

/-- A pool with workers has workers. -/
theorem workers_ne_nil (h : Flow start events state) (hstart : start.workers ≠ []) :
    state.workers ≠ [] := by
  rw [← List.length_pos_iff, h.staff]
  exact List.length_pos_iff.2 hstart

theorem mem_accepted_of_finished (h : Flow start events state) {done : Completion}
    (hdone : done ∈ finished events) : done.job ∈ accepted events :=
  h.places.mem_iff.2 (List.mem_append_right _ (List.mem_map_of_mem hdone))

theorem mem_accepted_of_serving (h : Flow start events state) {index : Nat}
    {worker : Worker σ Engine} {job : Job} (hworker : state.workers[index]? = some worker)
    (hserving : worker.task = .serving job) : job ∈ accepted events := by
  have hrunning : job ∈ state.running :=
    List.mem_filterMap.2 ⟨worker, List.mem_of_getElem? hworker, by rw [hserving]; rfl⟩
  exact h.places.mem_iff.2 (List.mem_append_left _ (List.mem_append_right _ hrunning))

/-- A worker that neither takes a job nor is done with one. -/
theorem retask (h : Flow start events state) {index : Nat} {worker new : Worker σ Engine}
    (hworker : state.workers[index]? = some worker) (hengine : new.engine = worker.engine)
    (hview : new.view = worker.view) (hjob : new.task.job? = worker.task.job?) :
    Flow start events (state.setWorker index new) where
  capacity := h.capacity
  staff := by simpa [setWorker] using h.staff
  fifo := h.fifo
  conserved := by
    -- the worker has the same job before and after, so no job goes anywhere
    obtain ⟨front, back, hbefore, hafter⟩ := exists_running hworker new
    rw [hafter, hjob, ← hbefore]
    exact h.conserved
  serial other found hfound := by
    obtain ⟨rfl, rfl⟩ | ⟨-, hother⟩ := cases_of_getElem?_set hfound
    · rw [hjob]
      exact h.serial index worker hworker
    · exact h.serial other found hother
  simulates other first found hfirst hfound := by
    obtain ⟨rfl, rfl⟩ | ⟨-, hother⟩ := cases_of_getElem?_set hfound
    · rw [hengine, hview]
      exact h.simulates index first worker hfirst hworker
    · exact h.simulates other first found hfirst hother
  produced := h.produced
  startedBy := by simpa [setWorker] using h.startedBy
  finishedBy := by simpa [setWorker] using h.finishedBy
  bounded := h.bounded

/-- A job is accepted: it goes to the end of the queue. -/
theorem accept (h : Flow start events state) (hroom : state.queue.length < max 1 state.capacity)
    (job : Job) :
    Flow start (events ++ [.accepted job]) { state with queue := state.queue ++ [job] } where
  capacity := h.capacity
  staff := h.staff
  fifo := by simp [h.fifo]
  conserved := by
    rw [started_append, finished_append, started_accepted, finished_accepted, List.append_nil,
      List.append_nil]
    exact h.conserved
  serial index worker hworker := by simpa using h.serial index worker hworker
  simulates index first worker hfirst hworker := by
    simpa using h.simulates index first worker hfirst hworker
  produced := by simpa using h.produced
  startedBy := by simpa using h.startedBy
  finishedBy := by simpa using h.finishedBy
  bounded := by
    rw [List.length_append, List.length_singleton]
    exact hroom

/-- A job is started: a worker without one takes it from the front of the queue. -/
theorem take (h : Flow start events state) {index : Nat} {worker : Worker σ Engine} {job : Job}
    {rest : List Job} (hworker : state.workers[index]? = some worker)
    (hfree : worker.task.job? = none) (hqueue : state.queue = job :: rest) :
    Flow start (events ++ [.started index job])
      { state.setWorker index { worker with task := .serving job } with queue := rest } where
  capacity := h.capacity
  staff := by simpa [setWorker] using h.staff
  fifo := by simp [h.fifo, hqueue]
  conserved := by
    obtain ⟨front, back, hbefore, hafter⟩ :=
      exists_running hworker { worker with task := .serving job }
    have hconserved := h.conserved
    rw [hbefore, hfree, Option.toList_none, List.append_nil] at hconserved
    rw [started_append, finished_append, started_started, finished_started, List.append_nil,
      List.map_append, List.map_singleton]
    show _ ~ _ ++ (state.setWorker index { worker with task := .serving job }).running
    rw [hafter]
    -- the worker served nothing, and now serves what is started in addition
    calc (started events).map Prod.snd ++ [job]
        ~ job :: (started events).map Prod.snd := List.perm_append_singleton _ _
      _ ~ job :: ((finished events).map Completion.job ++ (front ++ back)) := hconserved.cons job
      _ = job :: ((finished events).map Completion.job ++ front ++ back) := by
        rw [List.append_assoc]
      _ ~ (finished events).map Completion.job ++ front ++ job :: back := List.perm_middle.symm
      _ = (finished events).map Completion.job ++ (front ++ [job] ++ back) := by simp
  serial other found hfound := by
    obtain ⟨rfl, rfl⟩ | ⟨hother, hold⟩ := cases_of_getElem?_set hfound
    · -- a worker without a job has finished all that it started
      have hserial := h.serial index worker hworker
      rw [hfree, Option.toList_none, List.append_nil] at hserial
      simp [hserial, Task.job?]
    · simpa [hother] using h.serial other found hold
  simulates other first found hfirst hfound := by
    rw [finishedOn_append, finishedOn_started, List.append_nil]
    obtain ⟨rfl, rfl⟩ | ⟨-, hold⟩ := cases_of_getElem?_set hfound
    · exact h.simulates index first worker hfirst hworker
    · exact h.simulates other first found hfirst hold
  produced := by simpa using h.produced
  startedBy := by
    have hindex : index < state.workers.length := (List.getElem?_eq_some_iff.1 hworker).1
    intro item hitem
    rw [started_append, started_started, List.mem_append, List.mem_singleton] at hitem
    rcases hitem with hitem | rfl
    · simpa [setWorker] using h.startedBy item hitem
    · simpa [setWorker] using hindex
  finishedBy := by simpa [setWorker] using h.finishedBy
  bounded := by
    have hbound := h.bounded
    rw [hqueue, List.length_cons] at hbound
    exact Nat.le_of_succ_le hbound

/-- A job is finished: its worker has none, and its engine is as the job left it. -/
theorem finish (h : Flow start events state) {index : Nat} {worker : Worker σ Engine} {job : Job}
    {engine : Engine} {view : σ} {outcome : Outcome}
    (hworker : state.workers[index]? = some worker) (hserving : worker.task = .serving job)
    (hanswer : (JsEngine.execute worker.engine job.request : StateM σ _).run worker.view =
      ((engine, outcome), view)) (calls : List Call) :
    Flow start (events ++ [.finished ⟨index, job, outcome⟩])
      { state.setWorker index { engine, view } with calls } where
  capacity := h.capacity
  staff := by simpa [setWorker] using h.staff
  fifo := by
    rw [accepted_append, started_append, accepted_finished, started_finished, List.append_nil,
      List.append_nil]
    exact h.fifo
  conserved := by
    obtain ⟨front, back, hbefore, hafter⟩ := exists_running hworker { engine, view }
    have hconserved := h.conserved
    rw [hbefore, hserving] at hconserved
    rw [started_append, finished_append, started_finished, finished_finished, List.append_nil,
      List.map_append, List.map_singleton]
    show _ ~ _ ++ (state.setWorker index { engine, view }).running
    rw [hafter]
    -- the job goes from among those that are served to the end of those that are finished
    calc (started events).map Prod.snd
        ~ (finished events).map Completion.job ++ (front ++ [job] ++ back) := hconserved
      _ = (finished events).map Completion.job ++ front ++ job :: back := by simp
      _ ~ job :: ((finished events).map Completion.job ++ front ++ back) := List.perm_middle
      _ = job :: ((finished events).map Completion.job ++ (front ++ back)) := by
        rw [List.append_assoc]
      _ ~ (finished events).map Completion.job ++ job :: (front ++ back) := List.perm_middle.symm
      _ = (finished events).map Completion.job ++ [job] ++ (front ++ [] ++ back) := by simp
  serial other found hfound := by
    obtain ⟨rfl, rfl⟩ | ⟨hother, hold⟩ := cases_of_getElem?_set hfound
    · have hserial := h.serial index worker hworker
      rw [hserving] at hserial
      simpa [Task.job?] using hserial
    · simpa [hother] using h.serial other found hold
  simulates other first found hfirst hfound := by
    obtain ⟨rfl, rfl⟩ | ⟨hother, hold⟩ := cases_of_getElem?_set hfound
    · rw [finishedOn_append, finishedOn_finished, if_pos rfl, List.map_append, List.map_append]
      -- the engine answers one more request in the state in which the last one left it
      have hbefore := h.simulates index first worker hfirst hworker
      exact JsEngine.executeAll_append hbefore hanswer
    · rw [finishedOn_append, finishedOn_finished, if_neg hother, List.append_nil]
      exact h.simulates other first found hfirst hold
  produced := by
    intro done hdone
    rw [finished_append, finished_finished, List.mem_append, List.mem_singleton] at hdone
    rcases hdone with hdone | rfl
    · exact h.produced done hdone
    · exact ⟨worker.engine, worker.view, by rw [hanswer]⟩
  startedBy := by simpa [setWorker] using h.startedBy
  finishedBy := by
    have hindex : index < state.workers.length := (List.getElem?_eq_some_iff.1 hworker).1
    intro done hdone
    rw [finished_append, finished_finished, List.mem_append, List.mem_singleton] at hdone
    rcases hdone with hdone | rfl
    · simpa [setWorker] using h.finishedBy done hdone
    · simpa [setWorker] using hindex
  bounded := h.bounded

/-- Every step keeps the flow. -/
theorem step (h : Flow start events state) {event : Option PoolEvent}
    (hstep : Step state event next) : Flow start (events ++ event.toList) next := by
  cases hstep with
  | call | refuse | bounce | receive | orphan | drop | shutdown | join =>
    rw [Option.toList_none, List.append_nil]
    exact h.of_eq rfl rfl rfl
  | accept ticket hcall hroom =>
    exact (h.accept hroom _).of_eq rfl rfl rfl
  | lock index hworker hidle =>
    rw [Option.toList_none, List.append_nil]
    exact h.retask hworker rfl rfl (by rw [hidle]; rfl)
  | take index hworker hreceiving hqueue =>
    exact h.take hworker (by rw [hreceiving]; rfl) hqueue
  | finish index hworker hserving hanswer => exact h.finish hworker hserving hanswer _
  | stop index hworker hreceiving =>
    rw [Option.toList_none, List.append_nil]
    exact h.retask hworker rfl rfl (by rw [hreceiving]; rfl)

end Flow

end Exchange

end SfcBundler
