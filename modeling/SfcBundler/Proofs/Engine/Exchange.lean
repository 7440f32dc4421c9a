import SfcBundler.Proofs.Engine.Replies
import SfcBundler.Proofs.Walk.Account

/-!
# A pool at work keeps order

Whatever the order in which callers and workers take their steps: an accepted request is in one
place and is executed once, requests start in the order in which they were accepted, a caller gets
the response to its own request, and closing a pool leaves nothing undone. With one worker this is
executing the requests one after the other. All this holds whatever the engines are.

## Main definitions

* `JsEngine.EchoesIds`: engines that answer under the id of the request
* `Exchange.Orderly`: what holds of a pool at work, in terms of what happened in it

## Main results

* `ScriptEngine.echoesIds`: the engines of every runtime answer under the id of the request
* `Exchange.Closed.run`: a closed pool stays closed
* `EnginePool.orderly_of_run`: every pool keeps order, after any number of steps
-/

namespace SfcBundler

/-- Engines that answer a request under its own id. -/
def JsEngine.EchoesIds (σ Engine : Type) [JsEngine (StateM σ) Engine] : Prop :=
  ∀ (engine : Engine) (request : Request) (response : Response) (seen : σ),
    ((execute engine request : StateM σ _).run seen).1.2 = .ok response → response.id = request.id

/-- Whatever a runtime gives, the response is made with the id of the request. -/
theorem ScriptEngine.echoesIds {σ Context : Type} [ScriptCalls (StateM σ) Context] :
    JsEngine.EchoesIds σ (ScriptEngine Context) := by
  intro engine request response seen h
  obtain ⟨⟨result, context⟩, after, hserve⟩ : ∃ answer after,
      ((serve request).run.run engine.context : StateM σ _).run seen = (answer, after) :=
    ⟨_, _, rfl⟩
  have hresult : result.map (fun result => Response.mk request.id result) = .ok response := by
    change ((engine.execute request : StateM σ _).run seen).1.2 = .ok response at h
    rwa [execute, run_bind_of_eq hserve] at h
  cases result with
  | error error => cases hresult
  | ok value =>
    obtain rfl := Except.ok.inj hresult
    rfl

variable {σ Engine : Type} [JsEngine (StateM σ) Engine]

namespace Exchange

variable {start state next : Exchange σ Engine} {events : List PoolEvent}

/-- A closed pool: closing it has returned, nothing is queued, all workers have stopped, and all
calls but the first ones were turned away. -/
structure Closed (calls : Nat) (state : Exchange σ Engine) : Prop where
  phase : state.phase = .closed
  queue : state.queue = []
  workers : ∀ worker ∈ state.workers, worker.task = .stopped
  settled : ∀ call ∈ state.calls, call.state.underWay = false
  turnedAway : ∀ ticket call, calls ≤ ticket → state.calls[ticket]? = some call →
    call.state = .returned (.error .closed)

namespace Closed

variable {calls : Nat}

omit [JsEngine (StateM σ) Engine] in
/-- Nobody is under way in a closed pool. -/
theorem not_underWay (h : Closed calls state) {ticket : Nat} {call : Call}
    (hcall : state.calls[ticket]? = some call) : call.state.underWay = false :=
  h.settled call (List.mem_of_getElem? hcall)

omit [JsEngine (StateM σ) Engine] in
/-- Nobody is at work in a closed pool. -/
theorem stopped (h : Closed calls state) {index : Nat} {worker : Worker σ Engine}
    (hworker : state.workers[index]? = some worker) : worker.task = .stopped :=
  h.workers worker (List.mem_of_getElem? hworker)

/-- The only step of a closed pool is to turn a request away. -/
theorem step (h : Closed calls state) (hcalls : calls ≤ state.calls.length)
    {event : Option PoolEvent} (hstep : Step state event next) :
    event = none ∧ Closed calls next ∧ calls ≤ next.calls.length := by
  -- every other step needs an open pool, a call under way or a worker that has not stopped
  cases hstep with
  | call request hphase => exact absurd (h.phase.symm.trans hphase) nofun
  | refuse request =>
    refine ⟨rfl, ⟨h.phase, h.queue, h.workers, fun call hcall => ?_,
      fun ticket call hticket hcall => ?_⟩, by simp; omega⟩
    · rcases List.mem_append.1 hcall with hcall | hcall
      · exact h.settled call hcall
      · rw [List.mem_singleton.1 hcall]
        rfl
    · rw [List.getElem?_append] at hcall
      split at hcall
      · exact h.turnedAway ticket call hticket hcall
      · rw [List.mem_singleton.1 (List.mem_of_getElem? hcall)]
  | accept ticket hcall => exact absurd (h.not_underWay hcall) nofun
  | bounce ticket hcall => exact absurd (h.not_underWay hcall) nofun
  | receive ticket hcall => exact absurd (h.not_underWay hcall) nofun
  | orphan ticket hcall => exact absurd (h.not_underWay hcall) nofun
  | drop ticket hcall hstate => exact absurd ((h.not_underWay hcall).symm.trans hstate) nofun
  | lock index hworker hidle => exact absurd ((h.stopped hworker).symm.trans hidle) nofun
  | take index hworker hreceiving => exact absurd ((h.stopped hworker).symm.trans hreceiving) nofun
  | finish index hworker hserving => exact absurd ((h.stopped hworker).symm.trans hserving) nofun
  | stop index hworker hreceiving => exact absurd ((h.stopped hworker).symm.trans hreceiving) nofun
  | shutdown hphase => exact absurd (h.phase.symm.trans hphase) nofun
  | join hphase => exact absurd (h.phase.symm.trans hphase) nofun

/-- A closed pool stays closed: nothing happens in it any more, and whoever calls is turned away. -/
theorem run (h : Closed calls state) (hcalls : calls ≤ state.calls.length)
    {more : List PoolEvent} {later : Exchange σ Engine} (hrun : Run state more later) :
    more = [] ∧ Closed calls later ∧ calls ≤ later.calls.length := by
  induction hrun with
  | refl => exact ⟨rfl, h, hcalls⟩
  | step _ hstep ih =>
    obtain ⟨rfl, hclosed, hlength⟩ := ih
    obtain ⟨rfl, hnext, hlength⟩ := hclosed.step hlength hstep
    exact ⟨rfl, hnext, hlength⟩

end Closed

/-- What holds of a pool at work after these events. -/
structure Orderly (pool : EnginePool Engine) (capacity : Nat) (view : σ) (events : List PoolEvent)
    (state : Exchange σ Engine) : Prop where
  /-- No request is accepted twice. -/
  nodup : ((accepted events).map Job.ticket).Nodup
  /-- Every accepted request is in one place: queued, running, or finished. -/
  places : (accepted events).Perm
    (state.queue ++ state.running ++ (finished events).map Completion.job)
  /-- No request is started twice. -/
  once : ((started events).map fun item => item.2.ticket).Nodup
  /-- Requests start in the order in which they are accepted; those that wait are queued. -/
  fifo : accepted events = (started events).map Prod.snd ++ state.queue
  /-- An engine starts a request when it is done with those before. -/
  serial : ∀ (index : Nat) (worker : Worker σ Engine), state.workers[index]? = some worker →
    startedOn events index =
      (finishedOn events index).map Completion.job ++ worker.task.job?.toList
  bounded : state.queue.length ≤ max 1 capacity
  /-- A caller is told the outcome of its own request, or its request was never accepted. -/
  told : ∀ (ticket : Nat) (request : Request) (outcome : Outcome),
    state.calls[ticket]? = some ⟨request, .returned outcome⟩ →
      (outcome = .error .closed ∧ ∀ job ∈ accepted events, job.ticket ≠ ticket) ∨
      ∃ worker, Completion.mk worker ⟨ticket, request⟩ outcome ∈ finished events
  /-- The outcomes that come from a worker are those of its own engine, which executes the requests
  one after the other. -/
  own : ∀ (index : Nat) (engine : Engine), pool.engines[index]? = some engine →
    ((JsEngine.executeAll engine ((finishedOn events index).map (·.job.request))).run view).1.2 =
      (finishedOn events index).map (·.outcome)
  /-- A response is what an engine made of the caller's own request. -/
  response : ∀ (ticket : Nat) (request : Request) (response : Response),
    state.calls[ticket]? = some ⟨request, .returned (.ok response)⟩ →
      ∃ (engine : Engine) (seen : σ),
        ((JsEngine.execute engine request : StateM σ _).run seen).1.2 = .ok response
  /-- It has the id of the request, if that is how the engines answer. -/
  identified : JsEngine.EchoesIds σ Engine →
    ∀ (ticket : Nat) (request : Request) (response : Response),
      state.calls[ticket]? = some ⟨request, .returned (.ok response)⟩ → response.id = request.id
  /-- When closing the pool returns, every accepted request was executed, abandoned ones too. -/
  drained : state.phase = .closed →
    (accepted events).Perm ((finished events).map Completion.job)
  /-- From then on nothing is accepted, and every call is told that the pool is closed. -/
  shut : state.phase = .closed → ∀ more later, Run state more later →
    more = [] ∧ later.phase = .closed ∧
      ∀ (ticket : Nat) (call : Call), state.calls.length ≤ ticket →
        later.calls[ticket]? = some call → call.state = .returned (.error .closed)
  /-- One worker executes the requests one after the other, as they were accepted. -/
  alone : ∀ engine, pool.engines = [engine] →
    (finished events).map Completion.job = (accepted events).take (finished events).length ∧
      ((JsEngine.executeAll engine (((accepted events).take (finished events).length).map
        Job.request)).run view).1.2 = (finished events).map Completion.outcome

end Exchange

namespace EnginePool

open Exchange

variable {pool : EnginePool Engine} {capacity : Nat} {view : σ} {events : List PoolEvent}
  {state : Exchange σ Engine}

/-- What every step of a pool keeps holds after any number of them. -/
theorem invariants_of_run (hworkers : pool.engines ≠ [])
    (hrun : Run (pool.open capacity view) events state) :
    Flow (pool.open capacity view) events state ∧ Ending state ∧ Book events state := by
  have hidle : ∀ worker ∈ (pool.open capacity view).workers, worker.task = .idle := by
    intro worker hworker
    obtain ⟨engine, -, rfl⟩ := List.mem_map.1 hworker
    rfl
  induction hrun with
  | refl =>
    refine ⟨.refl _ rfl fun worker hworker => ?_, .refl _ rfl hidle, .refl _ rfl⟩
    rw [hidle worker hworker]
    rfl
  | step _ hstep ih =>
    obtain ⟨hflow, hending, hbook⟩ := ih
    have hstaff := hflow.workers_ne_nil (by simpa [EnginePool.open] using hworkers)
    exact ⟨hflow.step hstep, hending.step hstep, hbook.step hflow hending hstaff hstep⟩

/-- The outcomes that come from a worker are those of the engine that it began with. -/
theorem own_of_flow {index : Nat} {engine : Engine}
    (hflow : Flow (pool.open capacity view) events state)
    (hengine : pool.engines[index]? = some engine) :
    ((JsEngine.executeAll engine ((finishedOn events index).map (·.job.request))).run view).1.2 =
      (finishedOn events index).map (·.outcome) := by
  have hfirst : (pool.open capacity view).workers[index]? = some { engine, view } := by
    rw [EnginePool.open, List.getElem?_map, hengine]
    rfl
  obtain ⟨worker, hworker⟩ : ∃ worker, state.workers[index]? = some worker := by
    have hindex := (List.getElem?_eq_some_iff.1 hfirst).1
    rw [← hflow.staff] at hindex
    exact ⟨_, List.getElem?_eq_getElem hindex⟩
  exact congrArg (fun pair => pair.1.2) (hflow.simulates index _ worker hfirst hworker)

/-- One worker finishes the jobs in the order in which they were accepted, and each outcome is the
next one of its engine, which executes the requests one after the other. -/
theorem alone_of_flow {engine : Engine} (hflow : Flow (pool.open capacity view) events state)
    (halone : pool.engines = [engine]) :
    (finished events).map Completion.job = (accepted events).take (finished events).length ∧
      ((JsEngine.executeAll engine (((accepted events).take (finished events).length).map
        Job.request)).run view).1.2 = (finished events).map Completion.outcome := by
  obtain rfl : pool = ⟨[engine]⟩ := congrArg EnginePool.mk halone
  obtain ⟨worker, hworker⟩ := List.length_eq_one_iff.1 (hflow.staff.trans rfl)
  have hfound : state.workers[0]? = some worker := by rw [hworker]; rfl
  -- there is only one worker that could have done anything
  have hfirst (index : Nat) (h : index < state.workers.length) : index = 0 := by
    rw [hworker, List.length_singleton] at h
    exact Nat.lt_one_iff.1 h
  have hstarted : startedOn events 0 = (started events).map Prod.snd := by
    rw [startedOn, List.filter_eq_self.2 fun item hitem => ?_]
    exact decide_eq_true (hfirst _ (hflow.startedBy item hitem))
  have hfinished : finishedOn events 0 = finished events :=
    List.filter_eq_self.2 fun done hdone => decide_eq_true (hfirst _ (hflow.finishedBy done hdone))
  have hserial := hflow.serial 0 worker hfound
  rw [hstarted, hfinished] at hserial
  have hjobs : (finished events).map Completion.job =
      (accepted events).take (finished events).length := by
    rw [hflow.fifo, hserial, List.append_assoc, List.take_left' (List.length_map _)]
  refine ⟨hjobs, ?_⟩
  have hown := own_of_flow hflow (show [engine][0]? = some engine from rfl)
  rw [hfinished] at hown
  rwa [← hjobs, List.map_map]

/-- Every pool with a worker keeps order. -/
theorem keepsOrder (hworkers : pool.engines ≠ [])
    (hrun : Run (pool.open capacity view) events state) :
    Orderly pool capacity view events state := by
  obtain ⟨hflow, hending, hbook⟩ := invariants_of_run hworkers hrun
  have hstaff := hflow.workers_ne_nil (by simpa [EnginePool.open] using hworkers)
  -- closing the pool returns when all workers have stopped, and each of them left nothing undone
  have hclosed (h : state.phase = .closed) : Closed state.calls.length state := by
    obtain ⟨worker, hworker⟩ := List.exists_mem_of_ne_nil _ hstaff
    have hstopped := hending.closed h
    obtain ⟨-, hqueue, hsettled⟩ := hending.stopped worker hworker (hstopped worker hworker)
    refine ⟨h, hqueue, hstopped, hsettled, fun ticket call hticket hcall => ?_⟩
    rw [List.getElem?_eq_none hticket] at hcall
    cases hcall
  have hproduced (ticket : Nat) (request : Request) (response : Response)
      (hcall : state.calls[ticket]? = some ⟨request, .returned (.ok response)⟩) :
      ∃ (engine : Engine) (seen : σ),
        ((JsEngine.execute engine request : StateM σ _).run seen).1.2 = .ok response := by
    rcases hbook.keeps ticket _ hcall with ⟨hrefused, -⟩ | ⟨worker, hdone⟩
    · cases hrefused
    · exact hflow.produced _ hdone
  refine {
    nodup := hbook.nodup
    places := hflow.places
    once := ?_
    fifo := hflow.fifo
    serial := hflow.serial
    bounded := ?_
    told := fun ticket request outcome hcall => hbook.keeps ticket _ hcall
    own := fun index engine => own_of_flow hflow
    response := hproduced
    identified := fun hechoes ticket request response hcall => by
      obtain ⟨engine, seen, houtcome⟩ := hproduced ticket request response hcall
      exact hechoes engine request response seen houtcome
    drained := fun h => ?_
    shut := fun h more later hrun => ?_
    alone := fun engine halone => alone_of_flow hflow halone }
  · -- what was started was accepted before
    have hnodup := hbook.nodup
    rw [hflow.fifo, List.map_append, List.map_map] at hnodup
    exact (List.nodup_append.1 hnodup).1
  · have hbounded := hflow.bounded
    rwa [hflow.capacity] at hbounded
  · have hplaces := hflow.places
    have hrunning : state.running = [] := List.filterMap_eq_nil_iff.2 fun worker hworker => by
      rw [(hclosed h).workers worker hworker]
      rfl
    rwa [(hclosed h).queue, hrunning] at hplaces
  · obtain ⟨hmore, hlater, -⟩ := (hclosed h).run (Nat.le_refl _) hrun
    exact ⟨hmore, hlater.phase, hlater.turnedAway⟩

/-- Every pool with a worker keeps order, whatever its engines are, after any number of steps of its
callers and workers; and the engines of every runtime answer under the ids of their requests. -/
theorem orderly_of_run (hworkers : pool.engines ≠ [])
    (hrun : Run (pool.open capacity view) events state) :
    Orderly pool capacity view events state ∧
      ∀ (Context : Type) [ScriptCalls (StateM σ) Context],
        JsEngine.EchoesIds σ (ScriptEngine Context) :=
  ⟨keepsOrder hworkers hrun, fun _ _ => ScriptEngine.echoesIds⟩

end EnginePool

section Abandoned

open Exchange

/-- An engine that adds up the numbers that are sent to it. -/
structure Tally where
  sum : Nat := 0

instance : JsEngine (StateM Unit) Tally where
  execute tally request :=
    match request.args with
    | [.number (.integer (.ofNat number))] =>
      let sum := tally.sum + number
      return (⟨sum⟩, .ok ⟨request.id, .nat sum⟩)
    | _ => return (tally, .error (.thrown "not a number"))

/-- A pool of one engine that adds up. -/
def counting : EnginePool Tally := ⟨[{}]⟩

/-- Count a number. -/
def countRequest (id : String) (number : Nat) : Request := ⟨id, "bump", [.nat number]⟩

/-- The first request is being served when the second is accepted and given up. Then the pool is
closed, and a third request comes too late. -/
theorem exists_run_abandoned : ∃ events state,
    Run (counting.open 1 ()) events state ∧ state.phase = .closed ∧
      (accepted events).map Job.ticket = [0, 1] ∧ state.calls.length = 3 := by
  have run : Run (counting.open 1 ()) [] _ := .refl
  replace run := run.step (.call (countRequest "a" 2) rfl)
  replace run := run.step (.call (countRequest "b" 3) rfl)
  replace run := run.step (.accept 0 rfl (by decide) ⟨_, List.mem_cons_self, by rintro ⟨⟩⟩)
  replace run := run.step (.lock 0 rfl rfl (by simp [counting, EnginePool.open, setCall]))
  replace run := run.step (.take 0 rfl rfl rfl)
  replace run := run.step (.accept 1 rfl (by decide) ⟨_, List.mem_cons_self, by rintro ⟨⟩⟩)
  replace run := run.step (.drop 1 rfl rfl)
  replace run := run.step (.finish 0 rfl rfl rfl)
  replace run := run.step (.receive 0 rfl)
  replace run := run.step (.shutdown rfl)
  replace run := run.step (.refuse (countRequest "c" 4) (by rintro ⟨⟩))
  replace run := run.step (.lock 0 rfl rfl
    (by simp [counting, EnginePool.open, setCall, setWorker]))
  replace run := run.step (.take 0 rfl rfl rfl)
  replace run := run.step (.finish 0 rfl rfl rfl)
  replace run := run.step (.lock 0 rfl rfl
    (by simp [counting, EnginePool.open, setCall, setWorker]))
  replace run := run.step (.stop 0 rfl rfl (by rintro ⟨⟩) rfl (by decide))
  replace run := run.step (.join rfl (by simp [counting, EnginePool.open, setCall, setWorker]))
  exact ⟨_, _, run, rfl, rfl, rfl⟩

/-- The pool keeps order: both requests were executed, and the caller that stayed has its
response. -/
theorem orderly_abandoned : counting.engines ≠ [] ∧ ∃ events state,
    Run (counting.open 1 ()) events state ∧ state.phase = .closed ∧
      (accepted events).map Job.ticket = [0, 1] ∧ state.calls.length = 3 ∧
      Orderly counting 1 () events state := by
  have hworkers : counting.engines ≠ [] := nofun
  obtain ⟨events, state, hrun, hphase, htickets, hcalls⟩ := exists_run_abandoned
  exact ⟨hworkers, events, state, hrun, hphase, htickets, hcalls,
    (EnginePool.orderly_of_run hworkers hrun).1⟩

end Abandoned

end SfcBundler
