import SfcBundler.Proofs.Engine.Flow

/-!
# Calls of a pool and their replies

A call is told the outcome of its own request and of no other. A call that is turned away was never
accepted. And the last worker goes home when everybody has been served.

## Main definitions

* `Exchange.Keeps`, `Exchange.Book`: how far a call has come, in terms of what happened to its job
* `Exchange.Ending`: what a worker that has stopped leaves

## Main results

* `Exchange.Ending.step`, `Exchange.Book.step`: every step of a pool keeps them
-/

namespace SfcBundler

@[simp]
theorem Call.reply_request (outcome : Outcome) (call : Call) :
    (call.reply outcome).request = call.request := by
  obtain ⟨request, state⟩ := call
  cases state <;> rfl

namespace Exchange

/-- The calls after an outcome was sent to one of them. -/
theorem getElem?_reply {calls : List Call} {ticket other : Nat} {outcome : Outcome} {call : Call}
    (h : (calls.modify ticket (Call.reply outcome))[other]? = some call) :
    ∃ old, calls[other]? = some old ∧
      ((call = old ∧ (old.state = .waiting → ticket ≠ other)) ∨
        (ticket = other ∧ old.state = .waiting ∧ call = ⟨old.request, .replied outcome⟩)) := by
  rw [List.getElem?_modify] at h
  obtain ⟨⟨request, state⟩, hold, rfl⟩ := Option.map_eq_some_iff.1 h
  refine ⟨⟨request, state⟩, hold, ?_⟩
  by_cases hsame : ticket = other
  · rw [if_pos hsame]
    cases state with
    | waiting => exact .inr ⟨hsame, rfl, rfl⟩
    | sending | replied | returned | dropped => exact .inl ⟨rfl, nofun⟩
  · rw [if_neg hsame]
    exact .inl ⟨rfl, fun _ => hsame⟩

variable {σ Engine : Type} {start state next : Exchange σ Engine} {events : List PoolEvent}

/-- How far a call has come, in terms of what happened to its job. -/
def Keeps (events : List PoolEvent) (ticket : Nat) (call : Call) : Prop :=
  match call.state with
  | .sending => ∀ job ∈ accepted events, job.ticket ≠ ticket
  | .waiting => ⟨ticket, call.request⟩ ∈ accepted events ∧
      ∀ done ∈ finished events, done.job.ticket ≠ ticket
  | .replied outcome => ∃ worker, ⟨worker, ⟨ticket, call.request⟩, outcome⟩ ∈ finished events
  | .returned outcome =>
      (outcome = .error .closed ∧ ∀ job ∈ accepted events, job.ticket ≠ ticket) ∨
      ∃ worker, ⟨worker, ⟨ticket, call.request⟩, outcome⟩ ∈ finished events
  | .dropped => True

/-- What happens to the jobs of other calls does not matter to a call. -/
theorem Keeps.append {ticket : Nat} {call : Call} {more : List PoolEvent}
    (h : Keeps events ticket call) (haccepted : ∀ job ∈ accepted more, job.ticket ≠ ticket)
    (hfinished : call.state = .waiting → ∀ done ∈ finished more, done.job.ticket ≠ ticket) :
    Keeps (events ++ more) ticket call := by
  obtain ⟨request, callState⟩ := call
  have hjobs (hold : ∀ job ∈ accepted events, job.ticket ≠ ticket) :
      ∀ job ∈ accepted (events ++ more), job.ticket ≠ ticket := by
    intro job hjob
    rw [accepted_append] at hjob
    exact (List.mem_append.1 hjob).elim (hold job) (haccepted job)
  cases callState with
  | sending => exact hjobs h
  | waiting =>
    refine ⟨?_, fun done hdone => ?_⟩
    · rw [accepted_append]
      exact List.mem_append_left _ h.1
    · rw [finished_append] at hdone
      exact (List.mem_append.1 hdone).elim (h.2 done) (hfinished rfl done)
  | replied outcome =>
    obtain ⟨worker, hdone⟩ := h
    exact ⟨worker, by rw [finished_append]; exact List.mem_append_left _ hdone⟩
  | returned outcome =>
    rcases h with ⟨hclosed, hold⟩ | ⟨worker, hdone⟩
    · exact .inl ⟨hclosed, hjobs hold⟩
    · exact .inr ⟨worker, by rw [finished_append]; exact List.mem_append_left _ hdone⟩
  | dropped => trivial

/-- The calls of a pool, in terms of what happened to their jobs. -/
structure Book (events : List PoolEvent) (state : Exchange σ Engine) : Prop where
  /-- No job is accepted twice. -/
  nodup : ((accepted events).map Job.ticket).Nodup
  /-- A job is that of a call. -/
  known : ∀ job ∈ accepted events, ∃ call, state.calls[job.ticket]? = some call ∧
    call.request = job.request
  keeps : ∀ ticket call, state.calls[ticket]? = some call → Keeps events ticket call

/-- What a worker that has stopped leaves: an empty queue, and nobody who waits. -/
structure Ending (state : Exchange σ Engine) : Prop where
  stopped : ∀ worker ∈ state.workers, worker.task = .stopped → state.phase ≠ .accepting ∧
    state.queue = [] ∧ ∀ call ∈ state.calls, call.state.underWay = false
  closed : state.phase = .closed → ∀ worker ∈ state.workers, worker.task = .stopped

namespace Ending

theorem refl (start : Exchange σ Engine) (hphase : start.phase = .accepting)
    (hidle : ∀ worker ∈ start.workers, worker.task = .idle) : Ending start where
  stopped worker hworker hstopped := by
    rw [hidle worker hworker] at hstopped
    cases hstopped
  closed h := by
    rw [hphase] at h
    cases h

/-- While a call is under way no worker has stopped. -/
theorem not_stopped (h : Ending state) {ticket : Nat} {call : Call}
    (hcall : state.calls[ticket]? = some call) (hstate : call.state.underWay = true) :
    ∀ worker ∈ state.workers, worker.task ≠ .stopped := by
  intro worker hworker hstopped
  have hover := (h.stopped worker hworker hstopped).2.2 call (List.mem_of_getElem? hcall)
  rw [hstate] at hover
  cases hover

/-- A call that is over is put in a call's place. -/
theorem setCall (h : Ending state) (ticket : Nat) {call : Call}
    (hcall : call.state.underWay = false) : Ending (state.setCall ticket call) where
  stopped worker hworker hstopped := by
    obtain ⟨hphase, hqueue, hcalls⟩ := h.stopped worker hworker hstopped
    refine ⟨hphase, hqueue, fun other hother => ?_⟩
    rcases List.mem_or_eq_of_mem_set hother with hother | rfl
    · exact hcalls other hother
    · exact hcall
  closed := h.closed

/-- While a worker is at work closing the pool is not done. -/
theorem not_closed (h : Ending state) {index : Nat} {worker : Worker σ Engine}
    (hworker : state.workers[index]? = some worker) (hbusy : worker.task ≠ .stopped) :
    state.phase ≠ .closed :=
  fun hclosed => hbusy (h.closed hclosed worker (List.mem_of_getElem? hworker))

/-- A worker who is at work does something else; to stop, it needs a reason. -/
theorem setWorker (h : Ending state) {index : Nat} {worker : Worker σ Engine}
    (new : Worker σ Engine) (hworker : state.workers[index]? = some worker) (hbusy : worker.task ≠ .stopped)
    (hnew : new.task = .stopped → state.phase ≠ .accepting ∧ state.queue = [] ∧
      ∀ call ∈ state.calls, call.state.underWay = false) : Ending (state.setWorker index new) where
  stopped other hother hstopped := by
    rcases List.mem_or_eq_of_mem_set hother with hother | rfl
    · exact h.stopped other hother hstopped
    · exact hnew hstopped
  closed hclosed := absurd hclosed (h.not_closed hworker hbusy)

variable [JsEngine (StateM σ) Engine]

/-- Every step keeps the ending. -/
theorem step (h : Ending state) {event : Option PoolEvent} (hstep : Step state event next) :
    Ending next := by
  cases hstep with
  | call request hphase =>
    refine ⟨fun worker hworker hstopped => ?_, h.closed⟩
    exact absurd hphase (h.stopped worker hworker hstopped).1
  | refuse request hphase =>
    refine ⟨fun worker hworker hstopped => ?_, h.closed⟩
    obtain ⟨-, hqueue, hcalls⟩ := h.stopped worker hworker hstopped
    refine ⟨hphase, hqueue, fun call hcall => ?_⟩
    rcases List.mem_append.1 hcall with hcall | hcall
    · exact hcalls call hcall
    · rw [List.mem_singleton.1 hcall]
      rfl
  | accept ticket hcall =>
    refine ⟨fun worker hworker hstopped => ?_, h.closed⟩
    exact absurd hstopped (h.not_stopped hcall rfl worker hworker)
  | bounce | receive | orphan | drop => exact h.setCall _ rfl
  | lock index hworker hidle =>
    exact h.setWorker _ hworker (by rw [hidle]; nofun) nofun
  | @take index worker job rest hworker hreceiving hqueue =>
    have hnext := h.setWorker { worker with task := .serving job } hworker
      (by rw [hreceiving]; nofun) nofun
    refine ⟨fun other hother hstopped => ?_, hnext.closed⟩
    -- a worker that has stopped left no job in the queue
    have hempty := (hnext.stopped other hother hstopped).2.1
    cases hqueue.symm.trans hempty
  | @finish index worker job engine view outcome hworker hserving hanswer =>
    have hnext := h.setWorker { engine, view } hworker (by rw [hserving]; nofun) nofun
    refine ⟨fun other hother hstopped => ?_, hnext.closed⟩
    obtain ⟨hphase, hqueue, hcalls⟩ := hnext.stopped other hother hstopped
    refine ⟨hphase, hqueue, fun call hcall => ?_⟩
    obtain ⟨ticket, hcall⟩ := List.mem_iff_getElem?.1 hcall
    obtain ⟨old, hold, ⟨rfl, -⟩ | ⟨-, hwaiting, -⟩⟩ := getElem?_reply hcall
    · exact hcalls _ (List.mem_of_getElem? hold)
    · have hover := hcalls _ (List.mem_of_getElem? hold)
      rw [hwaiting] at hover
      cases hover
  | shutdown hphase =>
    refine ⟨fun worker hworker hstopped => ?_, nofun⟩
    exact absurd hphase (h.stopped worker hworker hstopped).1
  | stop index hworker hreceiving hphase hqueue hcalls =>
    exact h.setWorker _ hworker (by rw [hreceiving]; nofun) fun _ => ⟨hphase, hqueue, hcalls⟩
  | join hphase hworkers =>
    refine ⟨fun worker hworker hstopped => ?_, fun _ => hworkers⟩
    exact ⟨nofun, (h.stopped worker hworker hstopped).2⟩

end Ending

namespace Book

theorem refl (start : Exchange σ Engine) (hcalls : start.calls = []) : Book [] start where
  nodup := .nil
  known := nofun
  keeps ticket call h := by
    rw [hcalls] at h
    cases h

/-- The book depends on the calls alone. -/
theorem of_eq (h : Book events state) (hcalls : next.calls = state.calls) : Book events next := by
  obtain ⟨capacity, phase, calls, queue, workers⟩ := next
  dsimp only at hcalls
  subst hcalls
  exact ⟨h.nodup, h.known, h.keeps⟩

/-- Events other than these do not matter to the book. -/
theorem append (h : Book events state) {more : List PoolEvent} (haccepted : accepted more = [])
    (hfinished : finished more = []) : Book (events ++ more) state where
  nodup := by
    rw [accepted_append, haccepted, List.append_nil]
    exact h.nodup
  known := by
    rw [accepted_append, haccepted, List.append_nil]
    exact h.known
  keeps ticket call hcall :=
    (h.keeps ticket call hcall).append (by simp [haccepted]) (by simp [hfinished])

/-- A call that is not made yet has no job. -/
theorem not_accepted (h : Book events state) :
    ∀ job ∈ accepted events, job.ticket ≠ state.calls.length := by
  intro job hjob hticket
  obtain ⟨call, hcall, -⟩ := h.known job hjob
  rw [hticket, List.getElem?_eq_none (Nat.le_refl _)] at hcall
  cases hcall

/-- A call is made. -/
theorem addCall (h : Book events state) {call : Call}
    (hcall : Keeps events state.calls.length call) :
    Book events { state with calls := state.calls ++ [call] } where
  nodup := h.nodup
  known job hjob := by
    obtain ⟨old, hold, hrequest⟩ := h.known job hjob
    have hindex := (List.getElem?_eq_some_iff.1 hold).1
    exact ⟨old, by rwa [List.getElem?_append_left hindex], hrequest⟩
  keeps ticket found hfound := by
    rw [List.getElem?_append] at hfound
    split at hfound
    · exact h.keeps ticket found hfound
    · rename_i hindex
      -- the call that is new has the number of calls so far
      have hzero : ticket - state.calls.length = 0 := by
        simpa using (List.getElem?_eq_some_iff.1 hfound).1
      rw [hzero] at hfound
      obtain rfl : call = found := Option.some.inj hfound
      obtain rfl : ticket = state.calls.length := by omega
      exact hcall

/-- A call that goes on keeps its request. -/
theorem known_setCall (h : Book events state) {ticket : Nat} {old : Call} (call : Call)
    (hold : state.calls[ticket]? = some old) (hrequest : call.request = old.request) :
    ∀ job ∈ accepted events, ∃ found, (state.setCall ticket call).calls[job.ticket]? = some found ∧
      found.request = job.request := by
  intro job hjob
  obtain ⟨found, hfound, hjobRequest⟩ := h.known job hjob
  by_cases hsame : ticket = job.ticket
  · subst hsame
    obtain rfl : old = found := Option.some.inj (hold.symm.trans hfound)
    have hindex := (List.getElem?_eq_some_iff.1 hold).1
    exact ⟨call, List.getElem?_set_self hindex, hrequest.trans hjobRequest⟩
  · exact ⟨found, by rwa [Exchange.setCall, List.getElem?_set_ne hsame], hjobRequest⟩

/-- A call goes on. -/
theorem setCall (h : Book events state) {ticket : Nat} {old call : Call}
    (hold : state.calls[ticket]? = some old) (hrequest : call.request = old.request)
    (hcall : Keeps events ticket call) : Book events (state.setCall ticket call) where
  nodup := h.nodup
  known := h.known_setCall call hold hrequest
  keeps other found hfound := by
    obtain ⟨rfl, rfl⟩ | ⟨-, hfound⟩ := cases_of_getElem?_set hfound
    · exact hcall
    · exact h.keeps other found hfound

/-- A call's request is accepted. -/
theorem accept (h : Book events state) {ticket : Nat} {request : Request}
    (hcall : state.calls[ticket]? = some ⟨request, .sending⟩)
    (hfinished : ∀ done ∈ finished events, done.job ∈ accepted events) :
    Book (events ++ [.accepted ⟨ticket, request⟩]) (state.setCall ticket ⟨request, .waiting⟩) where
  nodup := by
    -- a call that is still being sent has no job yet
    have hfresh : ∀ job ∈ accepted events, job.ticket ≠ ticket := h.keeps ticket _ hcall
    rw [accepted_append, accepted_accepted, List.map_append, List.map_singleton]
    refine (List.perm_append_singleton _ _).nodup_iff.2 (List.nodup_cons.2 ⟨fun hticket => ?_,
      h.nodup⟩)
    obtain ⟨job, hjob, hsame⟩ := List.mem_map.1 hticket
    exact hfresh job hjob hsame
  known job hjob := by
    rw [accepted_append, accepted_accepted] at hjob
    rcases List.mem_append.1 hjob with hjob | hjob
    · exact h.known_setCall ⟨request, .waiting⟩ hcall rfl job hjob
    · obtain rfl := List.mem_singleton.1 hjob
      have hindex := (List.getElem?_eq_some_iff.1 hcall).1
      exact ⟨⟨request, .waiting⟩, List.getElem?_set_self hindex, rfl⟩
  keeps other found hfound := by
    have hfresh : ∀ job ∈ accepted events, job.ticket ≠ ticket := h.keeps ticket _ hcall
    obtain ⟨rfl, rfl⟩ | ⟨hother, hfound⟩ := cases_of_getElem?_set hfound
    · refine ⟨by simp, fun done hdone => ?_⟩
      rw [finished_append, finished_accepted, List.append_nil] at hdone
      exact hfresh done.job (hfinished done hdone)
    · exact (h.keeps other found hfound).append (by simpa using hother) (by simp)

/-- A job is finished, and its call, if it still waits, has its reply. -/
theorem finish (h : Book events state) (done : Completion) (hjob : done.job ∈ accepted events) :
    Book (events ++ [.finished done])
      { state with calls := state.calls.modify done.job.ticket (Call.reply done.outcome) } where
  nodup := by
    rw [accepted_append, accepted_finished, List.append_nil]
    exact h.nodup
  known job hknown := by
    rw [accepted_append, accepted_finished, List.append_nil] at hknown
    obtain ⟨call, hcall, hrequest⟩ := h.known job hknown
    by_cases hsame : done.job.ticket = job.ticket
    · exact ⟨call.reply done.outcome, by simp [hcall, hsame], by simpa⟩
    · exact ⟨call, by simp [hcall, hsame], hrequest⟩
  keeps ticket found hfound := by
    obtain ⟨old, hold, ⟨rfl, hwaiting⟩ | ⟨rfl, -, rfl⟩⟩ := getElem?_reply hfound
    · refine (h.keeps ticket _ hold).append (by simp) fun hstate other hother => ?_
      rw [finished_finished, List.mem_singleton] at hother
      rw [hother]
      exact hwaiting hstate
    · -- the job that is finished is the one that was accepted for this call
      obtain ⟨call, hcall, hrequest⟩ := h.known done.job hjob
      obtain rfl := Option.some.inj (hold.symm.trans hcall)
      refine ⟨done.worker, ?_⟩
      rw [finished_append, finished_finished, hrequest]
      exact List.mem_append_right _ (List.mem_singleton_self done)

variable [JsEngine (StateM σ) Engine]

/-- Nobody who waits is forgotten: while a worker is left its job is in the queue or with a
worker. -/
theorem not_orphan (h : Book events state) (hflow : Flow start events state)
    (hending : Ending state) (hstaff : state.workers ≠ []) {ticket : Nat} {request : Request}
    (hcall : state.calls[ticket]? = some ⟨request, .waiting⟩) :
    ¬ ((∀ worker ∈ state.workers, worker.task = .stopped) ∨
      ⟨ticket, request⟩ ∉ state.queue ++ state.running) := by
  rintro (hstopped | hlost)
  · obtain ⟨worker, hworker⟩ := List.exists_mem_of_ne_nil _ hstaff
    exact hending.not_stopped hcall rfl worker hworker (hstopped worker hworker)
  · obtain ⟨haccepted, hunfinished⟩ := h.keeps ticket _ hcall
    rcases List.mem_append.1 (hflow.places.mem_iff.1 haccepted) with hplace | hplace
    · exact hlost hplace
    · obtain ⟨done, hdone, hjob⟩ := List.mem_map.1 hplace
      exact hunfinished done hdone (by rw [hjob])

/-- Every step keeps the book. -/
theorem step (h : Book events state) (hflow : Flow start events state) (hending : Ending state)
    (hstaff : state.workers ≠ []) {event : Option PoolEvent} (hstep : Step state event next) :
    Book (events ++ event.toList) next := by
  cases hstep with
  | call request =>
    rw [Option.toList_none, List.append_nil]
    exact h.addCall h.not_accepted
  | refuse request =>
    rw [Option.toList_none, List.append_nil]
    exact h.addCall (.inl ⟨rfl, h.not_accepted⟩)
  | accept ticket hcall =>
    exact (h.accept hcall fun _ hdone => hflow.mem_accepted_of_finished hdone).of_eq rfl
  | bounce ticket hcall =>
    rw [Option.toList_none, List.append_nil]
    exact h.setCall hcall rfl (.inl ⟨rfl, h.keeps _ _ hcall⟩)
  | @finish index worker job engine view outcome hworker hserving hanswer =>
    have hjob := hflow.mem_accepted_of_serving hworker hserving
    exact (h.finish ⟨index, job, outcome⟩ hjob).of_eq rfl
  | receive ticket hcall =>
    rw [Option.toList_none, List.append_nil]
    exact h.setCall hcall rfl (.inr (h.keeps _ _ hcall))
  | orphan ticket hcall hlost => exact absurd hlost (h.not_orphan hflow hending hstaff hcall)
  | drop ticket hcall =>
    rw [Option.toList_none, List.append_nil]
    exact h.setCall hcall rfl trivial
  | lock | take | shutdown | stop | join => exact (h.append rfl rfl).of_eq rfl

end Book

end Exchange

end SfcBundler
