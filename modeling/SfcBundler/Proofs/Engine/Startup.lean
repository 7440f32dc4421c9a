import Mathlib.Algebra.GroupWithZero.Nat
import SfcBundler.Guest.Runtime
import SfcBundler.Proofs.Engine.Flow
import SfcBundler.Proofs.Engine.Reports

/-!
# Starting a pool takes no notice of time

In whatever order workers are started, make their engines and report, starting a pool comes to an
end, and what it comes to depends on their outcomes alone. If the workers share one script, it is
compiled once for all of them, as soon as one of them has a context that is ready for it. The
contexts need not be alike: what a worker gets depends on its own context and on the script, not on
those who came before.

## Main definitions

* `Startup.Balanced`: the reports taken, those on their way and those sent, in one account
* `Startup.toDo`: the steps that are left
* `Startup.Obeys`, `Startup.Follows`: a law of a factory, and workers that got what it says
* `Startup.ComesTo`: starting a pool ends in one way
* `CompilerCache.IsSound`, `Startup.Compiles`: a script in use, and what workers with one come to

## Main results

* `Startup.exists_step`, `Startup.toDo_step`: starting a pool goes on, but not for ever
* `Startup.settles_of_run`: what a pool comes to depends on the outcomes of its workers
* `Startup.comesTo_of_obeys`: what a pool comes to whose factory has a law
* `Startup.comesTo_factory`: what workers with one script come to
* `Startup.comesTo_start`: if their contexts are alike, they come to what they come to one after the
  other
* `Startup.timeless`: the order of the steps does not matter
-/

namespace SfcBundler

open scoped List

namespace Launch

variable {Engine : Type}

/-- How many steps a worker can still cause. -/
def toDo : Launch Engine → Nat
  | pending => 3
  | made _ => 2
  | reported _ => 0

theorem eq_reported_of_isSome {launch : Launch Engine} (h : launch.reported?.isSome = true) :
    ∃ outcome, launch = reported outcome := by
  cases launch with
  | reported outcome => exact ⟨outcome, rfl⟩
  | _ => cases h

/-- When all have reported, the workers are known by their reports. -/
theorem eq_map_reported {launches : List (Launch Engine)}
    (h : ∀ launch ∈ launches, launch.reported?.isSome = true) :
    launches = (launches.filterMap reported?).map reported := by
  induction launches with
  | nil => rfl
  | cons launch launches ih =>
    obtain ⟨hfirst, hrest⟩ := List.forall_mem_cons.1 h
    obtain ⟨outcome, rfl⟩ := eq_reported_of_isSome hfirst
    rw [List.filterMap_cons, reported?, List.map_cons, ← ih hrest]

end Launch

namespace Startup

open Gathering

variable {σ Engine : Type} {factory : EngineFactory σ Engine} {start state next : Startup σ Engine}
  {count steps : Nat} {received : List (Except EngineError Engine)}

/-! ### The account of reports -/

/-- The reports sent are those taken and those on their way. Once starting the pool is over, all
workers have reported. -/
structure Balanced (count : Nat) (received : List (Except EngineError Engine))
    (state : Startup σ Engine) : Prop where
  workers : state.unstarted + state.launches.length = count
  reports : received ++ state.reports ~ state.launches.filterMap Launch.reported?
  gathering : state.gathering = ofReports count received
  taken : Taken received
  ended : ∀ verdict, state.verdict = some verdict →
    state.gathering.isOver = true ∧ state.gathering.verdict = verdict ∧ state.unstarted = 0 ∧
      ∀ launch ∈ state.launches, launch.reported?.isSome = true

namespace Balanced

theorem begin (shared : σ) (workers : Nat) :
    Balanced (max workers 1) [] (Startup.begin shared workers : Startup σ Engine) where
  workers := Nat.add_zero _
  reports := .refl _
  gathering := rfl
  taken := .harmless fun _ => nofun
  ended := nofun

theorem length_add_length (h : Balanced count received state) :
    received.length + state.reports.length =
      (state.launches.filterMap Launch.reported?).length := by
  rw [← List.length_append]
  exact h.reports.length_eq

/-- When no more reports are expected, all of them were taken. -/
theorem all_reported (h : Balanced count received state) (hleft : state.gathering.left = 0) :
    state.reports = [] ∧ ∀ launch ∈ state.launches, launch.reported?.isSome = true := by
  rw [h.gathering, left_ofReports] at hleft
  have hworkers := h.workers
  have hlength := h.length_add_length
  have hle := List.length_filterMap_le Launch.reported? state.launches
  refine ⟨List.eq_nil_of_length_eq_zero (by omega), fun launch hlaunch => ?_⟩
  have hall : (state.launches.filterMap Launch.reported?).length = state.launches.length := by
    omega
  rw [List.length_filterMap_eq_countP, List.countP_eq_length] at hall
  exact hall launch hlaunch

/-- Once starting a pool is over, nothing more is done. -/
theorem not_over (h : Balanced count received state) (hstep : Step factory state next) :
    state.verdict = none := by
  cases hverdict : state.verdict with
  | none => rfl
  | some verdict =>
    obtain ⟨hover, -, hunstarted, hall⟩ := h.ended verdict hverdict
    cases hstep with
    | launch hrest => exact absurd (hrest.symm.trans hunstarted) (Nat.succ_ne_zero _)
    | make index hlaunch => cases hall _ (List.mem_of_getElem? hlaunch)
    | report index hlaunch => cases hall _ (List.mem_of_getElem? hlaunch)
    | take _ hgoing => cases hgoing.symm.trans hover
    | fail _ _ _ _ hpending => cases hpending.symm.trans hverdict
    | succeed _ _ _ hpending => cases hpending.symm.trans hverdict

/-- Every step keeps the account. -/
theorem step (h : Balanced count received state) (hstep : Step factory state next) :
    ∃ received, Balanced count received next := by
  have hnone := h.not_over hstep
  cases hstep with
  | @launch rest hunstarted =>
    refine ⟨received, ⟨?_, ?_, h.gathering, h.taken, fun _ hsome => ?_⟩⟩
    · have hworkers := h.workers
      simp only [List.length_append, List.length_singleton]
      omega
    · simpa [List.filterMap_cons, Launch.reported?] using h.reports
    · cases hnone.symm.trans hsome
  | @make index shared outcome hlaunch hmade =>
    obtain ⟨front, back, hlaunches, hset⟩ := exists_of_getElem?_set hlaunch (.made outcome)
    refine ⟨received, ⟨?_, ?_, h.gathering, h.taken, fun _ hsome => ?_⟩⟩
    · simpa [setLaunch] using h.workers
    · have hreports := h.reports
      rw [hlaunches] at hreports
      simpa [setLaunch, hset, List.filterMap_cons, Launch.reported?] using hreports
    · cases hnone.symm.trans hsome
  | @report index outcome hlaunch =>
    obtain ⟨front, back, hlaunches, hset⟩ := exists_of_getElem?_set hlaunch (.reported outcome)
    refine ⟨received, ⟨?_, ?_, h.gathering, h.taken, fun _ hsome => ?_⟩⟩
    · simpa [setLaunch] using h.workers
    · -- one more report is sent, and it is on its way
      have hreports := h.reports
      rw [hlaunches] at hreports
      simp only [setLaunch, hset, List.filterMap_append, Launch.reported?,
        List.filterMap_cons] at hreports ⊢
      rw [← List.append_assoc]
      exact (hreports.append_right [outcome]).trans
        ((List.perm_append_singleton outcome _).trans List.perm_middle.symm)
    · cases hnone.symm.trans hsome
  | @take outcome rest hunstarted hgoing hreports =>
    refine ⟨received ++ [outcome], ⟨h.workers, ?_, ?_, ?_, fun _ hsome => ?_⟩⟩
    · have hsent := h.reports
      rw [hreports] at hsent
      simpa using hsent
    · rw [ofReports_concat, h.gathering]
    · rw [h.gathering, isOver, Bool.or_eq_false_iff] at hgoing
      exact h.taken.concat hgoing.2 outcome
    · cases hnone.symm.trans hsome
  | fail hunstarted hover hverdict hended =>
    refine ⟨received, ⟨h.workers, h.reports, h.gathering, h.taken, fun _ hsome => ?_⟩⟩
    cases hsome
    exact ⟨hover, hverdict, hunstarted, hended⟩
  | @succeed pool hunstarted hover hverdict =>
    refine ⟨received, ⟨h.workers, h.reports, h.gathering, h.taken, fun _ hsome => ?_⟩⟩
    cases hsome
    refine ⟨hover, hverdict, hunstarted, (h.all_reported ?_).2⟩
    -- without a fatal failure the reports are over only when all were taken
    rw [Gathering.verdict] at hverdict
    split at hverdict
    · cases hverdict
    · simp_all [isOver]

end Balanced

theorem balanced_of_run {shared : σ} {workers : Nat}
    (h : Run factory (begin shared workers) steps state) :
    ∃ received, Balanced (max workers 1) received state := by
  induction h with
  | refl => exact ⟨[], .begin shared workers⟩
  | step _ hstep ih =>
    obtain ⟨received, hbalanced⟩ := ih
    exact hbalanced.step hstep

/-! ### Going on -/

/-- Until it is over, starting a pool goes on. -/
theorem exists_step (h : Balanced count received state) (hverdict : state.verdict = none) :
    ∃ next, Step factory state next := by
  cases hunstarted : state.unstarted with
  | succ rest => exact ⟨_, .launch hunstarted⟩
  | zero =>
    -- a worker that has not reported has a step to take; after that it is up to the reports
    by_cases hall : ∀ launch ∈ state.launches, launch.reported?.isSome = true
    · cases hover : state.gathering.isOver with
      | true =>
        cases hcomes : state.gathering.verdict with
        | error error => exact ⟨_, .fail hunstarted hover hcomes hall hverdict⟩
        | ok pool => exact ⟨_, .succeed hunstarted hover hcomes hverdict⟩
      | false =>
        -- all have reported, but not all reports were taken
        have hworkers := h.workers
        have hlength := h.length_add_length
        have hsent := congrArg List.length (Launch.eq_map_reported hall)
        rw [isOver, Bool.or_eq_false_iff, beq_eq_false_iff_ne, h.gathering, left_ofReports] at hover
        rw [List.length_map] at hsent
        obtain ⟨outcome, rest, hreports⟩ := List.exists_cons_of_length_pos
          (show 0 < state.reports.length by omega)
        refine ⟨_, .take hunstarted ?_ hreports⟩
        rw [isOver, Bool.or_eq_false_iff, beq_eq_false_iff_ne, h.gathering, left_ofReports]
        exact hover
    · push Not at hall
      obtain ⟨launch, hlaunch, hreported⟩ := hall
      obtain ⟨index, hindex⟩ := List.mem_iff_getElem?.1 hlaunch
      cases launch with
      | pending => exact ⟨_, .make index hindex rfl⟩
      | made outcome => exact ⟨_, .report index hindex⟩
      | reported outcome => exact absurd rfl hreported

/-- How many steps are left at most. -/
def toDo (state : Startup σ Engine) : Nat :=
  4 * state.unstarted + (state.launches.map Launch.toDo).sum + state.reports.length +
    if state.verdict.isSome then 0 else 1

/-- A worker that goes on takes what is left to it off the sum, and puts there what is left
afterwards. -/
theorem sum_toDo_set {launches : List (Launch Engine)} {index : Nat} {launch : Launch Engine}
    (h : launches[index]? = some launch) (next : Launch Engine) :
    ((launches.set index next).map Launch.toDo).sum + launch.toDo =
      (launches.map Launch.toDo).sum + next.toDo := by
  obtain ⟨front, back, rfl, hset⟩ := exists_of_getElem?_set h next
  rw [hset]
  simp only [List.map_append, List.sum_append, List.map_cons, List.sum_cons]
  omega

/-- Every step leaves one less. -/
theorem toDo_step (h : Step factory state next) : next.toDo + 1 = state.toDo := by
  cases h with
  | launch hunstarted =>
    simp only [toDo, hunstarted, List.map_append, List.sum_append, List.map_cons, List.map_nil,
      List.sum_cons, List.sum_nil, Launch.toDo]
    omega
  | @make index shared outcome hlaunch hmade =>
    have hsum := sum_toDo_set hlaunch (.made outcome)
    simp only [Launch.toDo] at hsum
    dsimp only [toDo, setLaunch]
    omega
  | @report index outcome hlaunch =>
    -- the worker has two steps less to do, and its report is one more to take
    have hsum := sum_toDo_set hlaunch (.reported outcome)
    simp only [Launch.toDo] at hsum
    dsimp only [toDo, setLaunch]
    rw [List.length_append, List.length_singleton]
    omega
  | take hunstarted hgoing hreports =>
    simp only [toDo, hreports, List.length_cons]
    omega
  | fail _ _ _ _ hpending => simp [toDo, hpending]
  | succeed _ _ _ hpending => simp [toDo, hpending]

theorem toDo_run (h : Run factory start steps state) : steps + state.toDo = start.toDo := by
  induction h with
  | refl => exact Nat.zero_add _
  | step _ hstep ih =>
    have := toDo_step hstep
    omega

/-! ### What it comes to -/

/-- What a pool comes to depends on the outcomes of its workers, not on when they are known. -/
theorem settles_of_run {shared : σ} {workers : Nat}
    {verdict : Except EngineError (EnginePool Engine)}
    (h : Run factory (begin shared workers) steps state) (hverdict : state.verdict = some verdict) :
    ∃ outcomes, outcomes.length = max workers 1 ∧
      state.launches = outcomes.map Launch.reported ∧ EnginePool.Settles outcomes verdict := by
  obtain ⟨received, hbalanced⟩ := balanced_of_run h
  obtain ⟨hover, hcomes, hunstarted, hall⟩ := hbalanced.ended verdict hverdict
  have hlaunches := Launch.eq_map_reported hall
  have hlength : (state.launches.filterMap Launch.reported?).length = max workers 1 := by
    have hworkers := hbalanced.workers
    have hsame := congrArg List.length hlaunches
    rw [List.length_map] at hsame
    omega
  refine ⟨_, hlength, hlaunches, ?_⟩
  have hreports := hbalanced.reports
  rw [hbalanced.gathering] at hcomes hover
  rw [verdict_ofReports hbalanced.taken] at hcomes
  rcases hbalanced.taken with hharmless | @⟨front, error, hfront, hfatal⟩
  · -- all reports were taken
    have hleft : (ofReports (max workers 1) received).left = 0 := by
      simpa [isOver, isFatal_of_harmless hharmless] using hover
    rw [(hbalanced.all_reported (hbalanced.gathering ▸ hleft)).1, List.append_nil] at hreports
    rw [← hcomes]
    refine (EnginePool.settles_gather ?_).of_perm hreports
    rintro rfl
    rw [left_ofReports, List.length_nil] at hleft
    omega
  · -- a fatal failure was among the reports
    have hgather := EnginePool.settles_gather (List.concat_ne_nil (.error error) front)
    obtain ⟨other, hother, hfatal⟩ := hgather.fatal.2 ⟨error, by simp, hfatal⟩
    rw [← hcomes, hother]
    exact EnginePool.settles_of_fatal
      (hreports.mem_iff.1 (List.mem_append_left _ (hgather.failure other hother))) hfatal

/-- A law of a factory: what holds of all that it shares, how a worker leaves that, which no other
worker undoes, and what each worker gets, whoever came before. -/
structure Obeys (factory : EngineFactory σ Engine) (keeps : σ → Prop) (leaves : Nat → σ → Prop)
    (gives : Nat → Except EngineError Engine) : Prop where
  shared : ∀ shared, keeps shared → ∀ index, keeps (factory index shared).1
  asked : ∀ shared, keeps shared → ∀ index, leaves index (factory index shared).1
  stable : ∀ shared, keeps shared → ∀ index other, leaves other shared →
    leaves other (factory index shared).1
  outcome : ∀ shared, keeps shared → ∀ index, (factory index shared).2 = gives index

/-- What the workers got, and how they left what the factory shares, is what its law says. -/
structure Follows (keeps : σ → Prop) (leaves : Nat → σ → Prop)
    (gives : Nat → Except EngineError Engine) (state : Startup σ Engine) : Prop where
  shared : keeps state.shared
  made : ∀ index launch outcome, state.launches[index]? = some launch →
    launch.outcome? = some outcome → leaves index state.shared ∧ outcome = gives index

section Follows

variable {keeps : σ → Prop} {leaves : Nat → σ → Prop} {gives : Nat → Except EngineError Engine}

theorem Follows.step (hfactory : Obeys factory keeps leaves gives)
    (h : Follows keeps leaves gives state) (hstep : Step factory state next) :
    Follows keeps leaves gives next := by
  cases hstep with
  | launch =>
    refine ⟨h.shared, fun index launch outcome hlaunch houtcome => ?_⟩
    rw [List.getElem?_append] at hlaunch
    split at hlaunch
    · exact h.made index launch outcome hlaunch houtcome
    · rw [List.mem_singleton.1 (List.mem_of_getElem? hlaunch)] at houtcome
      cases houtcome
  | @make index shared outcome hlaunch hmade =>
    have hkeeps := hfactory.shared state.shared h.shared index
    have hasked := hfactory.asked state.shared h.shared index
    have hstable := hfactory.stable state.shared h.shared index
    have hgives := hfactory.outcome state.shared h.shared index
    rw [hmade] at hkeeps hasked hstable hgives
    refine ⟨hkeeps, fun other launch found hfound houtcome => ?_⟩
    rcases cases_of_getElem?_set hfound with ⟨rfl, rfl⟩ | ⟨-, hother⟩
    · cases houtcome
      exact ⟨hasked, hgives⟩
    · exact (h.made other launch found hother houtcome).imp_left (hstable other)
  | @report index outcome hlaunch =>
    refine ⟨h.shared, fun other launch found hfound houtcome => ?_⟩
    rcases cases_of_getElem?_set hfound with ⟨rfl, rfl⟩ | ⟨-, hother⟩
    · exact h.made _ _ found hlaunch houtcome
    · exact h.made other launch found hother houtcome
  | take | fail | succeed => exact ⟨h.shared, h.made⟩

theorem follows_of_run (hfactory : Obeys factory keeps leaves gives) {shared : σ} {workers : Nat}
    (hshared : keeps shared) (h : Run factory (begin shared workers) steps state) :
    Follows keeps leaves gives state := by
  induction h with
  | refl => exact ⟨hshared, nofun⟩
  | step _ hstep ih => exact ih.step hfactory hstep

end Follows

/-- Starting a pool ends, and it ends in one way: it goes on until it is over, it takes no more than
a number of steps, and then something holds of the outcome. -/
structure ComesTo (factory : EngineFactory σ Engine) (start : Startup σ Engine)
    (holds : σ → Except EngineError (EnginePool Engine) → Prop) : Prop where
  goesOn : ∀ steps state, Run factory start steps state → state.verdict = none →
    ∃ next, Step factory state next
  bounded : ∃ bound, ∀ steps state, Run factory start steps state → steps ≤ bound
  holds : ∀ steps state verdict, Run factory start steps state → state.verdict = some verdict →
    holds state.shared verdict

namespace ComesTo

variable {holds : σ → Except EngineError (EnginePool Engine) → Prop}

theorem begin {shared : σ} {workers : Nat}
    (h : ∀ steps state verdict, Run factory (begin shared workers) steps state →
      state.verdict = some verdict → holds state.shared verdict) :
    ComesTo factory (Startup.begin shared workers) holds where
  goesOn steps state hrun hnone := by
    obtain ⟨received, hbalanced⟩ := balanced_of_run hrun
    exact exists_step hbalanced hnone
  bounded := ⟨(Startup.begin shared workers).toDo, fun steps state hrun => by
    have := toDo_run hrun
    omega⟩
  holds := h

/-- There is a way to come to it. -/
theorem exists_run (h : ComesTo factory start holds) : ∃ steps state verdict,
    Run factory start steps state ∧ state.verdict = some verdict ∧ holds state.shared verdict := by
  obtain ⟨bound, hbound⟩ := h.bounded
  -- a run that is not over can be made longer, up to the bound
  have hlonger : ∀ left steps state, Run factory start steps state → bound + 1 - steps = left →
      ∃ steps state verdict, Run factory start steps state ∧ state.verdict = some verdict := by
    intro left
    induction left with
    | zero =>
      intro steps state hrun hleft
      have := hbound steps state hrun
      omega
    | succ left ih =>
      intro steps state hrun hleft
      cases hverdict : state.verdict with
      | some verdict => exact ⟨steps, state, verdict, hrun, hverdict⟩
      | none =>
        obtain ⟨next, hstep⟩ := h.goesOn steps state hrun hverdict
        exact ih (steps + 1) next (hrun.step hstep) (by omega)
  obtain ⟨steps, state, verdict, hrun, hverdict⟩ := hlonger _ 0 start .refl rfl
  exact ⟨steps, state, verdict, hrun, hverdict, h.holds steps state verdict hrun hverdict⟩

end ComesTo

theorem ComesTo.imp {holds implied : σ → Except EngineError (EnginePool Engine) → Prop}
    (h : ComesTo factory start holds)
    (himplies : ∀ shared verdict, holds shared verdict → implied shared verdict) :
    ComesTo factory start implied where
  goesOn := h.goesOn
  bounded := h.bounded
  holds steps state verdict hrun hverdict :=
    himplies state.shared verdict (h.holds steps state verdict hrun hverdict)

/-- Where a law says what each worker gets, the pool comes to these outcomes, and every worker has
left what the factory shares as the law says. -/
theorem comesTo_of_obeys {keeps : σ → Prop} {leaves : Nat → σ → Prop}
    {gives : Nat → Except EngineError Engine} (hfactory : Obeys factory keeps leaves gives)
    {shared : σ} (hshared : keeps shared) (workers : Nat) :
    ComesTo factory (begin shared workers) fun after verdict =>
      EnginePool.Settles ((List.range (max workers 1)).map gives) verdict ∧ keeps after ∧
        ∀ index < max workers 1, leaves index after := by
  refine .begin fun steps state verdict hrun hverdict => ?_
  obtain ⟨outcomes, hlength, hlaunches, hsettles⟩ := settles_of_run hrun hverdict
  have hfollows := follows_of_run hfactory hshared hrun
  have hmade (index : Nat) (hindex : index < outcomes.length) :
      leaves index state.shared ∧ outcomes[index] = gives index := by
    refine hfollows.made index (.reported outcomes[index]) _ ?_ rfl
    rw [hlaunches, List.getElem?_map, List.getElem?_eq_getElem hindex]
    rfl
  have houtcomes : outcomes = (List.range (max workers 1)).map gives := by
    refine List.ext_getElem (by simp [hlength]) fun index hindex _ => ?_
    rw [List.getElem_map, List.getElem_range, (hmade index hindex).2]
  rw [← houtcomes]
  exact ⟨hsettles, hfollows.shared, fun index hindex => (hmade index (hlength ▸ hindex)).1⟩

/-- If no worker was started, and each for a reason that is not fatal, the pool fails like one of
them. -/
theorem exists_notStarted {gives : Nat → Except EngineError Engine} {workers : Nat}
    {verdict : Except EngineError (EnginePool Engine)}
    (hsettles : EnginePool.Settles ((List.range workers).map gives) verdict)
    (h : ∀ index < workers, ∃ text, gives index = .error (.notStarted text)) :
    ∃ index < workers, ∃ text, gives index = .error (.notStarted text) ∧
      verdict = .error (.notStarted text) := by
  have hnone : ∀ engine, .ok engine ∉ (List.range workers).map gives := by
    intro engine hengine
    obtain ⟨index, hindex, houtcome⟩ := List.mem_map.1 hengine
    obtain ⟨text, htext⟩ := h index (List.mem_range.1 hindex)
    cases htext.symm.trans houtcome
  obtain ⟨error, rfl, herror⟩ := hsettles.exists_error hnone
  obtain ⟨index, hindex, houtcome⟩ := List.mem_map.1 herror
  obtain ⟨text, htext⟩ := h index (List.mem_range.1 hindex)
  cases htext.symm.trans houtcome
  exact ⟨index, List.mem_range.1 hindex, text, htext, rfl⟩

/-- Whatever outcome is meant for each worker, the pool comes to these outcomes. -/
theorem comesTo_ofOutcomes (outcome : Nat → Except EngineError Engine) (workers : Nat) :
    ComesTo (.ofOutcomes outcome) (begin () workers) fun _ verdict =>
      EnginePool.Settles ((List.range (max workers 1)).map outcome) verdict := by
  have hfactory : Obeys (.ofOutcomes outcome) (fun _ => True) (fun _ _ => True) outcome :=
    ⟨fun _ _ _ => trivial, fun _ _ _ => trivial, fun _ _ _ _ _ => trivial, fun _ _ _ => rfl⟩
  exact (comesTo_of_obeys hfactory trivial workers).imp fun _ _ h => h.1

end Startup

/-! ### Engines for one script -/

section Script

variable {Context : Type} [ScriptRuntime Context]

namespace CompilerCache

variable {cache : CompilerCache Context}

/-- A cache that is in use: nobody has asked for the script yet, or it was compiled once. -/
inductive IsSound (cache : CompilerCache Context) : Prop
  | untried (h : cache.outcome = none) (hcompilations : cache.compilations = 0)
  | tried (h : cache.outcome = some cache.compile) (hcompilations : cache.compilations = 1)

theorem IsSound.bytecode_snd (h : cache.IsSound) : cache.bytecode.2 = cache.compile := by
  rw [bytecode]
  cases h with
  | untried h => rw [h]
  | tried h => rw [h]

/-- Whoever asks for the script, it is compiled once. -/
theorem IsSound.compilations_bytecode (h : cache.IsSound) : cache.bytecode.1.compilations = 1 := by
  rw [CompilerCache.compilations_bytecode, isCompiled]
  cases h with
  | untried h hcompilations => simp [h, hcompilations]
  | tried h hcompilations => simp [h, hcompilations]

theorem IsSound.compilations_le (h : cache.IsSound) : cache.compilations ≤ 1 := by
  cases h with
  | untried _ hcompilations => exact Nat.le_trans (Nat.le_of_eq hcompilations) (Nat.zero_le 1)
  | tried _ hcompilations => exact Nat.le_of_eq hcompilations

end CompilerCache

namespace ScriptSetup

variable {setup : ScriptSetup Context} {context : Context} {text : String}

/-- Where a context can be made ready, an engine is what the script makes of it. -/
theorem create_eq (h : setup.prepare = .ok context) (cache : CompilerCache Context) :
    setup.create cache = (cache.bytecode.1, cache.bytecode.2.bind fun script =>
      ((ScriptRuntime.evaluate script context).map ScriptEngine.mk).mapError .notStarted) := by
  rw [create, h]

/-- Where it cannot, nobody asks for the script. -/
theorem create_of_unprepared (h : setup.prepare = .error text) (cache : CompilerCache Context) :
    setup.create cache = (cache, .error (.notStarted text)) := by
  rw [create, h]

/-- Whether the script was asked for before makes no difference to a worker. -/
theorem create_bytecode (setup : ScriptSetup Context) (cache : CompilerCache Context) :
    setup.create cache.bytecode.1 = (cache.bytecode.1, (setup.create cache).2) := by
  cases hprepare : setup.prepare with
  | error text => simp [create_of_unprepared hprepare]
  | ok context => simp [create_eq hprepare]

/-- The next worker has the same outcome, and the script is not compiled again. -/
theorem create_create (setup : ScriptSetup Context) (cache : CompilerCache Context) :
    setup.create (setup.create cache).1 = setup.create cache := by
  cases hprepare : setup.prepare with
  | error text => simp [create_of_unprepared hprepare]
  | ok context => simp [create_eq hprepare]

section Outcome

variable {cache : CompilerCache Context} {script : ScriptRuntime.Bytecode Context}

theorem outcome_of_unprepared (hprepare : setup.prepare = .error text)
    (cache : CompilerCache Context) : (setup.create cache).2 = .error (.notStarted text) :=
  congrArg Prod.snd (create_of_unprepared hprepare cache)

theorem outcome_of_refused (hcache : cache.IsSound) (hprepare : setup.prepare = .ok context)
    (hrefused : @ScriptRuntime.compile Context _ cache.name cache.source = .error text) :
    (setup.create cache).2 = .error (.notCompiled cache.name text) := by
  rw [create_eq hprepare, hcache.bytecode_snd, CompilerCache.compile, hrefused]
  rfl

theorem outcome_of_compiled (hcache : cache.IsSound) (hprepare : setup.prepare = .ok context)
    (hscript : ScriptRuntime.compile cache.name cache.source = .ok script) :
    (setup.create cache).2 =
      ((ScriptRuntime.evaluate script context).map ScriptEngine.mk).mapError .notStarted := by
  rw [create_eq hprepare, hcache.bytecode_snd, CompilerCache.compile, hscript]
  rfl

/-- If the script is refused, that is the only fatal failure that a worker can have. -/
theorem eq_notCompiled_of_isFatal {error : EngineError} (hcache : cache.IsSound)
    (hrefused : @ScriptRuntime.compile Context _ cache.name cache.source = .error text)
    (h : (setup.create cache).2 = .error error) (hfatal : error.isFatal = true) :
    error = .notCompiled cache.name text := by
  cases hprepare : setup.prepare with
  | error reason =>
    cases h.symm.trans (outcome_of_unprepared hprepare cache)
    cases hfatal
  | ok context =>
    exact Except.error.inj (h.symm.trans (outcome_of_refused hcache hprepare hrefused))

/-- If it is accepted, no worker fails for good. -/
theorem isFatal_of_compiled {error : EngineError} (hcache : cache.IsSound)
    (hscript : ScriptRuntime.compile cache.name cache.source = .ok script)
    (h : (setup.create cache).2 = .error error) : error.isFatal = false := by
  cases hprepare : setup.prepare with
  | error reason =>
    cases h.symm.trans (outcome_of_unprepared hprepare cache)
    rfl
  | ok context =>
    rw [outcome_of_compiled hcache hprepare hscript] at h
    cases hevaluate : ScriptRuntime.evaluate script context with
    | error reason =>
      rw [hevaluate] at h
      cases h
      rfl
    | ok ran =>
      rw [hevaluate] at h
      cases h

end Outcome

end ScriptSetup

namespace EnginePool

theorem create_succ (setup : ScriptSetup Context) (cache : CompilerCache Context) (count : Nat) :
    create setup cache (count + 1) =
      ((setup.create cache).1, List.replicate (count + 1) (setup.create cache).2) := by
  induction count generalizing cache with
  | zero => rfl
  | succ count ih =>
    change ((create setup (setup.create cache).1 (count + 1)).1,
      (setup.create cache).2 :: (create setup (setup.create cache).1 (count + 1)).2) = _
    rw [ih, ScriptSetup.create_create, ← List.replicate_succ]

/-- A pool that is started for a script, one worker after the other. -/
theorem start_eq (setup : ScriptSetup Context) (cache : CompilerCache Context) (workers : Nat) :
    start setup cache workers = ((setup.create cache).1,
      (setup.create cache).2.map fun engine => ⟨List.replicate (max workers 1) engine⟩) := by
  obtain ⟨count, hcount⟩ := Nat.exists_eq_add_of_le' (Nat.le_max_right workers 1)
  have hne : List.replicate (count + 1) (setup.create cache).2 ≠ [] := List.cons_ne_nil _ _
  rw [start, hcount, create_succ]
  dsimp only
  rw [(settles_gather hne).eq_map]

end EnginePool

namespace Startup

variable {setup : Nat → ScriptSetup Context} {cache after : CompilerCache Context} {workers : Nat}
  {verdict : Except EngineError (EnginePool (ScriptEngine Context))}

/-- The script is as it was as long as no worker has a context that is ready, and then it was asked
for. What a worker gets does not depend on who came before. -/
theorem obeys_factory (setup : Nat → ScriptSetup Context) (cache : CompilerCache Context) :
    Obeys (ScriptSetup.factory setup)
      (fun shared => shared = cache ∨
        shared = cache.bytecode.1 ∧ ∃ index context, (setup index).prepare = .ok context)
      (fun index shared => ∀ context, (setup index).prepare = .ok context →
        shared = cache.bytecode.1)
      (fun index => ((setup index).create cache).2) := by
  -- once somebody has asked, nothing changes any more
  have hasked (index : Nat) : ScriptSetup.factory setup index cache.bytecode.1 =
      (cache.bytecode.1, ((setup index).create cache).2) :=
    (setup index).create_bytecode cache
  constructor
  · rintro shared (rfl | ⟨rfl, hready⟩) index
    · cases hprepare : (setup index).prepare with
      | error text =>
        exact .inl (congrArg Prod.fst (ScriptSetup.create_of_unprepared hprepare shared))
      | ok context =>
        exact .inr ⟨congrArg Prod.fst (ScriptSetup.create_eq hprepare shared), index, context,
          hprepare⟩
    · rw [hasked]
      exact .inr ⟨rfl, hready⟩
  · rintro shared (rfl | ⟨rfl, -⟩) index context hprepare
    · exact congrArg Prod.fst (ScriptSetup.create_eq hprepare shared)
    · rw [hasked]
  · rintro shared - index other hother context hprepare
    rw [hother context hprepare, hasked]
  · rintro shared (rfl | ⟨rfl, -⟩) index
    · rfl
    · rw [hasked]

/-- In whatever way contexts are made ready, workers with one script come to their own outcomes, and
the script was asked for if any of them has a context that is ready. -/
theorem comesTo_factory (setup : Nat → ScriptSetup Context) (cache : CompilerCache Context)
    (workers : Nat) :
    ComesTo (ScriptSetup.factory setup) (begin cache workers) fun after verdict =>
      EnginePool.Settles
        ((List.range (max workers 1)).map fun index => ((setup index).create cache).2) verdict ∧
      (after = cache ∨
        after = cache.bytecode.1 ∧ ∃ index context, (setup index).prepare = .ok context) ∧
      ∀ index < max workers 1, ∀ context, (setup index).prepare = .ok context →
        after = cache.bytecode.1 :=
  comesTo_of_obeys (obeys_factory setup cache) (.inl rfl) workers

/-- Whatever the order of their steps, workers whose contexts are made ready in one way come to what
they come to one after the other. -/
theorem comesTo_start (setup : ScriptSetup Context) (cache : CompilerCache Context)
    (workers : Nat) :
    ComesTo (ScriptSetup.factory fun _ => setup) (begin cache workers) fun after verdict =>
      (after, verdict) = EnginePool.start setup cache workers := by
  refine (comesTo_factory (fun _ => setup) cache workers).imp fun after verdict h => ?_
  obtain ⟨hsettles, hshared, hasked⟩ := h
  rw [List.map_const', List.length_range] at hsettles
  have hafter : after = (setup.create cache).1 := by
    cases hprepare : setup.prepare with
    | error text =>
      rw [ScriptSetup.create_of_unprepared hprepare]
      rcases hshared with hsame | ⟨-, index, context, hready⟩
      · exact hsame
      · cases hprepare.symm.trans hready
    | ok context =>
      rw [ScriptSetup.create_eq hprepare]
      exact hasked 0 (Nat.lt_of_lt_of_le Nat.zero_lt_one (Nat.le_max_right workers 1)) context
        hprepare
  rw [EnginePool.start_eq, hafter, hsettles.eq_map]

/-- What workers with one script come to when a context is ready for it: the script is compiled
once, and they fail for good if it is refused, fail if it throws in every context, and otherwise the
engines in which it ran are there. -/
structure Compiles (setup : Nat → ScriptSetup Context) (before : CompilerCache Context)
    (workers : Nat) (after : CompilerCache Context)
    (verdict : Except EngineError (EnginePool (ScriptEngine Context))) : Prop where
  once : after.compilations = 1
  refused : ∀ refusal, @ScriptRuntime.compile Context _ before.name before.source = .error refusal →
    verdict = .error (.notCompiled before.name refusal)
  throws : ∀ script, ScriptRuntime.compile before.name before.source = .ok script →
    (∀ index < max workers 1, ∀ context, (setup index).prepare = .ok context →
      ∃ text, ScriptRuntime.evaluate script context = .error text) →
    ∃ text, verdict = .error (.notStarted text)
  runs : ∀ script, ScriptRuntime.compile before.name before.source = .ok script →
    ∀ index < max workers 1, ∀ context ran, (setup index).prepare = .ok context →
      ScriptRuntime.evaluate script context = .ok ran →
        ∃ pool, verdict = .ok pool ∧ ⟨ran⟩ ∈ pool.engines

theorem compiles_of_settles (hcache : cache.IsSound) (hafter : after = cache.bytecode.1)
    (hsettles : EnginePool.Settles
      ((List.range (max workers 1)).map fun index => ((setup index).create cache).2) verdict)
    {first : Nat} (hfirst : first < max workers 1) {context : Context}
    (hready : (setup first).prepare = .ok context) :
    Compiles setup cache workers after verdict := by
  have hmem (index : Nat) (hindex : index < max workers 1) :
      ((setup index).create cache).2 ∈
        (List.range (max workers 1)).map fun index => ((setup index).create cache).2 :=
    List.mem_map_of_mem (List.mem_range.2 hindex)
  constructor
  · rw [hafter, hcache.compilations_bytecode]
  · intro refusal hrefusal
    have hfatal := hmem first hfirst
    rw [ScriptSetup.outcome_of_refused hcache hready hrefusal] at hfatal
    obtain ⟨error, rfl, herror⟩ := hsettles.fatal.2 ⟨_, hfatal, rfl⟩
    -- the failure told of is that of a worker, and no other failure is fatal
    obtain ⟨index, -, houtcome⟩ := List.mem_map.1 (hsettles.failure error rfl)
    rw [ScriptSetup.eq_notCompiled_of_isFatal hcache hrefusal houtcome herror]
  · intro script hscript hthrows
    obtain ⟨-, -, text, -, hverdict⟩ := exists_notStarted hsettles fun index hindex => by
      cases hprepare : (setup index).prepare with
      | error text => exact ⟨text, ScriptSetup.outcome_of_unprepared hprepare cache⟩
      | ok context =>
        obtain ⟨text, htext⟩ := hthrows index hindex context hprepare
        refine ⟨text, ?_⟩
        rw [ScriptSetup.outcome_of_compiled hcache hprepare hscript, htext]
        rfl
    exact ⟨text, hverdict⟩
  · intro script hscript index hindex context ran hprepare hruns
    have hengine := hmem index hindex
    rw [ScriptSetup.outcome_of_compiled hcache hprepare hscript, hruns] at hengine
    obtain ⟨pool, rfl⟩ := hsettles.ready.2 ⟨fun error herror => by
      obtain ⟨other, -, houtcome⟩ := List.mem_map.1 herror
      exact ScriptSetup.isFatal_of_compiled hcache hscript houtcome, _, hengine⟩
    exact ⟨pool, rfl, (hsettles.engines pool rfl).mem_iff.2
      (EnginePool.mem_filterMap_toOption.2 hengine)⟩

/-- A pool whose workers have no context that is ready fails like one of them, but not for good, and
nobody has asked for the script. -/
theorem comesTo_of_unprepared (h : ∀ index, ∃ text, (setup index).prepare = .error text)
    (cache : CompilerCache Context) (workers : Nat) :
    ComesTo (ScriptSetup.factory setup) (begin cache workers) fun after verdict =>
      after = cache ∧ ∃ index < max workers 1, ∃ text, (setup index).prepare = .error text ∧
        verdict = .error (.notStarted text) := by
  refine (comesTo_factory setup cache workers).imp fun after verdict hcomes => ?_
  obtain ⟨hsettles, hshared, -⟩ := hcomes
  constructor
  · rcases hshared with hsame | ⟨-, index, context, hready⟩
    · exact hsame
    · obtain ⟨text, htext⟩ := h index
      cases htext.symm.trans hready
  · obtain ⟨index, hindex, text, houtcome, hverdict⟩ := exists_notStarted hsettles fun index _ => by
      obtain ⟨text, htext⟩ := h index
      exact ⟨text, ScriptSetup.outcome_of_unprepared htext cache⟩
    obtain ⟨other, hother⟩ := h index
    have htext := (ScriptSetup.outcome_of_unprepared hother cache).symm.trans houtcome
    cases htext
    exact ⟨index, hindex, text, hother, hverdict⟩

end Startup

end Script

namespace Startup

/-- Starting a pool takes no notice of time. In whatever order workers are started, make their
engines and report, and in whatever order the reports are taken, starting the pool ends, and with a
fatal failure exactly if a worker failed fatally, with another one exactly if none did and none has
an engine, and else with a pool of all the engines. So it is with workers that share one script,
whatever the runtime: the script is compiled at most once, and exactly once if a worker has a
context that is ready for it. If contexts are made ready in one way, the workers come to what they
come to one after the other. -/
theorem timeless :
    (∀ (Engine : Type) (outcome : Nat → Except EngineError Engine) (workers : Nat),
      ComesTo (.ofOutcomes outcome) (begin () workers) fun _ verdict =>
        EnginePool.Settles ((List.range (max workers 1)).map outcome) verdict) ∧
    (∀ (Context : Type) [ScriptRuntime Context] (setup : Nat → ScriptSetup Context)
      (cache : CompilerCache Context), cache.IsSound → ∀ workers : Nat,
      ComesTo (ScriptSetup.factory setup) (begin cache workers) fun after verdict =>
        EnginePool.Settles
          ((List.range (max workers 1)).map fun index => ((setup index).create cache).2) verdict ∧
        after.compilations ≤ 1 ∧
        ∀ index < max workers 1, ∀ context, (setup index).prepare = .ok context →
          Compiles setup cache workers after verdict) ∧
    ∀ (Context : Type) [ScriptRuntime Context] (setup : ScriptSetup Context)
      (cache : CompilerCache Context) (workers : Nat),
      ComesTo (ScriptSetup.factory fun _ => setup) (begin cache workers) fun after verdict =>
        (after, verdict) = EnginePool.start setup cache workers := by
  refine ⟨fun _ => comesTo_ofOutcomes, fun Context _ setup cache hcache workers => ?_,
    fun _ _ => comesTo_start⟩
  refine (comesTo_factory setup cache workers).imp fun after verdict hcomes => ?_
  obtain ⟨hsettles, hshared, hasked⟩ := hcomes
  refine ⟨hsettles, ?_, fun index hindex context hprepare => ?_⟩
  · rcases hshared with rfl | ⟨rfl, -⟩
    · exact hcache.compilations_le
    · exact Nat.le_of_eq hcache.compilations_bytecode
  · exact compiles_of_settles hcache (hasked index hindex context hprepare) hsettles hindex hprepare

/-- A script of the guest that throws. -/
def throwing : CompilerCache Guest := { name := "boom.js", source := "throw new Error('boom')" }

/-- Three workers with a script that throws: it is compiled once, and the pool fails, but not for
good. -/
theorem timeless_throws : throwing.IsSound ∧ ∃ steps state text,
    Run (ScriptSetup.factory fun _ => {}) (begin throwing 3) steps state ∧
      state.verdict = some (.error (.notStarted text)) ∧ state.shared.compilations = 1 := by
  have hsound : throwing.IsSound := .untried rfl rfl
  have hscript : Program.ofSource throwing.source = .ok [.throw "new Error('boom')"] := by
    decide
  obtain ⟨steps, state, verdict, hrun, hverdict, -, -, hcompiles⟩ :=
    (timeless.2.1 Guest (fun _ => {}) throwing hsound 3).exists_run
  have hcomes := hcompiles 0 (by decide) _ rfl
  obtain ⟨text, hthrows⟩ := hcomes.throws [.throw "new Error('boom')"]
    (congrArg (Except.mapError ScriptRefusal.message) hscript) fun index _ context hprepare => by
      cases hprepare
      exact ⟨_, rfl⟩
  exact ⟨hsound, steps, state, text, hrun, hverdict.trans (congrArg some hthrows), hcomes.once⟩

/-- A script that breaks off in the middle of a function. -/
def broken : CompilerCache Guest := { name := "broken.js", source := "function (" }

/-- A script that is refused fails the whole pool for good only if it is asked for. Whatever the
runtime, inits that fail keep the workers from asking, so the script is not compiled, and the pool
does not fail for good. -/
theorem recoverable_of_failed_init :
    (∃ refusal, @ScriptRuntime.compile Guest _ broken.name broken.source = .error refusal) ∧
    (∃ steps state,
      Run (ScriptSetup.factory fun _ => { inits := [.fail "m"] }) (begin broken 1) steps state ∧
      state.verdict = some (.error (.notStarted "m")) ∧
      (EngineError.notStarted "m").isFatal = false ∧ state.shared.compilations = 0) ∧
    ∀ (Context : Type) [ScriptRuntime Context] (setup : Nat → ScriptSetup Context),
      (∀ index, ∃ text, (setup index).prepare = .error text) →
      ∀ (cache : CompilerCache Context) (workers : Nat),
        ComesTo (ScriptSetup.factory setup) (begin cache workers) fun after verdict =>
          after = cache ∧ ∃ index < max workers 1, ∃ text, (setup index).prepare = .error text ∧
            verdict = .error (.notStarted text) := by
  refine ⟨?_, ?_, fun _ _ _ hprepare => comesTo_of_unprepared hprepare⟩
  · have hrefused : Program.ofSource broken.source = .error .unnamedFunction := by decide
    exact ⟨_, congrArg (Except.mapError ScriptRefusal.message) hrefused⟩
  · have hprepare : ScriptSetup.prepare { inits := [.fail "m"] } = (.error "m" : Except _ Guest) :=
      rfl
    obtain ⟨steps, state, verdict, hrun, hverdict, hshared, -, -, text, htext, rfl⟩ :=
      (comesTo_of_unprepared (fun _ => ⟨"m", hprepare⟩) broken 1).exists_run
    obtain rfl : "m" = text := Except.error.inj (hprepare.symm.trans htext)
    exact ⟨steps, state, hrun, hverdict, rfl, by rw [hshared]; rfl⟩

end Startup

end SfcBundler
