import Mathlib.Data.List.Induction
import SfcBundler.Engine.Startup

/-!
# Reports of workers

A pool is what the outcomes of its workers come to, in whatever order they are told. To take the
reports one by one and to stop at a fatal failure gives the same pool as to have all of them.

## Main definitions

* `EnginePool.Settles`: what the outcomes of the workers come to
* `Gathering.ofReports`, `Gathering.Taken`: reports as they are taken one by one

## Main results

* `EnginePool.settles_gather`, `EnginePool.Settles.of_perm`: a pool is what the outcomes come to, in
  any order
* `Gathering.verdict_ofReports`: taking reports one by one gives the pool of their outcomes
-/

namespace SfcBundler

open scoped List

/-! ### What outcomes come to -/

namespace EnginePool

variable {Engine : Type} {received outcomes : List (Except EngineError Engine)}
  {error : EngineError} {verdict : Except EngineError (EnginePool Engine)}

/-- Outcomes without a fatal failure. -/
def Harmless (outcomes : List (Except EngineError Engine)) : Prop :=
  ∀ error, .error error ∈ outcomes → error.isFatal = false

theorem harmless_append :
    Harmless (received ++ outcomes) ↔ Harmless received ∧ Harmless outcomes := by
  simp only [Harmless, List.mem_append, or_imp, forall_and]

theorem fatal?_eq_some_iff {outcome : Except EngineError Engine} :
    fatal? outcome = some error ↔ outcome = .error error ∧ error.isFatal = true := by
  cases outcome with
  | ok engine => simp [fatal?]
  | error other =>
    rw [fatal?, Option.ite_none_right_eq_some, Option.some.injEq, Except.error.injEq]
    constructor
    · rintro ⟨hfatal, rfl⟩
      exact ⟨rfl, hfatal⟩
    · rintro ⟨rfl, hfatal⟩
      exact ⟨hfatal, rfl⟩

theorem findSome?_fatal?_eq_none_iff :
    outcomes.findSome? fatal? = none ↔ Harmless outcomes := by
  rw [List.findSome?_eq_none_iff]
  constructor
  · intro h error herror
    cases hfatal : error.isFatal with
    | false => rfl
    | true => cases (h _ herror).symm.trans (fatal?_eq_some_iff.2 ⟨rfl, hfatal⟩)
  · intro h outcome houtcome
    cases outcome with
    | ok engine => rfl
    | error error => simp [fatal?, h error houtcome]

/-- What the outcomes of the workers come to: a fatal failure if one of them is fatal, a failure
that is not if none is and there is no engine, and else a pool of all engines. -/
structure Settles (outcomes : List (Except EngineError Engine))
    (verdict : Except EngineError (EnginePool Engine)) : Prop where
  fatal : (∃ error, verdict = .error error ∧ error.isFatal = true) ↔
    ∃ error, .error error ∈ outcomes ∧ error.isFatal = true
  failed : (∃ error, verdict = .error error ∧ error.isFatal = false) ↔
    (∀ error, .error error ∈ outcomes → error.isFatal = false) ∧
      ∀ engine, .ok engine ∉ outcomes
  ready : (∃ pool, verdict = .ok pool) ↔
    (∀ error, .error error ∈ outcomes → error.isFatal = false) ∧
      ∃ engine, .ok engine ∈ outcomes
  /-- The failure is one that a worker had. -/
  failure : ∀ error, verdict = .error error → .error error ∈ outcomes
  engines : ∀ pool, verdict = .ok pool → pool.engines ~ outcomes.filterMap (·.toOption)
  workers : ∀ pool, verdict = .ok pool → pool.workers = outcomes.countP (·.isOk)

theorem settles_of_fatal (h : .error error ∈ outcomes) (hfatal : error.isFatal = true) :
    Settles outcomes (.error error) where
  fatal := iff_of_true ⟨error, rfl, hfatal⟩ ⟨error, h, hfatal⟩
  failed := by
    refine iff_of_false ?_ fun hall => absurd (hall.1 error h) (by simp [hfatal])
    rintro ⟨_, ⟨⟩, hnot⟩
    exact absurd hnot (by simp [hfatal])
  ready := iff_of_false (fun ⟨_, hpool⟩ => nomatch hpool)
    fun hall => absurd (hall.1 error h) (by simp [hfatal])
  failure := by
    rintro _ ⟨⟩
    exact h
  engines := nofun
  workers := nofun

theorem settles_of_none (h : Harmless outcomes) (hnone : ∀ engine, .ok engine ∉ outcomes)
    (herror : .error error ∈ outcomes) : Settles outcomes (.error error) where
  fatal := by
    refine iff_of_false ?_ fun ⟨other, hother, hfatal⟩ => absurd (h other hother) (by simp [hfatal])
    rintro ⟨_, ⟨⟩, hfatal⟩
    exact absurd (h error herror) (by simp [hfatal])
  failed := iff_of_true ⟨error, rfl, h error herror⟩ ⟨h, hnone⟩
  ready := iff_of_false (fun ⟨_, hpool⟩ => nomatch hpool)
    fun ⟨_, engine, hengine⟩ => hnone engine hengine
  failure := by
    rintro _ ⟨⟩
    exact herror
  engines := nofun
  workers := nofun

theorem length_filterMap_toOption (outcomes : List (Except EngineError Engine)) :
    (outcomes.filterMap (·.toOption)).length = outcomes.countP (·.isOk) := by
  rw [List.length_filterMap_eq_countP]
  refine List.countP_congr fun outcome _ => ?_
  cases outcome <;> rfl

theorem mem_filterMap_toOption {engine : Engine} :
    engine ∈ outcomes.filterMap (·.toOption) ↔ .ok engine ∈ outcomes := by
  rw [List.mem_filterMap]
  constructor
  · rintro ⟨outcome, houtcome, hengine⟩
    cases outcome <;> cases hengine
    exact houtcome
  · exact fun h => ⟨_, h, rfl⟩

theorem settles_of_engines (h : Harmless outcomes) {engines : List Engine} (hne : engines ≠ [])
    (hengines : engines ~ outcomes.filterMap (·.toOption)) : Settles outcomes (.ok ⟨engines⟩) := by
  obtain ⟨engine, hengine⟩ := List.exists_mem_of_ne_nil engines hne
  have hmade : .ok engine ∈ outcomes := mem_filterMap_toOption.1 (hengines.mem_iff.1 hengine)
  exact {
    fatal := iff_of_false nofun
      fun ⟨other, hother, hfatal⟩ => absurd (h other hother) (by simp [hfatal])
    failed := iff_of_false nofun fun hnone => hnone.2 engine hmade
    ready := iff_of_true ⟨_, rfl⟩ ⟨h, engine, hmade⟩
    failure := nofun
    engines := by
      rintro _ ⟨⟩
      exact hengines
    workers := by
      rintro _ ⟨⟩
      exact hengines.length_eq.trans (length_filterMap_toOption outcomes) }

theorem exists_failure? (hne : outcomes ≠ []) (hnone : ∀ engine, .ok engine ∉ outcomes) :
    ∃ error, outcomes.findSome? failure? = some error ∧ .error error ∈ outcomes := by
  cases outcomes with
  | nil => contradiction
  | cons outcome outcomes =>
    cases outcome with
    | ok engine => exact absurd List.mem_cons_self (hnone engine)
    | error error => exact ⟨error, rfl, List.mem_cons_self⟩

/-- The pool of the outcomes is what they come to. -/
theorem settles_gather (hne : outcomes ≠ []) : Settles outcomes (gather outcomes) := by
  rw [gather]
  cases hfatal : outcomes.findSome? fatal? with
  | some error =>
    obtain ⟨outcome, houtcome, hsome⟩ := List.exists_of_findSome?_eq_some hfatal
    obtain ⟨rfl, herror⟩ := fatal?_eq_some_iff.1 hsome
    exact settles_of_fatal houtcome herror
  | none =>
    -- nothing fatal: there is a pool if any worker came up, and the first failure if none did
    have hharmless := findSome?_fatal?_eq_none_iff.1 hfatal
    cases hengines : outcomes.filterMap (·.toOption) with
    | nil =>
      have hnone : ∀ engine, .ok engine ∉ outcomes := fun engine hengine =>
        List.not_mem_nil (hengines ▸ mem_filterMap_toOption.2 hengine)
      obtain ⟨error, hfirst, herror⟩ := exists_failure? hne hnone
      dsimp only
      rw [hfirst]
      exact settles_of_none hharmless hnone herror
    | cons engine engines =>
      exact settles_of_engines hharmless (List.cons_ne_nil _ _) (.of_eq hengines.symm)

/-- If there is no engine, the pool fails like one of the workers. -/
theorem Settles.exists_error (h : Settles outcomes verdict)
    (hnone : ∀ engine, .ok engine ∉ outcomes) :
    ∃ error, verdict = .error error ∧ .error error ∈ outcomes := by
  cases verdict with
  | error error => exact ⟨error, rfl, h.failure error rfl⟩
  | ok pool =>
    obtain ⟨-, engine, hengine⟩ := h.ready.1 ⟨pool, rfl⟩
    exact absurd hengine (hnone engine)

/-- In which order the outcomes come does not matter. -/
theorem Settles.of_perm (h : Settles received verdict) (hperm : received ~ outcomes) :
    Settles outcomes verdict where
  fatal := by simpa only [← hperm.mem_iff] using h.fatal
  failed := by simpa only [← hperm.mem_iff] using h.failed
  ready := by simpa only [← hperm.mem_iff] using h.ready
  failure error herror := hperm.mem_iff.1 (h.failure error herror)
  engines pool hpool := (h.engines pool hpool).trans (hperm.filterMap _)
  workers pool hpool := (h.workers pool hpool).trans (hperm.countP_eq _)

/-- If all workers have the same outcome, there is one thing that it comes to. -/
theorem Settles.eq_map {count : Nat} {outcome : Except EngineError Engine}
    (h : Settles (List.replicate count outcome) verdict) :
    verdict = outcome.map fun engine => ⟨List.replicate count engine⟩ := by
  cases verdict with
  | error error =>
    rw [← List.eq_of_mem_replicate (h.failure error rfl)]
    rfl
  | ok pool =>
    obtain ⟨-, engine, hengine⟩ := h.ready.1 ⟨pool, rfl⟩
    obtain rfl := List.eq_of_mem_replicate hengine
    have hengines : pool.engines ~ List.replicate count engine := by
      simpa only [List.filterMap_replicate, Except.toOption] using h.engines pool rfl
    exact congrArg Except.ok (congrArg EnginePool.mk (List.perm_replicate.1 hengines))

end EnginePool

/-! ### Taking reports -/

namespace Gathering

open EnginePool

variable {Engine : Type} {received front : List (Except EngineError Engine)} {error : EngineError}
  {count : Nat}

/-- What is known when reports were taken one after another. -/
def ofReports (count : Nat) (received : List (Except EngineError Engine)) : Gathering Engine :=
  received.foldl take { left := count }

theorem ofReports_concat (count : Nat) (received : List (Except EngineError Engine))
    (outcome : Except EngineError Engine) :
    ofReports count (received ++ [outcome]) = (ofReports count received).take outcome := by
  rw [ofReports, List.foldl_append]
  rfl

theorem left_ofReports (count : Nat) (received : List (Except EngineError Engine)) :
    (ofReports count received).left = count - received.length := by
  induction received using List.reverseRecOn with
  | nil => rfl
  | append_singleton received outcome ih =>
    rw [ofReports_concat, List.length_append, List.length_singleton, ← Nat.sub_sub, ← ih]
    cases outcome <;> rfl

/-- As long as no failure is fatal, all engines are kept, and the first failure is told of. -/
theorem ofReports_of_harmless (h : Harmless received) (count : Nat) :
    ofReports count received = {
      left := count - received.length
      engines := received.filterMap (·.toOption)
      failure := received.findSome? failure? } := by
  -- reports are taken in the order in which they come, so the last one is split off
  induction received using List.reverseRecOn with
  | nil => rfl
  | append_singleton received outcome ih =>
    obtain ⟨hreceived, hlast⟩ := harmless_append.1 h
    rw [ofReports_concat, ih hreceived, List.filterMap_append, List.findSome?_append,
      List.length_append, List.length_singleton, ← Nat.sub_sub]
    cases outcome with
    | ok engine => simp [take, failure?, Except.toOption]
    | error error =>
      have herror := hlast error List.mem_cons_self
      cases received.findSome? failure? <;> simp [take, failure?, Except.toOption, herror]

theorem isFatal_of_harmless (h : Harmless received) (count : Nat) :
    (ofReports count received).isFatal = false := by
  rw [ofReports_of_harmless h]
  cases hfailure : received.findSome? failure? with
  | none => rfl
  | some error =>
    obtain ⟨outcome, houtcome, hsome⟩ := List.exists_of_findSome?_eq_some hfailure
    cases outcome with
    | ok engine => cases hsome
    | error other =>
      cases hsome
      exact h error houtcome

theorem failure_of_fatal (hfatal : error.isFatal = true) (count : Nat)
    (front : List (Except EngineError Engine)) :
    (ofReports count (front ++ [.error error])).failure = some error := by
  rw [ofReports_concat, take]
  simp [hfatal]

/-- Reports as they are taken: one that is fatal is the last. -/
inductive Taken : List (Except EngineError Engine) → Prop
  | harmless {received : List (Except EngineError Engine)} (h : Harmless received) :
    Taken received
  | fatal {front : List (Except EngineError Engine)} {error : EngineError} (h : Harmless front)
    (hfatal : error.isFatal = true) : Taken (front ++ [.error error])

theorem Taken.harmless_of_not_isFatal (h : Taken received)
    (hfatal : (ofReports count received).isFatal = false) : Harmless received := by
  cases h with
  | harmless h => exact h
  | fatal h herror =>
    rw [isFatal, failure_of_fatal herror, Option.any_some, herror] at hfatal
    cases hfatal

/-- One more report is taken if none before was fatal. -/
theorem Taken.concat (h : Taken received) (hfatal : (ofReports count received).isFatal = false)
    (outcome : Except EngineError Engine) : Taken (received ++ [outcome]) := by
  have hharmless := h.harmless_of_not_isFatal hfatal
  cases houtcome : fatal? outcome with
  | some error =>
    obtain ⟨rfl, herror⟩ := fatal?_eq_some_iff.1 houtcome
    exact .fatal hharmless herror
  | none =>
    refine .harmless (harmless_append.2 ⟨hharmless, findSome?_fatal?_eq_none_iff.1 ?_⟩)
    simpa using houtcome

/-- What is known of the reports that were taken gives the pool of their outcomes. -/
theorem verdict_ofReports (h : Taken received) (count : Nat) :
    (ofReports count received).verdict = gather received := by
  cases h with
  | harmless h =>
    rw [verdict, isFatal_of_harmless h, ofReports_of_harmless h, gather,
      findSome?_fatal?_eq_none_iff.2 h]
    dsimp only
    cases received.filterMap (·.toOption) <;> rfl
  | @fatal front error h herror =>
    have hlast : fatal? (.error error : Except EngineError Engine) = some error :=
      fatal?_eq_some_iff.2 ⟨rfl, herror⟩
    have hfirst : (front ++ [Except.error error]).findSome? fatal? = some error := by
      simp [List.findSome?_append, findSome?_fatal?_eq_none_iff.2 h, hlast]
    rw [verdict, isFatal, failure_of_fatal herror, gather, hfirst]
    simp [herror]

end Gathering

end SfcBundler
