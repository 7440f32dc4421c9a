import SfcBundler.Plugin.Chain
import SfcBundler.Proofs.Walk.Record

/-!
# The stages of a chain that run

However the answers of its stages combine, a chain runs a front of its stages: all of them, or
those up to the first whose answer decides. Each stage is run once, in order, in the state that the
one before it left, and the last one that runs gives the answer of the chain. A journal kept beside
the state shows which stages these are.

## Main definitions

* `Journal`, `Journal.enter`: entries kept beside a world, and something done with an entry for it
* `Chain.UpToFirst`: the calls of a chain, up to the first answer that does not pass
* `Chain.Traversal`: the calls that a chain makes from a state
* `Chain.handing`: a stage that is handed its value as part of the state
* `Chain.Shows`: a run of a chain that gives what its calls give, with and without a journal
* `Chain.FoldsInOrder`, `Chain.TakesFirst`, `Chain.TriesInOrder`, `Chain.RunsAll`: what each way to
  run a chain owes

## Main results

* `Chain.exists_traversal`: from every state, a chain has such calls
* `Chain.foldsInOrder`, `Chain.takesFirst`, `Chain.triesInOrder`, `Chain.runsAll`: each way to run a
  chain does what it owes
-/

namespace SfcBundler

/-- Entries kept beside a world. -/
structure Journal (ι τ : Type) where
  entries : List ι
  world : τ

namespace Journal

variable {ι τ α : Type}

/-- What is done in the world, without an entry. -/
def lift (run : StateM τ α) : StateM (Journal ι τ) α := fun journal =>
  ((run.run journal.world).1, { journal with world := (run.run journal.world).2 })

/-- What is done in the world, with an entry for it. -/
def enter (entry : ι) (run : StateM τ α) : StateM (Journal ι τ) α := fun journal =>
  ((run.run journal.world).1, ⟨journal.entries ++ [entry], (run.run journal.world).2⟩)

/-- The journal beside a world in which some stages ran. -/
def ofRan (label : α → ι) (entries : List ι) (ran : List α) (world : τ) : Journal ι τ :=
  ⟨entries ++ ran.map label, world⟩

@[simp]
theorem ofRan_nil (label : α → ι) (entries : List ι) (world : τ) :
    ofRan label entries [] world = ⟨entries, world⟩ := by
  rw [ofRan, List.map_nil, List.append_nil]

theorem ofRan_id (entries ran : List ι) (world : τ) :
    ofRan id entries ran world = ⟨entries ++ ran, world⟩ := by
  rw [ofRan, List.map_id]

variable {run : StateM τ α} {world after : τ} {answer : α}

theorem enter_run_of_eq (h : run.run world = (answer, after)) (entry : ι) (entries : List ι) :
    (enter entry run).run ⟨entries, world⟩ = (answer, ⟨entries ++ [entry], after⟩) := by
  change ((run.run world).1, (⟨entries ++ [entry], (run.run world).2⟩ : Journal ι τ)) = _
  rw [h]

/-- A stage that runs is the last one in the journal. -/
theorem enter_run_ofRan {κ : Type} (h : run.run world = (answer, after)) (label : κ → ι)
    (entries : List ι) (ran : List κ) (stage : κ) :
    (enter (label stage) run).run (ofRan label entries ran world) =
      (answer, ofRan label entries (ran ++ [stage]) after) := by
  rw [ofRan, enter_run_of_eq h, ofRan, List.map_append, List.append_assoc]
  rfl

end Journal

namespace Chain

variable {σ α β γ δ ε ι : Type}

/-- Calls of the stages of a chain, each with its answer: all stages are called and all answers
pass, or the last stage that is called is the first whose answer does not. -/
inductive UpToFirst (passes : β → Prop) : List α → List (α × β) → Prop
  | all {calls : List (α × β)} : (∀ call ∈ calls, passes call.2) →
    UpToFirst passes (calls.map Prod.fst) calls
  | decided {passed : List (α × β)} {stage : α} {answer : β} {rest : List α} :
    (∀ call ∈ passed, passes call.2) → ¬ passes answer →
    UpToFirst passes (passed.map Prod.fst ++ stage :: rest) (passed ++ [(stage, answer)])

/-- The calls that a chain makes from a state, each stage in the state that the one before it
left. -/
structure Traversal (passes : β → Prop) (ask : α → StateM σ β) (stages : List α) (start : σ)
    (calls : List (α × β)) (final : σ) : Prop where
  answered : Answered ask start calls final
  reach : UpToFirst passes stages calls

/-- The answer of the last call; `default` if there is none. -/
def lastAnswer (default : β) (calls : List (α × β)) : β :=
  (calls.getLast?.map Prod.snd).getD default

@[simp]
theorem lastAnswer_concat (default : β) (calls : List (α × β)) (stage : α) (answer : β) :
    lastAnswer default (calls ++ [(stage, answer)]) = answer := by
  simp [lastAnswer]

theorem lastAnswer_cons (default : β) (call : α × β) (calls : List (α × β)) :
    lastAnswer default (call :: calls) = lastAnswer call.2 calls := by
  cases calls <;> simp [lastAnswer, List.getLast?_cons]

theorem lastAnswer_map (default : β) (calls : List (α × β)) (rename : α → γ) (change : β → δ) :
    lastAnswer (change default) (calls.map (Prod.map rename change)) =
      change (lastAnswer default calls) := by
  rw [lastAnswer, lastAnswer, List.getLast?_map]
  cases calls.getLast? <;> rfl

/-- What holds of all answers holds of the last one. -/
theorem lastAnswer_of_forall {holds : β → Prop} {default : β} {calls : List (α × β)}
    (hdefault : holds default) (h : ∀ call ∈ calls, holds call.2) :
    holds (lastAnswer default calls) := by
  rw [lastAnswer]
  cases hlast : calls.getLast? with
  | none => exact hdefault
  | some call => exact h call (List.mem_of_getLast? hlast)

section Calls

variable {passes : β → Prop} {stages : List α} {calls : List (α × β)}

theorem UpToFirst.cons {stage : α} {answer : β} (h : UpToFirst passes stages calls)
    (hpasses : passes answer) : UpToFirst passes (stage :: stages) ((stage, answer) :: calls) := by
  cases h with
  | all hall =>
    exact @all _ _ passes ((stage, answer) :: calls) (List.forall_mem_cons.2 ⟨hpasses, hall⟩)
  | @decided passed _ _ _ hpassed hanswer =>
    exact @decided _ _ passes ((stage, answer) :: passed) _ _ _
      (List.forall_mem_cons.2 ⟨hpasses, hpassed⟩) hanswer

/-- A chain in which all answers pass is called to its end. -/
theorem UpToFirst.map_fst_of_forall (h : UpToFirst passes stages calls)
    (hpasses : ∀ call ∈ calls, passes call.2) : calls.map Prod.fst = stages := by
  cases h with
  | all _ => rfl
  | decided _ hanswer =>
    exact absurd (hpasses _ (List.mem_append_right _ (List.mem_singleton_self _))) hanswer

/-- Stages under other names, whose changed answers pass as before. -/
theorem UpToFirst.map {passes' : δ → Prop} {change : β → δ} (h : UpToFirst passes stages calls)
    (hchange : ∀ answer, passes' (change answer) ↔ passes answer) (rename : α → γ) :
    UpToFirst passes' (stages.map rename) (calls.map (Prod.map rename change)) := by
  have hall : ∀ {calls : List (α × β)}, (∀ call ∈ calls, passes call.2) →
      ∀ call ∈ calls.map (Prod.map rename change), passes' call.2 := by
    intro calls hcalls call hcall
    obtain ⟨before, hbefore, rfl⟩ := List.mem_map.1 hcall
    exact (hchange before.2).2 (hcalls before hbefore)
  have hstages : ∀ calls : List (α × β), (calls.map Prod.fst).map rename =
      (calls.map (Prod.map rename change)).map Prod.fst := by
    intro calls
    rw [List.map_map, List.map_map]
    rfl
  cases h with
  | all hpasses =>
    rw [hstages]
    exact .all (hall hpasses)
  | decided hpassed hanswer =>
    rw [List.map_append, List.map_append, hstages]
    exact .decided (hall hpassed) fun hpasses => hanswer ((hchange _).1 hpasses)

/-- From every state, a chain has calls up to its first answer that decides. -/
theorem exists_traversal (passes : β → Prop) (ask : α → StateM σ β) (stages : List α) (start : σ) :
    ∃ calls final, Traversal passes ask stages start calls final := by
  induction stages generalizing start with
  | nil => exact ⟨[], start, .nil, @UpToFirst.all _ _ passes [] (List.forall_mem_nil _)⟩
  | cons stage rest ih =>
    obtain ⟨⟨answer, between⟩, hanswer⟩ : ∃ reached, (ask stage).run start = reached := ⟨_, rfl⟩
    -- the chain goes on from where the stage left, or ends with it
    by_cases hpasses : passes answer
    · obtain ⟨calls, final, hanswered, hreach⟩ := ih between
      exact ⟨_, final, .cons hanswer hanswered, hreach.cons hpasses⟩
    · exact ⟨[(stage, answer)], between, .cons hanswer .nil,
        @UpToFirst.decided _ _ passes [] _ _ _ (List.forall_mem_nil _) hpasses⟩

variable {ask : α → StateM σ β} {start final : σ}

/-- The same calls made otherwise: of stages under other names, in states that may show the stages
called before, and with changed answers that pass as before. -/
theorem Traversal.transfer {τ : Type} {passes' : δ → Prop}
    (h : Traversal passes ask stages start calls final) (other : γ → StateM τ δ) (rename : α → γ)
    (change : β → δ) (place : List α → σ → τ)
    (hother : ∀ {before stage state answer between}, (ask stage).run state = (answer, between) →
      (other (rename stage)).run (place before state) =
        (change answer, place (before ++ [stage]) between))
    (hchange : ∀ answer, passes' (change answer) ↔ passes answer) :
    Traversal passes' other (stages.map rename) (place [] start)
      (calls.map (Prod.map rename change)) (place (calls.map Prod.fst) final) :=
  ⟨h.answered.transfer other rename change place hother [], h.reach.map hchange rename⟩

/-- A chain with a journal makes the same calls, and has an entry for each of them. -/
theorem Traversal.entered (h : Traversal passes ask stages start calls final) (entries : List α) :
    Traversal passes (fun stage => Journal.enter stage (ask stage)) stages ⟨entries, start⟩ calls
      ⟨entries ++ calls.map Prod.fst, final⟩ := by
  have hcalls := h.transfer (fun stage => Journal.enter stage (ask stage)) id id
    (Journal.ofRan id entries)
    (fun hanswer => Journal.enter_run_ofRan hanswer id entries _ _) fun _ => Iff.rfl
  simpa only [List.map_id, Prod.map_id, Journal.ofRan_nil, Journal.ofRan_id] using hcalls

end Calls

/-! ### Stages of which the first decides -/

section Deciding

variable {default : β} {ask : α → StateM σ β} {combine : List α → StateM σ β} {start final : σ}
  {calls : List (α × β)}

/-- Stages that pass only change the state for those behind them. -/
theorem run_append_of_passed (h : Answered ask start calls final)
    (hpasses : ∀ call ∈ calls, call.2 = default)
    (hpass : ∀ {stage state between} rest, (ask stage).run state = (default, between) →
      (combine (stage :: rest)).run state = (combine rest).run between) (rest : List α) :
    (combine (calls.map Prod.fst ++ rest)).run start = (combine rest).run final := by
  induction h with
  | nil => rfl
  | cons hanswer _ ih =>
    obtain ⟨rfl, hothers⟩ := List.forall_mem_cons.1 hpasses
    rw [List.map_cons, List.cons_append, hpass _ hanswer]
    exact ih hothers

/-- When every answer but `default` decides, the chain gives the answer of its last call. -/
theorem Traversal.run_eq {stages : List α}
    (h : Traversal (· = default) ask stages start calls final) (hnil : combine [] = pure default)
    (hpass : ∀ {stage state between} rest, (ask stage).run state = (default, between) →
      (combine (stage :: rest)).run state = (combine rest).run between)
    (hdecide : ∀ {stage answer state between} rest, answer ≠ default →
      (ask stage).run state = (answer, between) →
      (combine (stage :: rest)).run state = (answer, between)) :
    (combine stages).run start = (lastAnswer default calls, final) := by
  obtain ⟨hanswered, hreach⟩ := h
  cases hreach with
  | all hpasses =>
    have hrun := run_append_of_passed hanswered hpasses hpass []
    have hlast : lastAnswer default calls = default :=
      @lastAnswer_of_forall _ _ (· = default) _ _ rfl hpasses
    rw [List.append_nil, hnil] at hrun
    rw [hrun, hlast]
    rfl
  | decided hpassed hanswer =>
    -- those in front pass on, and the last one that is asked decides
    obtain ⟨between, hfront, hask⟩ := hanswered.exists_of_concat
    rw [run_append_of_passed hfront hpassed hpass, hdecide _ hanswer hask, lastAnswer_concat]

end Deciding

theorem Traversal.firstSome_run {run : α → StateM σ (Except ε (Option β))} {stages : List α}
    {start final : σ} {calls : List (α × Except ε (Option β))}
    (h : Traversal (· = .ok none) run stages start calls final) :
    (firstSome run stages).run start = (lastAnswer (.ok none) calls, final) := by
  refine h.run_eq rfl (fun rest hask => ?_) (fun rest hanswer hask => ?_)
  · rw [firstSome, run_bind_of_eq hask]
  · rw [firstSome, run_bind_of_eq hask]
    split
    · contradiction
    · rfl

theorem Traversal.tryForEach_run {run : α → StateM σ (Except ε Unit)} {stages : List α}
    {start final : σ} {calls : List (α × Except ε Unit)}
    (h : Traversal (· = .ok ()) run stages start calls final) :
    (tryForEach run stages).run start = (lastAnswer (.ok ()) calls, final) := by
  refine h.run_eq rfl (fun rest hask => ?_) (fun rest hanswer hask => ?_)
  · rw [tryForEach, run_bind_of_eq hask]
  · rw [tryForEach, run_bind_of_eq hask]
    split
    · contradiction
    · rfl

theorem Traversal.forEach_run {run : α → StateM σ Unit} {stages : List α} {start final : σ}
    {calls : List (α × Unit)} (h : Traversal (· = ()) run stages start calls final) :
    (forEach run stages).run start = ((), final) := by
  refine h.run_eq rfl (fun rest hask => ?_) (fun rest hanswer _ => absurd rfl hanswer)
  rw [forEach, run_bind_of_eq hask]

/-! ### Stages that hand a value on -/

/-- A stage that finds the value it is handed in the state, and leaves there the one it hands on.
When it fails the value stays. -/
def handing (run : α → β → StateM σ (Except ε β)) (stage : α) : StateM (β × σ) (Except ε β) :=
  fun (value, state) =>
    let (answer, after) := (run stage value).run state
    (answer, answer.toOption.getD value, after)

section Fold

variable {run : α → β → StateM σ (Except ε β)} {stages : List α} {before after : β × σ}
  {calls : List (α × Except ε β)}

theorem handing_run_eq_iff {stage : α} {answer : Except ε β} :
    (handing run stage).run before = (answer, after) ↔
      (run stage before.1).run before.2 = (answer, after.2) ∧
        after.1 = answer.toOption.getD before.1 := by
  obtain ⟨⟨reached, between⟩, hreached⟩ : ∃ reached, (run stage before.1).run before.2 = reached :=
    ⟨_, rfl⟩
  -- a stage that fails hands on what it was handed itself
  have hhanding : (handing run stage).run before =
      (reached, reached.toOption.getD before.1, between) := by
    rw [StateT.run, handing, hreached]
  obtain ⟨value, state⟩ := after
  constructor
  · intro h
    rw [hhanding] at h
    cases h
    exact ⟨hreached, rfl⟩
  · rintro ⟨hrun, rfl⟩
    rw [hreached] at hrun
    cases hrun
    exact hhanding

theorem fold_run_of_passed (h : Answered (handing run) before calls after)
    (hpasses : ∀ call ∈ calls, ∃ next, call.2 = .ok next) :
    (fold run before.1 (calls.map Prod.fst)).run before.2 = (.ok after.1, after.2) ∧
      lastAnswer (.ok before.1) calls = .ok after.1 := by
  induction h with
  | nil => exact ⟨rfl, rfl⟩
  | cons hanswer _ ih =>
    obtain ⟨⟨next, rfl⟩, hrest⟩ := List.forall_mem_cons.1 hpasses
    obtain ⟨hrun, hnext⟩ := handing_run_eq_iff.1 hanswer
    obtain ⟨hfold, hlast⟩ := ih hrest
    rw [hnext] at hfold hlast
    rw [List.map_cons, fold, run_bind_of_eq hrun, lastAnswer_cons]
    exact ⟨hfold, hlast⟩

theorem Traversal.fold_run
    (h : Traversal (fun answer => ∃ next, answer = .ok next) (handing run) stages before calls
      after) :
    (fold run before.1 stages).run before.2 = (lastAnswer (.ok before.1) calls, after.2) := by
  obtain ⟨hanswered, hreach⟩ := h
  cases hreach with
  | all hpasses =>
    obtain ⟨hfold, hlast⟩ := fold_run_of_passed hanswered hpasses
    rw [hfold, hlast]
  | @decided passed stage answer rest hpassed hanswer =>
    obtain ⟨between, hfront, hask⟩ := hanswered.exists_of_concat
    rw [fold_append, run_bind_of_eq (fold_run_of_passed hfront hpassed).1]
    -- what is handed to the stage that fails is what the front gave
    simp only [fold]
    rw [run_bind_of_eq (handing_run_eq_iff.1 hask).1, lastAnswer_concat]
    cases answer with
    | ok next => exact absurd ⟨next, rfl⟩ hanswer
    | error error => rfl

/-- A chain with a journal hands on the same values, and has an entry for each call. -/
theorem Traversal.entered_handing {passes : Except ε β → Prop}
    (h : Traversal passes (handing run) stages before calls after) (entries : List α) :
    Traversal passes (handing fun stage value => Journal.enter stage (run stage value)) stages
      (before.1, ⟨entries, before.2⟩) calls
      (after.1, ⟨entries ++ calls.map Prod.fst, after.2⟩) := by
  have hcalls := h.transfer (handing fun stage value => Journal.enter stage (run stage value)) id id
    (fun ran state => (state.1, Journal.ofRan id entries ran state.2))
    (fun hanswer => by
      obtain ⟨hrun, hvalue⟩ := handing_run_eq_iff.1 hanswer
      exact handing_run_eq_iff.2 ⟨Journal.enter_run_ofRan hrun id entries _ _, hvalue⟩)
    fun _ => Iff.rfl
  simpa only [List.map_id, Prod.map_id, Journal.ofRan_nil, Journal.ofRan_id] using hcalls

end Fold

/-! ### What each way to run a chain owes -/

/-- A run of a chain in which every answer but `default` decides: it makes the calls up to the
first answer that decides, and gives the answer of the last one. The run with a journal does the
same, and has an entry for each stage that was called and no others. -/
def Shows (default : β) (ask : α → StateM σ β) (stages : List α) (run : StateM σ β)
    (noted : StateM (Journal α σ) β) : Prop :=
  ∀ start entries, ∃ calls final, Traversal (· = default) ask stages start calls final ∧
    run.run start = (lastAnswer default calls, final) ∧
    noted.run ⟨entries, start⟩ =
      (lastAnswer default calls, ⟨entries ++ calls.map Prod.fst, final⟩)

/-- Handing a value through a chain runs the stages up to the first that fails, each with the value
that the one before it handed on, and gives what the last one gives. A chain of two chains starts
the second with what the first gives. -/
structure FoldsInOrder (run : α → β → StateM σ (Except ε β)) (value : β) (stages : List α) :
    Prop where
  shows : ∀ start entries, ∃ calls last final,
    Traversal (fun answer => ∃ next, answer = .ok next) (handing run) stages (value, start) calls
      (last, final) ∧
    (fold run value stages).run start = (lastAnswer (.ok value) calls, final) ∧
    (fold (fun stage value => Journal.enter stage (run stage value)) value stages).run
      ⟨entries, start⟩ = (lastAnswer (.ok value) calls, ⟨entries ++ calls.map Prod.fst, final⟩)
  append : ∀ more, fold run value (stages ++ more) = do
    match ← fold run value stages with
    | .ok next => fold run next more
    | .error error => return .error error

/-- Asking a chain for an answer runs the stages up to the first that has one or fails, and gives
what that stage gives. A chain of two chains runs the second if the first has no answer. -/
structure TakesFirst (run : α → StateM σ (Except ε (Option β))) (stages : List α) : Prop where
  shows : Shows (.ok none) run stages (firstSome run stages)
    (firstSome (fun stage => Journal.enter stage (run stage)) stages)
  append : ∀ more, firstSome run (stages ++ more) = do
    match ← firstSome run stages with
    | .ok none => firstSome run more
    | decided => return decided

/-- Trying the stages of a chain runs them up to the first that fails, and gives its failure. A
chain of two chains runs the second if the first does not fail. -/
structure TriesInOrder (run : α → StateM σ (Except ε Unit)) (stages : List α) : Prop where
  shows : Shows (.ok ()) run stages (tryForEach run stages)
    (tryForEach (fun stage => Journal.enter stage (run stage)) stages)
  append : ∀ more, tryForEach run (stages ++ more) = do
    match ← tryForEach run stages with
    | .ok () => tryForEach run more
    | .error error => return .error error

/-- Running a chain runs all of its stages. A chain of two chains runs the second after the
first. -/
structure RunsAll (run : α → StateM σ Unit) (stages : List α) : Prop where
  shows : ∀ start entries, ∃ calls final, Answered run start calls final ∧
    calls.map Prod.fst = stages ∧
    (forEach run stages).run start = ((), final) ∧
    (forEach (fun stage => Journal.enter stage (run stage)) stages).run ⟨entries, start⟩ =
      ((), ⟨entries ++ stages, final⟩)
  append : ∀ more, forEach run (stages ++ more) = (forEach run stages >>= fun _ => forEach run more)

theorem foldsInOrder (run : α → β → StateM σ (Except ε β)) (value : β) (stages : List α) :
    FoldsInOrder run value stages where
  shows start entries := by
    obtain ⟨calls, ⟨last, final⟩, h⟩ := exists_traversal (fun answer => ∃ next, answer = .ok next)
      (handing run) stages (value, start)
    exact ⟨calls, last, final, h, h.fold_run, (h.entered_handing entries).fold_run⟩
  append := fold_append run value stages

theorem takesFirst (run : α → StateM σ (Except ε (Option β))) (stages : List α) :
    TakesFirst run stages where
  shows start entries := by
    obtain ⟨calls, final, h⟩ := exists_traversal (· = .ok none) run stages start
    exact ⟨calls, final, h, h.firstSome_run, (h.entered entries).firstSome_run⟩
  append := firstSome_append run stages

theorem triesInOrder (run : α → StateM σ (Except ε Unit)) (stages : List α) :
    TriesInOrder run stages where
  shows start entries := by
    obtain ⟨calls, final, h⟩ := exists_traversal (· = .ok ()) run stages start
    exact ⟨calls, final, h, h.tryForEach_run, (h.entered entries).tryForEach_run⟩
  append := tryForEach_append run stages

theorem runsAll (run : α → StateM σ Unit) (stages : List α) : RunsAll run stages where
  shows start entries := by
    obtain ⟨calls, final, h⟩ := exists_traversal (· = ()) run stages start
    obtain rfl : calls.map Prod.fst = stages := h.reach.map_fst_of_forall fun _ _ => rfl
    exact ⟨calls, final, h.answered, rfl, h.forEach_run, (h.entered entries).forEach_run⟩
  append := forEach_append run stages

end Chain

end SfcBundler
