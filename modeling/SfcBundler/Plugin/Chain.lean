/-!
# Chains of processors

A chain is a list of stages that are run in order. How their answers combine differs: a value is
handed through all of them, the first answer wins, or all are run for their effects.

## Main definitions

* `Chain.fold`: each stage changes what the one before gave
* `Chain.firstSome`: the first answer, later stages are not run
* `Chain.tryForEach`: all stages up to the first failure
* `Chain.forEach`: all stages

## Main results

* `Chain.fold_append`, `Chain.firstSome_append`, `Chain.tryForEach_append`,
  `Chain.forEach_append`: a chain of two chains
* `Chain.fold_map_pure`: a chain of stages that only calculate
-/

namespace SfcBundler.Chain

variable {m : Type → Type} [Monad m] {α β ε : Type}

/-- Hand a value through all stages; a failure ends the chain. -/
def fold (run : α → β → m (Except ε β)) (value : β) : List α → m (Except ε β)
  | [] => return .ok value
  | stage :: rest => do
    match ← run stage value with
    | .ok next => fold run next rest
    | .error error => return .error error

/-- Run stages until one answers or fails. -/
def firstSome (run : α → m (Except ε (Option β))) : List α → m (Except ε (Option β))
  | [] => return .ok none
  | stage :: rest => do
    match ← run stage with
    | .ok none => firstSome run rest
    | decided => return decided

/-- Run stages until one fails. -/
def tryForEach (run : α → m (Except ε Unit)) : List α → m (Except ε Unit)
  | [] => return .ok ()
  | stage :: rest => do
    match ← run stage with
    | .ok () => tryForEach run rest
    | .error error => return .error error

/-- Run all stages. -/
def forEach (run : α → m Unit) : List α → m Unit
  | [] => return ()
  | stage :: rest => do
    run stage
    forEach run rest

section Append

variable [LawfulMonad m]

theorem fold_append (run : α → β → m (Except ε β)) (value : β) (front back : List α) :
    fold run value (front ++ back) = do
      match ← fold run value front with
      | .ok next => fold run next back
      | .error error => return .error error := by
  induction front generalizing value with
  | nil => simp [fold]
  | cons stage rest ih =>
    simp only [List.cons_append, fold, bind_assoc]
    refine bind_congr fun answer => ?_
    cases answer with
    | ok next => exact ih next
    | error error => simp

theorem firstSome_append (run : α → m (Except ε (Option β))) (front back : List α) :
    firstSome run (front ++ back) = do
      match ← firstSome run front with
      | .ok none => firstSome run back
      | decided => return decided := by
  induction front with
  | nil => simp [firstSome]
  | cons stage rest ih =>
    simp only [List.cons_append, firstSome, bind_assoc]
    refine bind_congr fun answer => ?_
    match answer with
    | .ok none => exact ih
    | .ok (some value) => simp
    | .error error => simp

theorem tryForEach_append (run : α → m (Except ε Unit)) (front back : List α) :
    tryForEach run (front ++ back) = do
      match ← tryForEach run front with
      | .ok () => tryForEach run back
      | .error error => return .error error := by
  induction front with
  | nil => simp [tryForEach]
  | cons stage rest ih =>
    simp only [List.cons_append, tryForEach, bind_assoc]
    refine bind_congr fun answer => ?_
    cases answer with
    | ok => exact ih
    | error error => simp

theorem forEach_append (run : α → m Unit) (front back : List α) :
    forEach run (front ++ back) = (forEach run front >>= fun _ => forEach run back) := by
  induction front with
  | nil => simp [forEach]
  | cons stage rest ih => simp [forEach, ih]

end Append

/-- Stages that only calculate hand a value through as their calculations do. -/
theorem fold_map_pure [LawfulMonad m] {γ : Type} {run : γ → β → m (Except ε β)} {stage : α → γ}
    {calculate : α → β → Id (Except ε β)}
    (h : ∀ item value, run (stage item) value = pure (calculate item value)) (items : List α)
    (value : β) : fold run value (items.map stage) = pure (fold calculate value items) := by
  induction items generalizing value with
  | nil => rfl
  | cons item items ih =>
    rw [List.map_cons, fold, fold, h, pure_bind]
    change _ = pure (match calculate item value with
      | .ok next => fold calculate next items
      | .error error => .error error)
    cases calculate item value with
    | ok next => exact ih next
    | error error => rfl

end SfcBundler.Chain
