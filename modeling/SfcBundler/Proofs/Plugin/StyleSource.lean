import SfcBundler.Plugin.StyleSheets
import SfcBundler.Proofs.Plugin.Stages
import SfcBundler.Proofs.Walk.Account

/-!
# Where the source of a style sheet comes from

The processors that may supply the source of a style sheet are asked in order. An empty text counts
as no answer here, although it would decide the chain as such: the first text that is not empty
decides, or the first failure. Only if no processor decides is the file read, once.

## Main definitions

* `StyleSheet.Deed`, `PluginState.journaled`: a plugin with a journal of the processors that run
  and of what is asked of the file system
* `StyleSheet.Defers`: answers that leave the source to whoever comes next
* `StyleSheet.SourceCase`: where the source comes from, by the last answer
* `StyleSheet.ReadsSource`: what reading a source owes

## Main results

* `StyleSheet.firstSome_run`: the answer that decides is that of the last processor that runs
* `StyleSheet.readSource_run`: the source comes from where the last answer says
* `StyleSheet.readsSource`: reading a source does what it owes
* `StyleSheet.keepsContracts`: so do all ways to run a chain
-/

namespace SfcBundler

namespace StyleSheet

/-- A processor that may supply the source of a style sheet. -/
abbrev Processor (σ : Type) := LoadArgs → BuildOptions → StateM σ (Except String (Option String))

/-- What may be done to find a source: a processor runs, a file is read, or something else is asked
of the file system. -/
inductive Deed (σ : Type) where
  | ran (processor : Processor σ)
  | read (path : String)
  | asked

/-- A processor with a journal. What it does itself is not entered. -/
def Processor.journaled {σ : Type} (processor : Processor σ) : Processor (Journal (Deed σ) σ) :=
  fun args build => Journal.enter (.ran processor) (processor args build)

end StyleSheet

open StyleSheet (Deed)

section Journaled

variable {σ : Type}

/-- File operations with a journal. -/
instance [MonadFiles (StateM σ)] : MonadFiles (StateM (Journal (Deed σ) σ)) where
  readBytes path := Journal.enter (.read path) (MonadFiles.readBytes path)
  canonical path := Journal.enter .asked (MonadFiles.canonical path)
  kind? path := Journal.enter .asked (MonadFiles.kind? path)
  entries path := Journal.enter .asked (MonadFiles.entries path)
  createDirectories path := Journal.enter .asked (MonadFiles.createDirectories path)
  copyFile source target := Journal.enter .asked (MonadFiles.copyFile source target)
  workingDir := Journal.enter .asked MonadFiles.workingDir
  programDir := Journal.enter .asked MonadFiles.programDir

/-- Processors of which those for style sheets are entered in the journal. -/
def Processors.journaled (processors : Processors (StateM σ)) :
    Processors (StateM (Journal (Deed σ) σ)) where
  onStart := processors.onStart.map fun processor build => Journal.lift (processor build)
  onResolve := processors.onResolve.map fun processor args build =>
    Journal.lift (processor args build)
  onLoad := processors.onLoad.map fun processor source args build =>
    Journal.lift (processor source args build)
  onStyleLoad := processors.onStyleLoad.map StyleSheet.Processor.journaled
  onEnd := processors.onEnd.map fun processor result build => Journal.lift (processor result build)
  onDispose := processors.onDispose.map fun processor build => Journal.lift (processor build)

/-- A plugin with a journal. -/
def PluginState.journaled (state : PluginState (StateM σ)) :
    PluginState (StateM (Journal (Deed σ) σ)) where
  plugin := {
    name := state.plugin.name
    executor := fun request => Journal.lift (state.plugin.executor request)
    templateOptions := state.plugin.templateOptions
    styleOptions := state.plugin.styleOptions
    processors := state.plugin.processors.journaled }
  build := state.build
  mode := state.mode
  aliases := {
    get := Journal.lift state.aliases.get
    set := fun aliases => Journal.lift (state.aliases.set aliases) }

end Journaled

namespace StyleSheet

variable {σ : Type}

/-- An answer that leaves the source to whoever comes next: none, or an empty text. -/
def Defers (answer : Except String (Option String)) : Prop :=
  answer = .ok none ∨ answer = .ok (some "")

/-- Where a source comes from, by the last answer of the processors asked: the files read for it,
the outcome, and the state that is left. -/
inductive SourceCase [MonadFiles (StateM σ)] (path : String) (asked : σ) :
    Except String (Option String) → List String → Except PluginError String → σ → Prop
  | supplied {text : String} : text ≠ "" →
    SourceCase path asked (.ok (some text)) [] (.ok text) asked
  | failed {text : String} :
    SourceCase path asked (.error text) [] (.error (.processor .styleLoad text)) asked
  | deferred {answer : Except String (Option String)} {read : Except IoFailure String} {final : σ} :
    Defers answer → (Files.readText path : StateM σ _).run asked = (read, final) →
    SourceCase path asked answer [path] (read.mapError (.unreadable path)) final

/-- Reading a source asks the processors up to the first that does not defer, and takes its text or
its failure. The file is read if all of them defer, and only then. A journal has an entry for each
processor that is asked, then one for the file if it is read, and no others. -/
def ReadsSource [MonadFiles (StateM σ)] (state : PluginState (StateM σ)) (args : LoadArgs) : Prop :=
  ∀ start deeds, ∃ calls asked reads outcome final,
    Chain.Traversal Defers (fun processor : Processor σ => processor args state.build)
      state.plugin.processors.onStyleLoad start calls asked ∧
    SourceCase args.path asked (Chain.lastAnswer (.ok none) calls) reads outcome final ∧
    (readSource state args).run start = (outcome, final) ∧
    (readSource state.journaled args).run ⟨deeds, start⟩ =
      (outcome, ⟨deeds ++ calls.map (fun call => Deed.ran call.1) ++ reads.map .read, final⟩) ∧
    (args.path ∈ reads ↔ calls.map Prod.fst = state.plugin.processors.onStyleLoad ∧
      ∀ call ∈ calls, Defers call.2)

theorem nonEmpty_eq_ok_none_iff (answer : Except String (Option String)) :
    nonEmpty answer = .ok none ↔ Defers answer := by
  rcases answer with error | (_ | text)
  · simp [nonEmpty, Defers, Except.map]
  · simp [nonEmpty, Defers, Except.map]
  · simp [nonEmpty, Defers, Except.map, Option.filter]

theorem nonEmpty_of_ne {text : String} (h : text ≠ "") :
    nonEmpty (.ok (some text)) = .ok (some text) := by
  simp [nonEmpty, Except.map, Option.filter, h]

section Source

variable {state : PluginState (StateM σ)} {args : LoadArgs} {start asked : σ}
  {calls : List (Processor σ × Except String (Option String))}

/-- The chain gives what the last processor that runs gives, an empty text being none. -/
theorem firstSome_run
    (h : Chain.Traversal Defers (fun processor : Processor σ => processor args state.build)
      state.plugin.processors.onStyleLoad start calls asked) :
    (Chain.firstSome (fun processor : Processor σ => nonEmpty <$> processor args state.build)
      state.plugin.processors.onStyleLoad).run start =
        (nonEmpty (Chain.lastAnswer (.ok none) calls), asked) := by
  have hcalls : Chain.Traversal (· = .ok none)
      (fun processor : Processor σ => nonEmpty <$> processor args state.build)
      (state.plugin.processors.onStyleLoad.map id) start (calls.map (Prod.map id nonEmpty)) asked :=
    h.transfer _ id nonEmpty (fun _ world => world)
      (fun hanswer => run_map_of_eq hanswer nonEmpty) nonEmpty_eq_ok_none_iff
  rw [List.map_id] at hcalls
  have hlast : Chain.lastAnswer (.ok none) (calls.map (Prod.map id nonEmpty)) =
      nonEmpty (Chain.lastAnswer (.ok none) calls) :=
    Chain.lastAnswer_map (Except.ok none) calls id nonEmpty
  rw [hcalls.firstSome_run, hlast]

/-- The processors with a journal give the same answers. -/
theorem traversal_journaled
    (h : Chain.Traversal Defers (fun processor : Processor σ => processor args state.build)
      state.plugin.processors.onStyleLoad start calls asked) (deeds : List (Deed σ)) :
    Chain.Traversal Defers
      (fun processor : Processor (Journal (Deed σ) σ) => processor args state.journaled.build)
      state.journaled.plugin.processors.onStyleLoad ⟨deeds, start⟩
      (calls.map (Prod.map Processor.journaled id))
      ⟨deeds ++ calls.map (fun call => .ran call.1), asked⟩ := by
  have hcalls := h.transfer
    (fun processor : Processor (Journal (Deed σ) σ) => processor args state.build)
    Processor.journaled id (Journal.ofRan Deed.ran deeds)
    (fun {before stage _ _ _} hanswer =>
      Journal.enter_run_ofRan hanswer Deed.ran deeds before stage) fun _ => Iff.rfl
  rw [Journal.ofRan_nil, Journal.ofRan, List.map_map] at hcalls
  exact hcalls

/-- The last answer defers just when all processors are asked and all of them defer. -/
theorem defers_lastAnswer_iff {processors : List (Processor σ)}
    (h : Chain.UpToFirst Defers processors calls) :
    Defers (Chain.lastAnswer (.ok none) calls) ↔
      calls.map Prod.fst = processors ∧ ∀ call ∈ calls, Defers call.2 := by
  constructor
  · intro hlast
    have hdefers : ∀ call ∈ calls, Defers call.2 := by
      cases h with
      | all hdefers => exact hdefers
      | decided _ hanswer =>
        rw [Chain.lastAnswer_concat] at hlast
        exact absurd hlast hanswer
    exact ⟨h.map_fst_of_forall hdefers, hdefers⟩
  · rintro ⟨-, hdefers⟩
    exact Chain.lastAnswer_of_forall (.inl rfl) hdefers

variable [MonadFiles (StateM σ)]

/-- A file read with a journal. -/
theorem readText_journaled {path : String} {world after : σ} {read : Except IoFailure String}
    (h : (Files.readText path : StateM σ _).run world = (read, after)) (deeds : List (Deed σ)) :
    (Files.readText path : StateM (Journal (Deed σ) σ) _).run ⟨deeds, world⟩ =
      (read, ⟨deeds ++ [.read path], after⟩) := by
  obtain ⟨⟨bytes, between⟩, hbytes⟩ : ∃ reached,
    (MonadFiles.readBytes path : StateM σ _).run world = reached := ⟨_, rfl⟩
  have hnoted : (MonadFiles.readBytes path : StateM (Journal (Deed σ) σ) _).run ⟨deeds, world⟩ =
      (bytes, ⟨deeds ++ [.read path], between⟩) := Journal.enter_run_of_eq hbytes _ _
  rw [Files.readText, run_bind_of_eq hbytes] at h
  rw [Files.readText, run_bind_of_eq hnoted]
  -- once the bytes are there, nothing more is done in the world
  cases bytes with
  | error failure =>
    cases h
    rfl
  | ok bytes =>
    dsimp only at h ⊢
    split at h
    · cases h
      rfl
    · cases h
      rfl

/-- With a journal, the source comes from the same place. -/
theorem SourceCase.journaled {path : String} {answer : Except String (Option String)}
    {reads : List String} {outcome : Except PluginError String} {final : σ}
    (h : SourceCase path asked answer reads outcome final) (deeds : List (Deed σ)) :
    SourceCase path (⟨deeds, asked⟩ : Journal (Deed σ) σ) answer reads outcome
      ⟨deeds ++ reads.map .read, final⟩ := by
  cases h with
  | supplied htext =>
    rw [List.map_nil, List.append_nil]
    exact .supplied htext
  | failed =>
    rw [List.map_nil, List.append_nil]
    exact .failed
  | deferred hdefers hread => exact .deferred hdefers (readText_journaled hread deeds)

/-- Whatever the last answer is, the source comes from somewhere. -/
theorem exists_sourceCase (path : String) (asked : σ) (answer : Except String (Option String)) :
    ∃ reads outcome final, SourceCase path asked answer reads outcome final := by
  by_cases hdefers : Defers answer
  · exact ⟨[path], _, _, .deferred hdefers rfl⟩
  · rcases answer with error | (_ | text)
    · exact ⟨[], _, asked, .failed⟩
    · exact absurd (.inl rfl) hdefers
    · refine ⟨[], _, asked, .supplied ?_⟩
      rintro rfl
      exact hdefers (.inr rfl)

theorem readSource_run {reads : List String} {outcome : Except PluginError String} {final : σ}
    (h : Chain.Traversal Defers (fun processor : Processor σ => processor args state.build)
      state.plugin.processors.onStyleLoad start calls asked)
    (hcase : SourceCase args.path asked (Chain.lastAnswer (.ok none) calls) reads outcome final) :
    (readSource state args).run start = (outcome, final) := by
  rw [readSource, run_bind_of_eq (firstSome_run h)]
  generalize Chain.lastAnswer (.ok none) calls = answer at hcase
  cases hcase with
  | supplied htext =>
    rw [nonEmpty_of_ne htext]
    rfl
  | failed => rfl
  | deferred hdefers hread =>
    rw [(nonEmpty_eq_ok_none_iff _).2 hdefers]
    dsimp only [ProcessorStage.fail, Except.mapError]
    rw [run_bind_of_eq hread]
    rfl

theorem SourceCase.mem_reads_iff {path : String} {answer : Except String (Option String)}
    {reads : List String} {outcome : Except PluginError String} {final : σ}
    (h : SourceCase path asked answer reads outcome final) : path ∈ reads ↔ Defers answer := by
  cases h with
  | supplied htext => simp [Defers, htext]
  | failed => simp [Defers]
  | deferred hdefers _ => simp [hdefers]

end Source

theorem readsSource [MonadFiles (StateM σ)] (state : PluginState (StateM σ)) (args : LoadArgs) :
    ReadsSource state args := by
  intro start deeds
  obtain ⟨calls, asked, hcalls⟩ := Chain.exists_traversal Defers
    (fun processor : Processor σ => processor args state.build)
    state.plugin.processors.onStyleLoad start
  obtain ⟨reads, outcome, final, hcase⟩ :=
    exists_sourceCase args.path asked (Chain.lastAnswer (.ok none) calls)
  refine ⟨calls, asked, reads, outcome, final, hcalls, hcase, readSource_run hcalls hcase, ?_, ?_⟩
  · -- the journal changes the processors, and none of their answers
    have hlast : Chain.lastAnswer (.ok none) (calls.map (Prod.map Processor.journaled id)) =
        Chain.lastAnswer (.ok none) calls :=
      Chain.lastAnswer_map (Except.ok none) calls Processor.journaled id
    have hnoted := hcase.journaled (deeds ++ calls.map fun call => .ran call.1)
    rw [← hlast] at hnoted
    exact readSource_run (traversal_journaled hcalls deeds) hnoted
  · rw [hcase.mem_reads_iff, defers_lastAnswer_iff hcalls.reach]

/-- Every way to run a chain runs the stages that it owes and no others, whatever they do to the
state, and so does reading the source of a style sheet. -/
theorem keepsContracts {α β γ ε : Type} [MonadFiles (StateM σ)] (stages : List α) (value : β)
    (change : α → β → StateM σ (Except ε β)) (look : α → StateM σ (Except ε (Option γ)))
    (attempt : α → StateM σ (Except ε Unit)) (act : α → StateM σ Unit)
    (state : PluginState (StateM σ)) (args : LoadArgs) :
    Chain.FoldsInOrder change value stages ∧ Chain.TakesFirst look stages ∧
      Chain.TriesInOrder attempt stages ∧ Chain.RunsAll act stages ∧ ReadsSource state args :=
  ⟨Chain.foldsInOrder change value stages, Chain.takesFirst look stages,
    Chain.triesInOrder attempt stages, Chain.runsAll act stages, readsSource state args⟩

section Mixed

/-- Answers of processors: none, an empty text, a text and a failure. -/
def mixedAnswers : List (Except String (Option String)) :=
  [.ok none, .ok (some ""), .ok (some "$x: 1;"), .error "no access"]

/-- A plugin whose processors for style sheets give these answers. -/
def mixed : PluginState (StateM FileTree) where
  plugin := {
    name := "mixed"
    executor := fun _ => return .error .closed
    templateOptions := .object []
    styleOptions := .object []
    processors := { onStyleLoad := mixedAnswers.map fun answer _ _ => return answer } }
  build := {}
  mode := .ofDefine []
  aliases := { get := return {}, set := fun _ => return () }

/-- A stage of the mixed answers. -/
def mixedStage {α : Type} (use : Option String → α) (answer : Except String (Option String)) :
    StateM FileTree (Except String α) :=
  return answer.map use

/-- The empty text decides the chain as such, and two stages run. For a source it is no text: three
processors run, and no file is read. -/
theorem keepsContracts_mixed :
    (Chain.firstSome (fun answer => Journal.enter answer (mixedStage id answer)) mixedAnswers).run
      ⟨[], ringFiles⟩ = (.ok (some ""), ⟨mixedAnswers.take 2, ringFiles⟩) ∧
    (readSource mixed.journaled { path := "/main.scss" }).run ⟨[], ringFiles⟩ =
      (.ok "$x: 1;",
        ⟨(mixed.plugin.processors.onStyleLoad.take 3).map Deed.ran, ringFiles⟩) ∧
    Chain.FoldsInOrder (fun answer texts => mixedStage (texts ++ ·.toList) answer) [] mixedAnswers ∧
    Chain.TakesFirst (mixedStage id) mixedAnswers ∧
    Chain.TriesInOrder (mixedStage fun _ => ()) mixedAnswers ∧
    Chain.RunsAll (fun answer => discard (mixedStage id answer)) mixedAnswers ∧
    ReadsSource mixed { path := "/main.scss" } :=
  ⟨rfl, rfl, keepsContracts mixedAnswers [] _ _ _ _ mixed _⟩

end Mixed

end StyleSheet

end SfcBundler
