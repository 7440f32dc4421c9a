import Mathlib.Data.List.Basic
import SfcBundler.Proofs.Path.Canonical

/-!
# Places below a directory

A place below a directory is known by the steps that lead there. What is said of such a place by
its steps alone is the same wherever the directory lies.

## Main definitions

* `Path.stepsTo`: the steps from the root to a directory
* `Path.place`: the path of a place below a directory
* `Path.LeadsTo`: a directory that is reached from another by steps
* `Path.Stays`: a relative path that nowhere climbs above the place it is counted from

## Main results

* `Path.normalize_append_slash`: what stands behind a slash is counted from what stands before it
* `Path.toList_place`: the text of a place is that of the directory with that of the steps behind
* `Path.place_injective`, `Path.relativeTo?_place`: a place and its steps give each other
* `Path.absolutize_of_stays`: a path that stays below leads to a place below
-/

namespace SfcBundler

theorem Text.fields_append_mark (mark : Char) (front back : List Char) :
    Text.fields mark (front ++ mark :: back) = Text.fields mark front ++ Text.fields mark back := by
  induction front with
  | nil => simp [Text.fields]
  | cons c front ih =>
    by_cases hc : c = mark
    · rw [List.cons_append, Text.fields, Text.fields, if_pos hc, if_pos hc, ih, List.cons_append]
    · obtain ⟨piece, pieces, hfront⟩ := List.exists_cons_of_ne_nil (Text.fields_ne_nil mark front)
      rw [List.cons_append, Text.fields, Text.fields, if_neg hc, if_neg hc, ih, hfront]
      rfl

/-- A text is cut at the first mark behind a text without marks. -/
theorem Text.cut_append_of_notMem {mark : Char} {front : List Char} (h : mark ∉ front)
    (back : List Char) :
    Text.cut mark (front ++ back) =
      (Text.cut mark back).map fun halves => (front ++ halves.1, halves.2) := by
  induction front with
  | nil => simp
  | cons c front ih =>
    rw [List.mem_cons, not_or] at h
    rw [List.cons_append, Text.cut, if_neg (Ne.symm h.1), ih h.2, Option.map_map]
    rfl

namespace Path

section Slash

variable {base text front back : List Char}

theorem ne_nil_of_isAbsoluteText (h : isAbsoluteText text) : text ≠ [] := by
  rintro rfl
  cases h

theorem isAbsoluteText_append_slash (front back more : List Char) :
    isAbsoluteText (front ++ '/' :: back) = isAbsoluteText (front ++ '/' :: more) := by
  cases front <;> rfl

/-- What stands behind a slash is counted from where the text before the slash leads. -/
theorem normalize_append_slash (h : isAbsoluteText (front ++ '/' :: back)) :
    normalize (front ++ '/' :: back) = ⟨true, ((Text.fields '/' back).foldl (Normal.push true)
      (normalize front).segments.reverse).reverse⟩ := by
  have hfront : (normalize front).segments.reverse =
      (Text.fields '/' front).foldl (Normal.push true) [] := by
    rcases eq_or_ne front [] with rfl | hne
    -- in front of the root's own slash stands nothing
    · rfl
    · rw [isAbsoluteText_append hne] at h
      rw [normalize, h, Normal.ofSegments, List.reverse_reverse]
  rw [normalize, h, Text.fields_append_mark, Normal.ofSegments, List.foldl_append, hfront]

/-- A slash behind a slash counts for nothing. -/
theorem normalize_double_slash (front back : List Char) :
    normalize (front ++ '/' :: '/' :: back) = normalize (front ++ '/' :: back) := by
  have habsolute := isAbsoluteText_append_slash front ('/' :: back) back
  have hfields : Text.fields '/' ('/' :: back) = [] :: Text.fields '/' back := by
    rw [Text.fields, if_pos rfl]
  rw [normalize, normalize, habsolute, Text.fields_append_mark, Text.fields_append_mark, hfields,
    Normal.ofSegments, Normal.ofSegments, List.foldl_append, List.foldl_append, List.foldl_cons,
    Normal.push_of_isTrivial (by rfl)]

/-- A relative text below a directory stands behind a slash. -/
theorem normalize_joinText (hbase : base ≠ []) (htext : isAbsoluteText text = false) :
    normalize (joinText base text) = normalize (base ++ '/' :: text) := by
  rw [joinText_eq_append hbase htext]
  split
  · rename_i hlast
    obtain ⟨front, rfl⟩ := List.getLast?_eq_some_iff.1 hlast
    rw [List.nil_append, List.append_assoc, List.append_assoc, List.singleton_append,
      List.singleton_append, normalize_double_slash]
  · rw [List.singleton_append]

end Slash

/-- The steps from the root to a directory. -/
def stepsTo (dir : String) : List (List Char) := (normalize dir.toList).segments

/-- The text of steps, each behind a slash. -/
def trail (steps : List (List Char)) : List Char := steps.flatMap fun step => '/' :: step

/-- The path of the place that steps lead to from a directory. -/
def place (dir : String) (steps : List (List Char)) : String :=
  String.ofList (Normal.toText ⟨true, stepsTo dir ++ steps⟩)

/-- Whether all segments are steps. -/
def AreSteps (steps : List (List Char)) : Prop := ∀ step ∈ steps, IsStep step

variable {dir root : String} {steps other : List (List Char)}

theorem AreSteps.append (h : AreSteps steps) (hother : AreSteps other) :
    AreSteps (steps ++ other) := fun step hstep =>
  (List.mem_append.1 hstep).elim (h step) (hother step)

theorem AreSteps.left (h : AreSteps (steps ++ other)) : AreSteps steps := fun step hstep =>
  h step (List.mem_append_left _ hstep)

theorem AreSteps.right (h : AreSteps (steps ++ other)) : AreSteps other := fun step hstep =>
  h step (List.mem_append_right _ hstep)

theorem trail_append (steps other : List (List Char)) :
    trail (steps ++ other) = trail steps ++ trail other :=
  List.flatMap_append

theorem slash_join_eq_trail (h : steps ≠ []) : '/' :: Text.join ['/'] steps = trail steps := by
  induction steps with
  | nil => exact absurd rfl h
  | cons step rest ih =>
    cases rest with
    | nil => simp [trail, Text.join]
    | cons next rest =>
      have hrest := ih (List.cons_ne_nil next rest)
      rw [Text.join, trail, List.flatMap_cons, ← trail, ← hrest]
      simp

/-- The text of a place is that of the directory with that of the steps behind. -/
theorem toList_place (h : steps ≠ []) :
    (place dir steps).toList = trail (stepsTo dir) ++ trail steps := by
  rw [place, String.toList_ofList, Normal.toText, if_pos rfl,
    slash_join_eq_trail (by simp [h]), trail_append]

theorem toList_place_nil :
    (place dir []).toList = ['/'] ∨ (place dir []).toList = trail (stepsTo dir) := by
  rw [place, String.toList_ofList, Normal.toText, if_pos rfl, List.append_nil]
  by_cases h : stepsTo dir = []
  · rw [h]
    exact .inl rfl
  · rw [slash_join_eq_trail h]
    exact .inr rfl

section Directory

variable (hdir : isAbsolute dir)
include hdir

theorem areSteps_stepsTo : AreSteps (stepsTo dir) := by
  have habsolute : isAbsoluteText dir.toList = true := hdir
  intro step hstep
  rw [stepsTo, normalize, habsolute, Normal.ofSegments, List.mem_reverse] at hstep
  exact isStep_foldl (by simp) (fun segment hsegment => Text.notMem_of_mem_fields hsegment)
    step hstep

theorem normalize_eq : normalize dir.toList = ⟨true, stepsTo dir⟩ := by
  have habsolute : isAbsoluteText dir.toList = true := hdir
  rw [stepsTo, normalize, habsolute]
  rfl

theorem isRooted_place (h : AreSteps steps) : IsRooted (place dir steps).toList :=
  ⟨stepsTo dir ++ steps, (areSteps_stepsTo hdir).append h, by rw [place, String.toList_ofList]; rfl⟩

theorem isAbsolute_place (h : AreSteps steps) : isAbsolute (place dir steps) :=
  (isRooted_place hdir h).isAbsoluteText

theorem stepsTo_place (h : AreSteps steps) : stepsTo (place dir steps) = stepsTo dir ++ steps := by
  have hnormal := normalize_of_isStep ((areSteps_stepsTo hdir).append h)
  rw [stepsTo, place, String.toList_ofList]
  exact congrArg Normal.segments hnormal

/-- A place is reached by one list of steps only. -/
theorem place_injective (h : AreSteps steps) (hother : AreSteps other)
    (heq : place dir steps = place dir other) : steps = other := by
  have hsteps := congrArg stepsTo heq
  rw [stepsTo_place hdir h, stepsTo_place hdir hother] at hsteps
  exact List.append_cancel_left hsteps

omit hdir in
theorem length_takeWhile_zip (front back : List (List Char)) :
    (((front ++ back).zip front).takeWhile fun pair => pair.1 == pair.2).length =
      front.length := by
  induction front with
  | nil => simp
  | cons step front ih =>
    rw [List.cons_append, List.zip_cons_cons, List.takeWhile_cons_of_pos (by simp),
      List.length_cons, List.length_cons, ih]

/-- The way from a directory to a place below is the steps. -/
theorem relativeTo?_place (h : AreSteps steps) :
    relativeTo? (place dir steps) dir = some (String.ofList (Normal.toText ⟨false, steps⟩)) := by
  have hplace := normalize_eq (isAbsolute_place hdir h)
  rw [stepsTo_place hdir h] at hplace
  rw [relativeTo?, hplace, normalize_eq hdir, Normal.relativeTo?]
  -- the two share all steps of the directory
  simp only [Bool.and_self, if_true, length_takeWhile_zip, List.drop_length, List.drop_left,
    List.map_nil, List.nil_append, Option.map_some]

/-- The directory of a place is reached by all steps but the last. -/
theorem parentDir_place {last : List Char} (h : AreSteps (steps ++ [last])) :
    parentDir (place dir (steps ++ [last])) = place dir steps := by
  have hall := (areSteps_stepsTo hdir).append h
  rw [← List.append_assoc] at hall
  have hlast : isTrivial last = false := (hall last (by simp)).notTrivial
  have hfields : Text.fields '/' (Text.join ['/'] (stepsTo dir ++ (steps ++ [last]))) =
      stepsTo dir ++ (steps ++ [last]) := by
    rw [← List.append_assoc]
    exact Text.fields_join (fun segment hsegment => (hall segment hsegment).noSlash) (by simp)
  have hsplit : split (place dir (steps ++ [last])).toList =
      (['/'], last :: (stepsTo dir ++ steps).reverse) := by
    rw [place, String.toList_ofList, Normal.toText, if_pos rfl, split_of_slash, hfields]
    rw [← List.append_assoc, List.reverse_append, List.reverse_singleton, List.singleton_append,
      List.dropWhile_cons_of_neg (by simp [hlast])]
  -- the step before is none that would be dropped
  have hkeep : (stepsTo dir ++ steps).reverse.dropWhile isTrivial =
      (stepsTo dir ++ steps).reverse := by
    cases hreverse : (stepsTo dir ++ steps).reverse with
    | nil => rfl
    | cons step rest =>
      have hstep : step ∈ stepsTo dir ++ steps := by
        rw [← List.mem_reverse, hreverse]
        exact List.mem_cons_self
      have htrivial := (hall.left step hstep).notTrivial
      rw [List.dropWhile_cons_of_neg (by simp [htrivial])]
  rw [parentDir, parent?, hsplit]
  simp only [hkeep, List.reverse_reverse, Option.getD_some]
  rfl

end Directory

/-- A directory that is reached from another by steps. -/
structure LeadsTo (root dir : String) (steps : List (List Char)) : Prop where
  isAbsolute : isAbsolute dir
  stepsTo_eq : stepsTo dir = stepsTo root ++ steps

theorem leadsTo_self (h : isAbsolute dir) : LeadsTo dir dir [] :=
  ⟨h, (List.append_nil _).symm⟩

theorem leadsTo_place (hdir : isAbsolute dir) (h : AreSteps steps) :
    LeadsTo dir (place dir steps) steps :=
  ⟨isAbsolute_place hdir h, stepsTo_place hdir h⟩

theorem LeadsTo.areSteps (h : LeadsTo root dir steps) : AreSteps steps := by
  have hall := areSteps_stepsTo h.isAbsolute
  rw [h.stepsTo_eq] at hall
  exact hall.right

/-- The steps that a relative path takes behind others. A climb above the place from which the
others are counted remains as a parent step. -/
def below (steps : List (List Char)) (path : String) : List (List Char) :=
  (Normal.ofSegments false (steps ++ Text.fields '/' path.toList)).segments

/-- A relative path that nowhere climbs above the place from which the steps before it are
counted. -/
def Stays (steps : List (List Char)) (path : String) : Prop :=
  isAbsolute path = false ∧ up ∉ below steps path

instance (steps : List (List Char)) (path : String) : Decidable (Stays steps path) :=
  inferInstanceAs (Decidable (_ ∧ _))

section Climb

variable {segment : List Char} {segments taken base : List (List Char)}

/-- A climb is never taken back. -/
theorem up_mem_foldl_push (h : up ∈ taken) : up ∈ segments.foldl (Normal.push false) taken := by
  refine List.foldlRecOn (motive := fun taken => up ∈ taken) segments _ h fun taken h segment _ => ?_
  have hpush := pushes_push false taken segment
  generalize Normal.push false taken segment = next at hpush ⊢
  cases hpush with
  | trivial | root => exact h
  | climb | climbOn => exact List.mem_cons_self
  | back hlast before => exact (List.mem_cons.1 h).resolve_left (Ne.symm hlast)
  | step => exact List.mem_cons_of_mem _ h

theorem push_append (h : up ∉ Normal.push false taken segment) :
    Normal.push true (taken ++ base) segment = Normal.push false taken segment ++ base := by
  have hpush := pushes_push false taken segment
  generalize Normal.push false taken segment = next at hpush h ⊢
  cases hpush with
  | trivial htrivial => exact Normal.push_of_isTrivial htrivial true _
  | root habsolute => cases habsolute
  -- with no step to take back the path climbs
  | climb | climbOn => exact absurd List.mem_cons_self h
  | back hlast before => exact push_back true hlast _
  | step htrivial hup => exact push_step true _ htrivial hup

/-- Where a path does not climb, what lies above does not count. -/
theorem foldl_push_append (h : up ∉ segments.foldl (Normal.push false) taken) :
    segments.foldl (Normal.push true) (taken ++ base) =
      segments.foldl (Normal.push false) taken ++ base := by
  induction segments generalizing taken with
  | nil => rfl
  | cons segment rest ih =>
    rw [List.foldl_cons] at h
    have hpush : up ∉ Normal.push false taken segment := fun hmem => h (up_mem_foldl_push hmem)
    rw [List.foldl_cons, List.foldl_cons, push_append hpush]
    exact ih h

end Climb

theorem below_eq (h : AreSteps steps) (path : String) :
    below steps path =
      ((Text.fields '/' path.toList).foldl (Normal.push false) steps.reverse).reverse := by
  rw [below, Normal.ofSegments, List.foldl_append, foldl_push_of_isStep false h, List.append_nil]

/-- A path that stays below takes only steps. -/
theorem areSteps_below (h : AreSteps steps) {path : String} (hstays : Stays steps path) :
    AreSteps (below steps path) := by
  obtain ⟨-, hclimb⟩ := hstays
  rw [below_eq h] at hclimb ⊢
  rw [List.mem_reverse] at hclimb
  intro step hstep
  rw [List.mem_reverse, ← List.append_nil (List.foldl _ _ _), ← foldl_push_append hclimb] at hstep
  refine isStep_foldl (fun other hother => h other ?_)
    (fun segment hsegment => Text.notMem_of_mem_fields hsegment) step hstep
  rwa [List.append_nil, List.mem_reverse] at hother

/-- The steps to a relative path seen from an absolute directory. -/
theorem stepsTo_absolutize {path : String} (hdir : isAbsolute dir)
    (hpath : isAbsolute path = false) :
    absolutize path dir = String.ofList (Normal.toText ⟨true,
      ((Text.fields '/' path.toList).foldl (Normal.push true) (stepsTo dir).reverse).reverse⟩) := by
  have hdirText : isAbsoluteText dir.toList = true := hdir
  have hne := ne_nil_of_isAbsoluteText hdirText
  have hjoined : isAbsoluteText (dir.toList ++ '/' :: path.toList) = true :=
    (isAbsoluteText_append hne _).trans hdirText
  rw [absolutize, clean, join, String.toList_ofList, normalize_joinText hne hpath,
    normalize_append_slash hjoined, stepsTo]

/-- A path that stays below leads to a place below. -/
theorem absolutize_of_stays {path : String} (h : LeadsTo root dir steps)
    (hstays : Stays steps path) : absolutize path dir = place root (below steps path) := by
  obtain ⟨hrelative, hclimb⟩ := hstays
  rw [below_eq h.areSteps, List.mem_reverse] at hclimb
  rw [stepsTo_absolutize h.isAbsolute hrelative, h.stepsTo_eq, List.reverse_append,
    foldl_push_append hclimb, List.reverse_append, List.reverse_reverse, place,
    below_eq h.areSteps]

end Path

end SfcBundler
