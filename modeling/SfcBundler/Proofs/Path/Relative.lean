import SfcBundler.Proofs.Path.Placed

/-!
# Ways from a directory to a path

A way climbs out of a directory a number of times and then takes steps. The way from a directory to
a path climbs out of what the two do not share, which is as often as any way there has to climb, and
joined to the directory it leads to the path. Nothing but the cleaned paths counts.

## Main definitions

* `Path.segments`: the segments that stand in a path
* `Path.IsWay`: the text of a way that climbs and then takes steps
* `Path.IsCommonFront`: the longest list that two others begin with
* `Path.IsShortestWay`: a way that leads to a path and climbs no more than it has to

## Main results

* `Path.IsWay.clean_join`: where a way leads from a directory
* `Path.isAbsolute_clean`: cleaning neither puts a path at the root nor takes it away from there
* `Path.relativeTo?_inverts_join`: the way from a directory to a path, joined to the directory
-/

namespace SfcBundler.Path

/-- The segments that stand in a path; between two slashes in a row stands none. -/
def segments (path : String) : List (List Char) := (Text.fields '/' path.toList).filter (· ≠ [])

/-- The text of a way that climbs a number of times and then takes steps. A way that does neither is
a single dot. -/
structure IsWay (climbs : Nat) (steps : List (List Char)) (way : String) : Prop where
  areSteps : AreSteps steps
  text : way.toList = if climbs = 0 ∧ steps = [] then ['.'] else
    Text.join ['/'] (List.replicate climbs up ++ steps)

/-- The longest list that two others begin with. -/
structure IsCommonFront (front one other : List (List Char)) : Prop where
  left : front <+: one
  right : front <+: other
  longest : ∀ shared, shared <+: one → shared <+: other → shared <+: front

/-- A way from a directory to a path that climbs no more than it has to. -/
structure IsShortestWay (path base : String) (climbs : Nat) (steps : List (List Char))
    (way : String) : Prop where
  isWay : IsWay climbs steps way
  leads : clean (join base way) = clean path
  /-- The way climbs out of the segments of the directory that the path does not share. -/
  outOf : ∃ front, IsCommonFront front (segments (clean path)) (segments (clean base)) ∧
    (segments (clean base)).length = front.length + climbs
  shortest : ∀ fewer rest other, IsWay fewer rest other → clean (join base other) = clean path →
    climbs ≤ fewer

section Front

variable {front one other : List (List Char)}

theorem isCommonFront_nil (other : List (List Char)) : IsCommonFront [] [] other :=
  ⟨List.nil_prefix, List.nil_prefix, fun _ hleft _ => hleft⟩

theorem IsCommonFront.symm (h : IsCommonFront front one other) : IsCommonFront front other one :=
  ⟨h.right, h.left, fun shared hleft hright => h.longest shared hright hleft⟩

theorem IsCommonFront.cons (h : IsCommonFront front one other) (segment : List Char) :
    IsCommonFront (segment :: front) (segment :: one) (segment :: other) where
  left := List.cons_prefix_cons.2 ⟨rfl, h.left⟩
  right := List.cons_prefix_cons.2 ⟨rfl, h.right⟩
  longest shared hleft hright := by
    cases shared with
    | nil => exact List.nil_prefix
    | cons first rest =>
      obtain ⟨rfl, hone⟩ := List.cons_prefix_cons.1 hleft
      obtain ⟨-, hother⟩ := List.cons_prefix_cons.1 hright
      exact List.cons_prefix_cons.2 ⟨rfl, h.longest rest hone hother⟩

theorem isCommonFront_of_ne {first second : List Char} (h : first ≠ second) :
    IsCommonFront [] (first :: one) (second :: other) where
  left := List.nil_prefix
  right := List.nil_prefix
  longest shared hleft hright := by
    cases shared with
    | nil => exact List.nil_prefix
    | cons segment rest =>
      obtain ⟨rfl, -⟩ := List.cons_prefix_cons.1 hleft
      exact absurd (List.cons_prefix_cons.1 hright).1 h

/-- Segments that are compared one by one are shared up to the first that differ. -/
theorem exists_isCommonFront (one other : List (List Char)) : ∃ front restOne restOther,
    one = front ++ restOne ∧ other = front ++ restOther ∧ IsCommonFront front one other ∧
      ((one.zip other).takeWhile fun pair => pair.1 == pair.2).length = front.length := by
  induction one generalizing other with
  | nil => exact ⟨[], [], other, rfl, rfl, isCommonFront_nil other, rfl⟩
  | cons first one ih =>
    cases other with
    | nil => exact ⟨[], first :: one, [], rfl, rfl, (isCommonFront_nil _).symm, rfl⟩
    | cons second other =>
      by_cases h : first = second
      · subst h
        obtain ⟨front, restOne, restOther, hone, hother, hfront, hlength⟩ := ih other
        refine ⟨first :: front, restOne, restOther, by rw [hone]; rfl, by rw [hother]; rfl,
          hfront.cons first, ?_⟩
        rw [List.zip_cons_cons, List.takeWhile_cons_of_pos (by simp), List.length_cons, hlength,
          List.length_cons]
      · refine ⟨[], first :: one, second :: other, rfl, rfl, isCommonFront_of_ne h, ?_⟩
        rw [List.zip_cons_cons, List.takeWhile_cons_of_neg (by simp [h])]
        rfl

end Front

/-! ### Cleaned paths -/

section Clean

variable {absolute : Bool} {path base : String} {taken segments : List (List Char)}

theorem notTrivial_push {segment : List Char}
    (htaken : ∀ kept ∈ taken, isTrivial kept = false ∧ '/' ∉ kept) (hsegment : '/' ∉ segment) :
    ∀ kept ∈ Normal.push absolute taken segment, isTrivial kept = false ∧ '/' ∉ kept := by
  have hup : isTrivial up = false ∧ '/' ∉ up := by decide
  have hpush := pushes_push absolute taken segment
  generalize Normal.push absolute taken segment = next at hpush ⊢
  cases hpush with
  | trivial | root => exact htaken
  | climb | climbOn => exact List.forall_mem_cons.2 ⟨hup, htaken⟩
  | back => exact (List.forall_mem_cons.1 htaken).2
  | step htrivial => exact List.forall_mem_cons.2 ⟨⟨htrivial, hsegment⟩, htaken⟩

/-- A normal form holds no trivial segment. -/
theorem notTrivial_foldl_push (htaken : ∀ kept ∈ taken, isTrivial kept = false ∧ '/' ∉ kept)
    (hsegments : ∀ segment ∈ segments, '/' ∉ segment) :
    ∀ kept ∈ segments.foldl (Normal.push absolute) taken, isTrivial kept = false ∧ '/' ∉ kept :=
  List.foldlRecOn (motive := fun taken => ∀ kept ∈ taken, isTrivial kept = false ∧ '/' ∉ kept)
    segments _ htaken
    fun _ htaken segment hsegment => notTrivial_push htaken (hsegments segment hsegment)

/-- Joined segments begin as the first of them does. -/
theorem isAbsoluteText_join (h : ∀ segment ∈ segments, isTrivial segment = false ∧ '/' ∉ segment) :
    isAbsoluteText (Text.join ['/'] segments) = false := by
  cases segments with
  | nil => rfl
  | cons first rest =>
    obtain ⟨htrivial, hslash⟩ := (List.forall_mem_cons.1 h).1
    cases first with
    | nil => cases htrivial
    | cons c chars =>
      have hc : c ≠ '/' := fun heq => hslash (heq ▸ List.mem_cons_self)
      cases rest <;> simpa [Text.join, isAbsoluteText] using hc

/-- Cleaning neither puts a path at the root nor takes it away from there. -/
theorem isAbsolute_clean (path : String) : isAbsolute (clean path) = isAbsolute path := by
  rw [isAbsolute, isAbsolute, clean, String.toList_ofList]
  cases h : isAbsoluteText path.toList with
  | true => exact (isRooted_toText h).isAbsoluteText
  | false =>
    have hsegments : ∀ segment ∈ Text.fields '/' path.toList, '/' ∉ segment :=
      fun segment hsegment => Text.notMem_of_mem_fields hsegment
    have hkept : ∀ kept ∈ (Text.fields '/' path.toList).foldl (Normal.push false) [],
        isTrivial kept = false ∧ '/' ∉ kept := notTrivial_foldl_push (by simp) hsegments
    rw [normalize, h, Normal.ofSegments, Normal.toText, if_neg (by simp)]
    split
    · rfl
    · exact isAbsoluteText_join fun segment hsegment => hkept segment (List.mem_reverse.1 hsegment)

/-- An absolute path is cleaned to the place that its steps lead to. -/
theorem clean_eq_place (h : isAbsolute path) : clean path = place "/" (stepsTo path) := by
  rw [clean, normalize_eq h]
  rfl

/-- In a cleaned path stand the steps that it takes. -/
theorem segments_clean (h : isAbsolute path) : Path.segments (clean path) = stepsTo path := by
  have hsteps := areSteps_stepsTo h
  rw [Path.segments, clean, String.toList_ofList, normalize_eq h, Normal.toText, if_pos rfl,
    Text.fields, if_pos rfl, List.filter_cons_of_neg (by simp)]
  rcases eq_or_ne (stepsTo path) [] with hnil | hne
  · rw [hnil]
    rfl
  · rw [Text.fields_join (fun step hstep => (hsteps step hstep).noSlash) hne,
      List.filter_eq_self.2 fun step hstep => ?_]
    have htrivial := (hsteps step hstep).notTrivial
    rw [decide_eq_true_eq]
    rintro rfl
    cases htrivial

end Clean

/-! ### Ways -/

section Way

variable {path base way : String} {climbs : Nat} {steps taken : List (List Char)}

/-- To climb is to take back steps; at the root there are none to take back. -/
theorem foldl_push_up (h : AreSteps taken) :
    (List.replicate climbs up).foldl (Normal.push true) taken = taken.drop climbs := by
  induction climbs generalizing taken with
  | zero => rfl
  | succ climbs ih =>
    rw [List.replicate_succ, List.foldl_cons]
    cases taken with
    | nil =>
      rw [Normal.push_root_up, ih h, List.drop_nil, List.drop_nil]
    | cons last before =>
      have hlast : last ≠ up := (h last List.mem_cons_self).ne_up
      rw [push_back true hlast, ih (fun step hstep => h step (List.mem_cons_of_mem _ hstep)), List.drop_succ_cons]

/-- What a way is made of, climbs and steps, are segments of a text. -/
theorem notTrivial_of_mem_climbs_append (hsteps : AreSteps steps) :
    ∀ segment ∈ List.replicate climbs up ++ steps, isTrivial segment = false ∧ '/' ∉ segment := by
  intro segment hsegment
  rcases List.mem_append.1 hsegment with hup | hstep
  · rw [List.eq_of_mem_replicate hup]
    decide
  · exact ⟨(hsteps segment hstep).notTrivial, (hsteps segment hstep).noSlash⟩

namespace IsWay

theorem isRelative (h : IsWay climbs steps way) : isAbsolute way = false := by
  rw [isAbsolute, h.text]
  split
  · rfl
  · exact isAbsoluteText_join (notTrivial_of_mem_climbs_append h.areSteps)

/-- A way takes back as many steps as it climbs, and takes its own. -/
theorem foldl_push (h : IsWay climbs steps way) (htaken : AreSteps taken) :
    (Text.fields '/' way.toList).foldl (Normal.push true) taken =
      steps.reverse ++ taken.drop climbs := by
  rw [h.text]
  split
  · rename_i hnone
    obtain ⟨rfl, rfl⟩ := hnone
    have hdot : isTrivial ['.'] = true := by decide
    exact Normal.push_of_isTrivial hdot true taken
  · rename_i hsome
    have hslash : ∀ segment ∈ List.replicate climbs up ++ steps, '/' ∉ segment :=
      fun segment hsegment => (notTrivial_of_mem_climbs_append h.areSteps segment hsegment).2
    rw [Text.fields_join hslash (by simpa using hsome), List.foldl_append, foldl_push_up htaken,
      foldl_push_of_isStep true h.areSteps]

/-- A way leads from a directory to the place that is reached by the steps to the directory, less as
many as the way climbs, and the steps of the way. -/
theorem clean_join (h : IsWay climbs steps way) (hbase : isAbsolute base) :
    clean (join base way) =
      place "/" ((stepsTo base).take ((stepsTo base).length - climbs) ++ steps) := by
  have hsteps : AreSteps (stepsTo base).reverse := fun step hstep =>
    areSteps_stepsTo hbase step (List.mem_reverse.1 hstep)
  rw [← absolutize, stepsTo_absolutize hbase h.isRelative, h.foldl_push hsteps, List.reverse_append,
    List.reverse_reverse, List.drop_reverse, List.reverse_reverse]
  rfl

/-- A way leads to the path whose steps it leaves and takes. -/
theorem clean_join_eq_iff (h : IsWay climbs steps way) (hpath : isAbsolute path)
    (hbase : isAbsolute base) : clean (join base way) = clean path ↔
      (stepsTo base).take ((stepsTo base).length - climbs) ++ steps = stepsTo path := by
  have hkept : AreSteps ((stepsTo base).take ((stepsTo base).length - climbs) ++ steps) :=
    AreSteps.append (fun step hstep => areSteps_stepsTo hbase step (List.mem_of_mem_take hstep))
      h.areSteps
  rw [h.clean_join hbase, clean_eq_place hpath]
  exact ⟨place_injective (by decide) hkept (areSteps_stepsTo hpath), fun heq => by rw [heq]⟩

end IsWay

/-- The way from a directory to a path with the same beginning. -/
theorem isWay_relativeTo? {front : List (List Char)} {climbed : List (List Char)}
    (hsteps : AreSteps steps) (hpath : isAbsolute path) (hbase : isAbsolute base)
    (hpathSteps : stepsTo path = front ++ steps) (hbaseSteps : stepsTo base = front ++ climbed)
    (hshared : (((stepsTo path).zip (stepsTo base)).takeWhile
      fun pair => pair.1 == pair.2).length = front.length) :
    ∃ way, relativeTo? path base = some way ∧ IsWay climbed.length steps way := by
  rw [relativeTo?, normalize_eq hpath, normalize_eq hbase, Normal.relativeTo?]
  simp only [Bool.and_self, if_true, hshared, Option.map_some]
  rw [hpathSteps, hbaseSteps, List.drop_left, List.drop_left, List.map_const']
  refine ⟨_, rfl, hsteps, ?_⟩
  rw [String.toList_ofList, Normal.toText, if_neg (by simp)]
  simp only [List.isEmpty_iff, List.append_eq_nil_iff, List.replicate_eq_nil_iff]

/-- A path is only related to a directory if both are absolute. -/
theorem relativeTo?_eq_none (h : isAbsolute path = false ∨ isAbsolute base = false) :
    relativeTo? path base = none := by
  have hnot : (isAbsolute path && isAbsolute base) = false := by
    rcases h with h | h <;> simp [h]
  rw [relativeTo?, Normal.relativeTo?, if_neg]
  · rfl
  · exact ne_true_of_eq_false hnot

/-- The way from a directory to a path climbs out of what the two do not share. -/
theorem exists_isShortestWay (hpath : isAbsolute path) (hbase : isAbsolute base) :
    ∃ way climbs steps, relativeTo? path base = some way ∧
      IsShortestWay path base climbs steps way := by
  obtain ⟨front, steps, climbed, hpathSteps, hbaseSteps, hfront, hshared⟩ :=
    exists_isCommonFront (stepsTo path) (stepsTo base)
  have hsteps : AreSteps steps := (hpathSteps ▸ areSteps_stepsTo hpath).right
  obtain ⟨way, hway, hisWay⟩ :=
    isWay_relativeTo? hsteps hpath hbase hpathSteps hbaseSteps hshared
  have hlength : (stepsTo base).length = front.length + climbed.length := by
    rw [hbaseSteps, List.length_append]
  refine ⟨way, climbed.length, steps, hway, hisWay, ?_, ?_,
    fun fewer rest other hother hleads => ?_⟩
  · rw [hisWay.clean_join_eq_iff hpath hbase, hlength, Nat.add_sub_cancel, hbaseSteps,
      List.take_left, hpathSteps]
  · exact ⟨front, by rwa [segments_clean hpath, segments_clean hbase],
      by rw [segments_clean hbase, hlength]⟩
  · rw [hother.clean_join_eq_iff hpath hbase] at hleads
    -- what the other way leaves of the directory is shared with the path
    have hkept : (stepsTo base).take ((stepsTo base).length - fewer) <+: front :=
      hfront.longest _ ⟨rest, hleads⟩ (List.take_prefix _ _)
    have hle := hkept.length_le
    rw [List.length_take] at hle
    omega

/-- Paths that are cleaned to the same path take the same steps. -/
theorem stepsTo_congr {other : String} (hpath : isAbsolute path)
    (h : clean other = clean path) : isAbsolute other ∧ stepsTo other = stepsTo path := by
  have hother : isAbsolute other := by
    rw [← isAbsolute_clean, h, isAbsolute_clean]
    exact hpath
  rw [clean_eq_place hother, clean_eq_place hpath] at h
  exact ⟨hother, place_injective (by decide) (areSteps_stepsTo hother) (areSteps_stepsTo hpath) h⟩

/-- The way from one path to another does not depend on how they are written. -/
theorem relativeTo?_congr {path' base' : String} (hpath : clean path' = clean path)
    (hbase : clean base' = clean base) : relativeTo? path' base' = relativeTo? path base := by
  have hpathRoot : isAbsolute path' = isAbsolute path := by
    rw [← isAbsolute_clean, hpath, isAbsolute_clean]
  have hbaseRoot : isAbsolute base' = isAbsolute base := by
    rw [← isAbsolute_clean, hbase, isAbsolute_clean]
  by_cases habsolute : isAbsolute path ∧ isAbsolute base
  · obtain ⟨hpath', hpathSteps⟩ := stepsTo_congr habsolute.1 hpath
    obtain ⟨hbase', hbaseSteps⟩ := stepsTo_congr habsolute.2 hbase
    rw [relativeTo?, relativeTo?, normalize_eq hpath', normalize_eq hbase',
      normalize_eq habsolute.1, normalize_eq habsolute.2, hpathSteps, hbaseSteps]
  · have hnone : isAbsolute path = false ∨ isAbsolute base = false := by
      rwa [Decidable.not_and_iff_not_or_not, Bool.not_eq_true, Bool.not_eq_true] at habsolute
    rw [relativeTo?_eq_none hnone, relativeTo?_eq_none (hpathRoot ▸ hbaseRoot ▸ hnone)]

/-- To relate a path to a directory undoes joining: from an absolute directory there is a way to
every absolute path, joined to the directory it leads to the path, and it climbs no more than it has
to. There is no way to or from a relative path, and paths with the same cleaned form are told apart
by nothing. -/
theorem relativeTo?_inverts_join (path base : String) :
    (isAbsolute path → isAbsolute base → ∃ way climbs steps,
      relativeTo? path base = some way ∧ IsShortestWay path base climbs steps way) ∧
    (isAbsolute path = false ∨ isAbsolute base = false → relativeTo? path base = none) ∧
    ∀ path' base', clean path' = clean path → clean base' = clean base →
      relativeTo? path' base' = relativeTo? path base :=
  ⟨exists_isShortestWay, relativeTo?_eq_none, fun _ _ => relativeTo?_congr⟩

/-- The two share a segment, and the directory is written with a climb above the root. -/
theorem relativeTo?_inverts_join_detour :
    relativeTo? "/p//a/./b/../c.vue" "/../p/x/../y/z/" = some "../../a/c.vue" ∧
      ∃ climbs steps,
        IsShortestWay "/p//a/./b/../c.vue" "/../p/x/../y/z/" climbs steps "../../a/c.vue" := by
  have hway : relativeTo? "/p//a/./b/../c.vue" "/../p/x/../y/z/" = some "../../a/c.vue" := by
    decide +kernel
  obtain ⟨way, climbs, steps, hfound, hshortest⟩ :=
    (relativeTo?_inverts_join "/p//a/./b/../c.vue" "/../p/x/../y/z/").1 (by decide) (by decide)
  obtain rfl := Option.some.inj (hway.symm.trans hfound)
  exact ⟨hway, climbs, steps, hshortest⟩

end Way

end SfcBundler.Path
