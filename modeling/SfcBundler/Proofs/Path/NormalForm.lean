import SfcBundler.Proofs.Path.Relative

/-!
# The normal form of a path

A cleaned path has no segment that could be left out: none that names no step, and parent steps only
where there is nothing to take back. A path of that form is what it is cleaned to, so each normal
form has one text, and a path may be cleaned before another is put below it as well as after.

## Main definitions

* `Path.written`: the segments of a path as they are written
* `Path.IsCanonical`: a path with no segment that could be left out
* `Path.Normal.IsReduced`: a normal form with parent steps only in front

## Main results

* `Path.isReduced_normalize`: every normal form is reduced
* `Path.normalize_toText`: a reduced normal form is read back from its text
* `Path.isCanonical_iff`: the canonical paths are those that cleaning leaves alone
* `Path.clean_join_clean`: a path may be cleaned before another is put below it
-/

namespace SfcBundler.Path

/-- The segments of a path as they are written, behind the root if it begins there; the root alone
has none. -/
def written (path : String) : List (List Char) :=
  match path.toList with
  | ['/'] => []
  | '/' :: rest => Text.fields '/' rest
  | text => Text.fields '/' text

/-- A path with no segment that could be left out. -/
structure IsCanonical (path : String) : Prop where
  /-- No segment is empty or a single dot, unless the path is a single dot. -/
  notTrivial : path = "." ∨ ∀ segment ∈ written path, isTrivial segment = false
  /-- Parent steps stand only in front, and only in a relative path. -/
  leading : ∃ climbs rest, written path = List.replicate climbs up ++ rest ∧ up ∉ rest ∧
    (isAbsolute path → climbs = 0)

/-- Segments taken one after the other, the last one first: steps, and before them parent steps,
which an absolute path has none of. -/
def AreTaken (absolute : Bool) (taken : List (List Char)) : Prop :=
  ∃ steps climbs, taken = steps ++ List.replicate climbs up ∧ AreSteps steps ∧
    (absolute → climbs = 0)

/-- A normal form with parent steps only in front, and only if it is relative. -/
def Normal.IsReduced (path : Normal) : Prop := AreTaken path.absolute path.segments.reverse

section Taken

variable {absolute : Bool} {segment : List Char} {segments taken : List (List Char)}

theorem areTaken_nil (absolute : Bool) : AreTaken absolute [] :=
  ⟨[], 0, rfl, fun _ hstep => absurd hstep List.not_mem_nil, fun _ => rfl⟩

theorem push_of_isStep (absolute : Bool) (taken : List (List Char)) (h : IsStep segment) :
    Normal.push absolute taken segment = segment :: taken :=
  push_step absolute taken h.notTrivial h.ne_up

/-- With no step to take back, a parent step of a relative path stays. -/
theorem push_up_replicate (climbs : Nat) :
    Normal.push false (List.replicate climbs up) up = List.replicate (climbs + 1) up := by
  rw [Normal.push.eq_def, if_neg (by decide), if_pos rfl]
  cases climbs with
  | zero => rfl
  | succ climbs =>
    rw [List.replicate_succ]
    exact if_pos rfl

theorem AreTaken.push (h : AreTaken absolute taken) (hsegment : '/' ∉ segment) :
    AreTaken absolute (Normal.push absolute taken segment) := by
  obtain ⟨steps, climbs, rfl, hsteps, hroot⟩ := h
  by_cases htrivial : isTrivial segment
  · rw [Normal.push_of_isTrivial htrivial]
    exact ⟨steps, climbs, rfl, hsteps, hroot⟩
  by_cases hup : segment = up
  · subst hup
    cases steps with
    -- with none to take back it is left out at the root, and stays elsewhere
    | nil =>
      cases absolute with
      | true =>
        obtain rfl : climbs = 0 := hroot rfl
        exact areTaken_nil true
      | false => exact ⟨[], climbs + 1, push_up_replicate climbs, hsteps, fun hroot => nomatch hroot⟩
    -- a parent step takes back the last step
    | cons last before =>
      have hlast : last ≠ up := (hsteps last List.mem_cons_self).ne_up
      rw [List.cons_append, push_back absolute hlast]
      exact ⟨before, climbs, rfl, (List.forall_mem_cons.1 hsteps).2, hroot⟩
  · have hstep : IsStep segment := ⟨by simpa using htrivial, hup, hsegment⟩
    rw [push_of_isStep absolute _ hstep]
    exact ⟨segment :: steps, climbs, rfl, List.forall_mem_cons.2 ⟨hstep, hsteps⟩, hroot⟩

theorem AreTaken.foldl_push (h : AreTaken absolute taken)
    (hsegments : ∀ segment ∈ segments, '/' ∉ segment) :
    AreTaken absolute (segments.foldl (Normal.push absolute) taken) :=
  List.foldlRecOn (motive := AreTaken absolute) segments _ h
    fun _ htaken segment hsegment => htaken.push (hsegments segment hsegment)

/-- Taking the segments of a reduced path leaves nothing out. -/
theorem AreTaken.foldl_push_reverse (h : AreTaken absolute taken) :
    taken.reverse.foldl (Normal.push absolute) [] = taken := by
  obtain ⟨steps, climbs, rfl, hsteps, hroot⟩ := h
  -- the parent steps come first, with nothing in front of them to take back
  have hclimbs : (List.replicate climbs up).foldl (Normal.push absolute) [] =
      List.replicate climbs up := by
    cases absolute with
    | true => rw [hroot rfl]; rfl
    | false =>
      clear hroot
      induction climbs with
      | zero => rfl
      | succ climbs ih =>
        rw [List.replicate_succ', List.foldl_append, ih, ← List.replicate_succ',
          ← push_up_replicate]
        rfl
  rw [List.reverse_append, List.reverse_replicate, List.foldl_append, hclimbs,
    foldl_push_of_isStep absolute fun step hstep => hsteps step (List.mem_reverse.1 hstep),
    List.reverse_reverse]

end Taken

/-! ### Normal forms and their texts -/

section Text

variable {normal : Normal} {text base : List Char}

/-- Every normal form is reduced. -/
theorem isReduced_normalize (text : List Char) : (normalize text).IsReduced := by
  rw [Normal.IsReduced, normalize, Normal.ofSegments, List.reverse_reverse]
  exact (areTaken_nil _).foldl_push fun segment hsegment => Text.notMem_of_mem_fields hsegment

namespace Normal.IsReduced

theorem ofSegments_eq (h : normal.IsReduced) :
    Normal.ofSegments normal.absolute normal.segments = normal := by
  have hfold := h.foldl_push_reverse
  rw [List.reverse_reverse] at hfold
  rw [Normal.ofSegments, hfold, List.reverse_reverse]

/-- A reduced path holds parent steps and steps. -/
theorem cases (h : normal.IsReduced) : ∃ climbs steps,
    normal.segments = List.replicate climbs up ++ steps ∧ AreSteps steps ∧
      (normal.absolute → climbs = 0) := by
  obtain ⟨steps, climbs, htaken, hsteps, hroot⟩ := h
  refine ⟨climbs, steps.reverse, ?_, fun step hstep => hsteps step (List.mem_reverse.1 hstep),
    hroot⟩
  rw [← List.reverse_reverse normal.segments, htaken, List.reverse_append, List.reverse_replicate]

theorem notTrivial (h : normal.IsReduced) :
    ∀ segment ∈ normal.segments, isTrivial segment = false ∧ '/' ∉ segment := by
  obtain ⟨climbs, steps, hsegments, hsteps, -⟩ := h.cases
  rw [hsegments]
  exact notTrivial_of_mem_climbs_append hsteps

end Normal.IsReduced

theorem fields_toText (h : normal.IsReduced) (hne : normal.segments ≠ []) :
    Text.fields '/' (Text.join ['/'] normal.segments) = normal.segments :=
  Text.fields_join (fun segment hsegment => (h.notTrivial segment hsegment).2) hne

/-- A reduced normal form is read back from its text. -/
theorem normalize_toText (h : normal.IsReduced) : normalize normal.toText = normal := by
  have hofSegments := h.ofSegments_eq
  have hnotTrivial := h.notTrivial
  have hfields := fields_toText h
  obtain ⟨absolute, segments⟩ := normal
  dsimp only at hofSegments hnotTrivial hfields
  rcases eq_or_ne segments [] with rfl | hne
  · cases absolute <;> rfl
  cases absolute with
  | true =>
    -- the slash at the root leaves an empty segment in front
    rw [Normal.toText, if_pos rfl, normalize, Text.fields, if_pos rfl, hfields hne]
    exact hofSegments
  | false =>
    rw [Normal.toText, if_neg Bool.false_ne_true, if_neg (by simpa using hne), normalize,
      isAbsoluteText_join hnotTrivial, hfields hne]
    exact hofSegments

/-- What a path is cleaned to has the same normal form. -/
theorem normalize_clean (path : String) :
    normalize (clean path).toList = normalize path.toList := by
  rw [clean, String.toList_ofList, normalize_toText (isReduced_normalize _)]

/-- A relative text goes on from the normal form of the directory that it is put below. -/
theorem normalize_joinText_eq (htext : isAbsoluteText text = false) :
    normalize (joinText base text) = ⟨(normalize base).absolute,
      ((Text.fields '/' text).foldl (Normal.push (normalize base).absolute)
        (normalize base).segments.reverse).reverse⟩ := by
  rcases eq_or_ne base [] with rfl | hbase
  · have hjoin : joinText [] text = text := by rw [joinText, if_pos (by simp)]
    rw [hjoin, normalize, htext]
    rfl
  · have habsolute : isAbsoluteText (base ++ '/' :: text) = isAbsoluteText base :=
      isAbsoluteText_append hbase _
    rw [normalize_joinText hbase htext, normalize, habsolute, Text.fields_append_mark, normalize,
      Normal.ofSegments, Normal.ofSegments, List.foldl_append, List.reverse_reverse]

end Text

/-! ### Canonical paths -/

section Canonical

variable {path : String} {normal : Normal}

theorem exists_of_isAbsolute (h : isAbsolute path) : ∃ rest, path.toList = '/' :: rest := by
  rw [isAbsolute, isAbsoluteText, beq_iff_eq] at h
  exact List.head?_eq_some_iff.1 h

theorem written_of_isAbsolute {rest : List Char} (h : path.toList = '/' :: rest) :
    written path = if rest = [] then [] else Text.fields '/' rest := by
  rw [written, h]
  cases rest <;> rfl

theorem written_of_isRelative (h : isAbsolute path = false) :
    written path = Text.fields '/' path.toList := by
  rw [isAbsolute] at h
  rw [written]
  split
  · rename_i htext
    rw [htext] at h
    cases h
  · rename_i htext
    rw [htext] at h
    cases h
  · rfl

/-- A path is the text of its segments as they are written. -/
theorem toText_written (path : String) :
    (⟨isAbsolute path, written path⟩ : Normal).toText = path.toList := by
  cases habsolute : isAbsolute path with
  | false =>
    rw [Normal.toText, if_neg Bool.false_ne_true, written_of_isRelative habsolute,
      if_neg (by simpa using Text.fields_ne_nil '/' _), Text.join_fields]
  | true =>
    obtain ⟨rest, htext⟩ := exists_of_isAbsolute habsolute
    rw [Normal.toText, if_pos rfl, written_of_isAbsolute htext, htext]
    split
    · rename_i hrest
      rw [hrest]
      rfl
    · rw [Text.join_fields]

/-- An absolute path is put in normal form by the segments that are written in it. -/
theorem normalize_of_isAbsolute (h : isAbsolute path) :
    normalize path.toList = Normal.ofSegments true (written path) := by
  obtain ⟨rest, htext⟩ := exists_of_isAbsolute h
  have hempty : isTrivial [] = true := by decide
  -- the slash at the root leaves an empty segment in front
  rw [written_of_isAbsolute htext, htext, normalize, Text.fields, if_pos rfl, Normal.ofSegments,
    List.foldl_cons, Normal.push_of_isTrivial hempty]
  split
  · rename_i hrest
    rw [hrest]
    rfl
  · rfl

theorem slash_notMem_written : ∀ segment ∈ written path, '/' ∉ segment := by
  intro segment hsegment
  rw [written] at hsegment
  split at hsegment
  · cases hsegment
  · exact Text.notMem_of_mem_fields hsegment
  · exact Text.notMem_of_mem_fields hsegment

/-- The segments of a reduced normal form are those that are written in its text, unless it has
none and its text is a single dot. -/
theorem written_toText (h : normal.IsReduced) :
    String.ofList normal.toText = "." ∨
      written (String.ofList normal.toText) = normal.segments := by
  have hfields := fields_toText h
  have hnotTrivial := h.notTrivial
  obtain ⟨absolute, segments⟩ := normal
  dsimp only at hfields hnotTrivial
  cases absolute with
  | true =>
    refine .inr ?_
    rw [Normal.toText, if_pos rfl, written_of_isAbsolute (String.toList_ofList)]
    rcases eq_or_ne segments [] with rfl | hne
    · rfl
    · -- an empty text has one segment, which is empty
      have hjoin : Text.join ['/'] segments ≠ [] := by
        intro hnil
        rw [hnil] at hfields
        have htrivial := (hnotTrivial [] (hfields hne ▸ List.mem_cons_self)).1
        cases htrivial
      rw [if_neg hjoin, hfields hne]
  | false =>
    rcases eq_or_ne segments [] with rfl | hne
    · exact .inl rfl
    · refine .inr ?_
      have htext : (⟨false, segments⟩ : Normal).toText = Text.join ['/'] segments := by
        rw [Normal.toText, if_neg Bool.false_ne_true, if_neg (by simpa using hne)]
      have hrelative : isAbsolute (String.ofList (Text.join ['/'] segments)) = false := by
        rw [isAbsolute, String.toList_ofList, isAbsoluteText_join hnotTrivial]
      rw [htext, written_of_isRelative hrelative, String.toList_ofList, hfields hne]

/-- A cleaned path is canonical. -/
theorem isCanonical_clean (path : String) : IsCanonical (clean path) := by
  have hreduced := isReduced_normalize path.toList
  have habsolute : isAbsolute (clean path) = (normalize path.toList).absolute :=
    isAbsolute_clean path
  rcases written_toText hreduced with hdot | hwritten
  · have hclean : clean path = "." := hdot
    rw [hclean]
    exact ⟨.inl rfl, 0, [['.']], rfl, by decide, fun _ => rfl⟩
  · have hwritten : written (clean path) = (normalize path.toList).segments := hwritten
    obtain ⟨climbs, steps, hsegments, hsteps, hroot⟩ := hreduced.cases
    refine ⟨.inr fun segment hsegment => ?_, climbs, steps, hwritten.trans hsegments,
      fun hup => (hsteps up hup).ne_up rfl, fun hclean => hroot (habsolute ▸ hclean)⟩
    exact (hreduced.notTrivial segment (hwritten ▸ hsegment)).1

/-- The segments that are written in a canonical path are those of its normal form. -/
theorem IsCanonical.isReduced (h : IsCanonical path) (hdot : path ≠ ".") :
    (⟨isAbsolute path, written path⟩ : Normal).IsReduced := by
  have hnotTrivial := h.notTrivial.resolve_left hdot
  obtain ⟨climbs, rest, hwritten, hrest, hroot⟩ := h.leading
  have hsteps : AreSteps rest := by
    intro step hstep
    have hmem : step ∈ written path := hwritten ▸ List.mem_append_right _ hstep
    exact ⟨hnotTrivial step hmem, fun hup => hrest (hup ▸ hstep), slash_notMem_written step hmem⟩
  refine ⟨rest.reverse, climbs, ?_, fun step hstep => hsteps step (List.mem_reverse.1 hstep),
    hroot⟩
  rw [hwritten, List.reverse_append, List.reverse_replicate]

/-- The canonical paths are those that cleaning leaves alone. -/
theorem isCanonical_iff : IsCanonical path ↔ clean path = path := by
  constructor
  · intro h
    -- the single dot is the text of no segments, all others are read back
    by_cases hdot : path = "."
    · rw [hdot]
      decide +kernel
    · have hnormal := normalize_toText (h.isReduced hdot)
      rw [toText_written] at hnormal
      rw [clean, hnormal, toText_written, String.ofList_toList]
  · intro h
    rw [← h]
    exact isCanonical_clean path

/-- A canonical path that begins at the root takes steps only. -/
theorem isCanonical_iff_areSteps (h : isAbsolute path) :
    IsCanonical path ↔ AreSteps (written path) := by
  have hdot : path ≠ "." := by
    rintro rfl
    exact absurd h (by decide)
  constructor
  · intro hcanonical step hstep
    obtain ⟨climbs, rest, hwritten, hrest, hroot⟩ := hcanonical.leading
    obtain rfl : climbs = 0 := hroot h
    rw [List.replicate_zero, List.nil_append] at hwritten
    exact ⟨hcanonical.notTrivial.resolve_left hdot step hstep,
      fun hup => hrest (hwritten ▸ hup ▸ hstep), slash_notMem_written step hstep⟩
  · intro hsteps
    exact ⟨.inr fun segment hsegment => (hsteps segment hsegment).notTrivial, 0, written path, rfl,
      fun hup => (hsteps up hup).ne_up rfl, fun _ => rfl⟩

/-- A path may be cleaned before another is put below it. -/
theorem clean_join_clean (path below : String) :
    clean (join (clean path) below) = clean (join path below) := by
  have hjoined : normalize (join (clean path) below).toList = normalize (join path below).toList := by
    rw [join, join, String.toList_ofList, String.toList_ofList]
    cases hbelow : isAbsoluteText below.toList with
    | true => rw [joinText_of_isAbsoluteText _ hbelow, joinText_of_isAbsoluteText _ hbelow]
    | false => rw [normalize_joinText_eq hbelow, normalize_joinText_eq hbelow, normalize_clean]
  rw [clean, hjoined, ← clean]

/-- Cleaning gives a path the one form in which no segment could be left out. That form is absolute
or relative as the path is, it is cleaned to itself, and it may take the place of the path wherever
another path is put below. So a path that was seen from an absolute directory is seen the same from
everywhere. -/
theorem clean_canonical (path : String) :
    clean path ≠ "" ∧ isAbsolute (clean path) = isAbsolute path ∧ IsCanonical (clean path) ∧
    (IsCanonical path ↔ clean path = path) ∧ clean (clean path) = clean path ∧
    (∀ below, clean (join path below) = clean (join (clean path) below)) ∧
    ∀ base other, isAbsolute base →
      absolutize (absolutize path base) other = absolutize path base := by
  have hclean := isCanonical_clean path
  refine ⟨fun hempty => ?_, isAbsolute_clean path, hclean, isCanonical_iff,
    isCanonical_iff.1 hclean, fun below => (clean_join_clean path below).symm,
    fun base other hbase => absolutize_of_isRooted (isRooted_absolutize path hbase) other⟩
  -- the empty path has an empty segment
  rw [hempty] at hclean
  exact absurd (hclean.notTrivial.resolve_left (by decide) [] (by decide)) (by decide)

/-- A relative path that climbs, and comes to a path above the root. -/
theorem clean_canonical_climb :
    clean "a/../../b//./c/" = "../b/c" ∧ IsCanonical "../b/c" ∧ clean "../b/c" = "../b/c" ∧
    clean (join "a/../../b//./c/" "../../../d") = "../../d" ∧
    clean (join "../b/c" "../../../d") = "../../d" ∧ isAbsolute "/p/.." ∧
    absolutize (absolutize "a/../../b//./c/" "/p/..") "q" = "/b/c" := by
  obtain ⟨-, -, hcanonical, -, hagain, hbelow, hseen⟩ := clean_canonical "a/../../b//./c/"
  have hclean : clean "a/../../b//./c/" = "../b/c" := by decide +kernel
  have hjoined : clean (join "a/../../b//./c/" "../../../d") = "../../d" := by decide +kernel
  have hplace : absolutize "a/../../b//./c/" "/p/.." = "/b/c" := by decide +kernel
  rw [hclean] at hcanonical hagain hbelow
  exact ⟨hclean, hcanonical, hagain, hjoined, (hbelow "../../../d").symm.trans hjoined, by decide,
    (hseen "/p/.." "q" (by decide)).trans hplace⟩

end Canonical

end SfcBundler.Path
