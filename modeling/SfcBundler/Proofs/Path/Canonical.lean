import Mathlib.Data.List.Basic
import Mathlib.Data.List.TakeWhile
import SfcBundler.Path
import SfcBundler.Proofs.Text.Fields

/-!
# Canonical paths

A path that was cleaned and begins at the root is a list of steps that say where to go and nothing
else. Such a path is what it is seen from anywhere, and stays so when a query is written behind it.

## Main definitions

* `Path.IsStep`: a segment that leads from a directory to something in it
* `Path.IsRooted`: the text of a cleaned path that begins at the root
* `Path.Pushes`: what one more segment does to the steps that were taken

## Main results

* `Path.pushes_push`: the cases of a segment
* `Path.isRooted_absolutize`: a path seen from an absolute directory is rooted
* `Path.absolutize_of_isRooted`: a rooted path is seen the same from everywhere
* `Path.IsRooted.append`: a rooted path with a query behind it is rooted
* `Path.isAbsolute_parentDir`: the directory that a named path lies in is absolute
-/

namespace SfcBundler.Path

/-- A segment that leads from a directory to something in it. -/
structure IsStep (segment : List Char) : Prop where
  notTrivial : isTrivial segment = false
  ne_up : segment ≠ up
  noSlash : '/' ∉ segment

/-- The text of a cleaned path that begins at the root. -/
def IsRooted (text : List Char) : Prop :=
  ∃ segments, (∀ segment ∈ segments, IsStep segment) ∧ text = '/' :: Text.join ['/'] segments

theorem IsRooted.isAbsoluteText {text : List Char} (h : IsRooted text) : isAbsoluteText text := by
  obtain ⟨segments, -, rfl⟩ := h
  rfl

section Normal

variable {segment : List Char} {segments taken : List (List Char)}

/-- What one more segment does to the steps that were taken, the last one first. A parent step takes
back the step before it, if there is one to take back. -/
inductive Pushes (absolute : Bool) : List (List Char) → List Char → List (List Char) → Prop
  | trivial {taken : List (List Char)} {segment : List Char} (htrivial : isTrivial segment) :
    Pushes absolute taken segment taken
  | root (habsolute : absolute = true) : Pushes absolute [] up []
  | climb (hrelative : absolute = false) : Pushes absolute [] up [up]
  | climbOn (before : List (List Char)) : Pushes absolute (up :: before) up (up :: up :: before)
  | back {last : List Char} (hlast : last ≠ up) (before : List (List Char)) :
    Pushes absolute (last :: before) up before
  | step {taken : List (List Char)} {segment : List Char} (htrivial : isTrivial segment = false)
    (hup : segment ≠ up) : Pushes absolute taken segment (segment :: taken)

theorem push_back (absolute : Bool) {last : List Char} (hlast : last ≠ up)
    (before : List (List Char)) : Normal.push absolute (last :: before) up = before := by
  rw [Normal.push.eq_def, if_neg (by decide), if_pos rfl]
  exact if_neg hlast

theorem push_step (absolute : Bool) (taken : List (List Char)) (htrivial : isTrivial segment = false)
    (hup : segment ≠ up) : Normal.push absolute taken segment = segment :: taken := by
  rw [Normal.push.eq_def, if_neg (by simp [htrivial]), if_neg hup]

theorem pushes_push (absolute : Bool) (taken : List (List Char)) (segment : List Char) :
    Pushes absolute taken segment (Normal.push absolute taken segment) := by
  by_cases htrivial : isTrivial segment
  · rw [Normal.push_of_isTrivial htrivial]
    exact .trivial htrivial
  by_cases hup : segment = up
  · subst hup
    cases taken with
    | nil =>
      cases absolute with
      | true => exact .root rfl
      | false => exact .climb rfl
    | cons last before =>
      by_cases hlast : last = up
      · subst hlast
        exact .climbOn before
      · rw [push_back absolute hlast]
        exact .back hlast before
  · have hstep : isTrivial segment = false := by simpa using htrivial
    rw [push_step absolute taken hstep hup]
    exact .step hstep hup

theorem isStep_push (htaken : ∀ step ∈ taken, IsStep step) (hsegment : '/' ∉ segment) :
    ∀ step ∈ Normal.push true taken segment, IsStep step := by
  have hpush := pushes_push true taken segment
  generalize Normal.push true taken segment = next at hpush ⊢
  cases hpush with
  | trivial | root => exact htaken
  | climb hrelative => cases hrelative
  -- a parent step is no step, so none was taken
  | climbOn before => exact absurd rfl (htaken up List.mem_cons_self).ne_up
  | back _ before => exact (List.forall_mem_cons.1 htaken).2
  | step htrivial hup => exact List.forall_mem_cons.2 ⟨⟨htrivial, hup, hsegment⟩, htaken⟩

/-- An absolute path takes only steps once it is in normal form. -/
theorem isStep_foldl (htaken : ∀ step ∈ taken, IsStep step)
    (hsegments : ∀ segment ∈ segments, '/' ∉ segment) :
    ∀ step ∈ segments.foldl (Normal.push true) taken, IsStep step :=
  List.foldlRecOn (motive := fun taken => ∀ step ∈ taken, IsStep step) segments _ htaken
    fun _ htaken segment hsegment => isStep_push htaken (hsegments segment hsegment)

theorem foldl_push_of_isStep (absolute : Bool) (hsegments : ∀ segment ∈ segments, IsStep segment) :
    segments.foldl (Normal.push absolute) taken = segments.reverse ++ taken := by
  induction segments generalizing taken with
  | nil => rfl
  | cons segment rest ih =>
    have hsegment := hsegments segment List.mem_cons_self
    rw [List.foldl_cons, push_step absolute taken hsegment.notTrivial hsegment.ne_up,
      ih fun other hother => hsegments other (List.mem_cons_of_mem _ hother),
      List.reverse_cons, List.append_assoc, List.singleton_append]

theorem mem_push {absolute : Bool} {first : List Char}
    (h : segment ∈ Normal.push absolute taken first) :
    segment = first ∨ segment ∈ taken ∨ segment = up := by
  have hpush := pushes_push absolute taken first
  generalize Normal.push absolute taken first = next at hpush h
  cases hpush with
  | trivial => exact .inr (.inl h)
  | root => cases h
  | climb => exact .inl (List.mem_singleton.1 h)
  | climbOn before => exact (List.mem_cons.1 h).imp_right .inl
  | back _ before => exact .inr (.inl (List.mem_cons_of_mem _ h))
  | step => exact (List.mem_cons.1 h).imp_right .inl

/-- Normal forms hold no segments but those of the path and parent steps. -/
theorem mem_foldl_push {absolute : Bool}
    (h : segment ∈ segments.foldl (Normal.push absolute) taken) :
    segment ∈ segments ∨ segment ∈ taken ∨ segment = up := by
  induction segments generalizing taken with
  | nil => exact .inr (.inl h)
  | cons first rest ih =>
    rcases ih h with hrest | hpush | hup
    · exact .inl (List.mem_cons_of_mem _ hrest)
    · rcases mem_push hpush with hfirst | hkept | hup
      · exact .inl (List.mem_cons.2 (.inl hfirst))
      · exact .inr (.inl hkept)
      · exact .inr (.inr hup)
    · exact .inr (.inr hup)

end Normal

/-- The normal form of an absolute text is rooted. -/
theorem isRooted_toText {text : List Char} (h : isAbsoluteText text) :
    IsRooted (normalize text).toText := by
  refine ⟨(normalize text).segments, ?_, ?_⟩
  · intro step hstep
    rw [normalize, h, Normal.ofSegments, List.mem_reverse] at hstep
    exact isStep_foldl (by simp) (fun segment hsegment => Text.notMem_of_mem_fields hsegment)
      step hstep
  · rw [Normal.toText, normalize, h]
    rfl

/-- Steps from the root are read back from their text. -/
theorem normalize_of_isStep {segments : List (List Char)}
    (hsegments : ∀ segment ∈ segments, IsStep segment) :
    normalize ('/' :: Text.join ['/'] segments) = ⟨true, segments⟩ := by
  -- the slash at the root leaves an empty segment in front, which is trivial
  rw [normalize, Text.fields, if_pos rfl, Normal.ofSegments, List.foldl_cons,
    Normal.push_of_isTrivial (by rfl)]
  cases segments with
  | nil => rfl
  | cons first rest =>
    rw [Text.fields_join (fun segment hsegment => (hsegments segment hsegment).noSlash) (by simp),
      foldl_push_of_isStep _ hsegments, List.append_nil, List.reverse_reverse]
    rfl

/-- A rooted text is its own normal form. -/
theorem IsRooted.normalize_eq {text : List Char} (h : IsRooted text) :
    (normalize text).toText = text := by
  obtain ⟨segments, hsegments, rfl⟩ := h
  rw [normalize_of_isStep hsegments]
  rfl

theorem isAbsoluteText_joinText {base text : List Char} (h : isAbsoluteText base) :
    isAbsoluteText (joinText base text) := by
  cases base with
  | nil => cases h
  | cons c rest =>
    rw [joinText]
    split
    · rename_i htext
      simpa using htext
    · split
      · exact h
      · exact h

theorem isAbsoluteText_append {text : List Char} (h : text ≠ []) (more : List Char) :
    isAbsoluteText (text ++ more) = isAbsoluteText text := by
  rw [isAbsoluteText, isAbsoluteText, List.head?_append_of_ne_nil _ h]

theorem joinText_append {text : List Char} (base : List Char) (h : text ≠ []) (more : List Char) :
    joinText base (text ++ more) = joinText base text ++ more := by
  rw [joinText, joinText, isAbsoluteText_append h]
  split
  · rfl
  · split
    · rw [List.append_assoc]
    · rw [List.append_assoc, List.cons_append]

theorem isSuffix_joinText (base text : List Char) : text <:+ joinText base text := by
  rw [joinText]
  split
  · exact List.suffix_refl text
  · split
    · exact List.suffix_append base text
    · exact (List.suffix_cons '/' text).trans (List.suffix_append base ('/' :: text))

theorem joinText_of_isAbsoluteText {text : List Char} (base : List Char) (h : isAbsoluteText text) :
    joinText base text = text := by
  rw [joinText, if_pos (by simp [h])]

/-- What is below a directory stands behind a slash that the directory may have itself. -/
theorem joinText_eq_append {base text : List Char} (hbase : base ≠ [])
    (htext : isAbsoluteText text = false) :
    joinText base text = base ++ ((if base.getLast? = some '/' then [] else ['/']) ++ text) := by
  rw [joinText, if_neg (by simp [htext, hbase])]
  by_cases hlast : base.getLast? = some '/'
  · rw [if_pos (by simp [hlast]), if_pos hlast, List.nil_append]
  · rw [if_neg (by simpa using hlast), if_neg hlast, List.singleton_append]

/-- It does not matter in which order paths are joined. -/
theorem join_join (first second third : String) :
    join (join first second) third = join first (join second third) := by
  rw [join, join, join, join, String.toList_ofList, String.toList_ofList, String.ofList_inj]
  generalize first.toList = a, second.toList = b, third.toList = c
  by_cases hc : isAbsoluteText c
  · rw [joinText_of_isAbsoluteText _ hc, joinText_of_isAbsoluteText _ hc,
      joinText_of_isAbsoluteText _ hc]
  rw [Bool.not_eq_true] at hc
  by_cases hb : b = []
  · subst hb
    have hnil : joinText [] c = c := by rw [joinText, if_pos (by simp)]
    by_cases ha : a = []
    · subst ha
      exact congrArg (joinText []) hnil.symm
    rw [hnil]
    -- an empty path below a directory ends in a slash
    rw [joinText_eq_append ha rfl, List.append_nil, joinText_eq_append (by simp [ha]) hc,
      joinText_eq_append ha hc]
    split <;> simp_all
  · have hjoined : joinText a b ≠ [] := by
      intro hnil
      have hsuffix := isSuffix_joinText a b
      rw [hnil, List.suffix_nil] at hsuffix
      exact hb hsuffix
    have hlast : (joinText a b).getLast? = b.getLast? := by
      obtain ⟨front, hfront⟩ := isSuffix_joinText a b
      rw [← hfront, List.getLast?_append_of_ne_nil _ hb]
    rw [joinText_eq_append hjoined hc, joinText_eq_append hb hc, joinText_append a hb, hlast]

/-- A path seen from an absolute directory is rooted. -/
theorem isRooted_absolutize (path : String) {base : String} (h : isAbsolute base) :
    IsRooted (absolutize path base).toList := by
  rw [absolutize, clean, String.toList_ofList, join, String.toList_ofList]
  exact isRooted_toText (isAbsoluteText_joinText h)

/-- An absolute path is cleaned alone, wherever it is seen from. -/
theorem absolutize_of_isAbsolute {path : String} (h : isAbsolute path) (base : String) :
    absolutize path base = clean path := by
  rw [absolutize, join, joinText_of_isAbsoluteText _ h, String.ofList_toList]

/-- A rooted path is seen the same from everywhere. -/
theorem absolutize_of_isRooted {path : String} (h : IsRooted path.toList) (base : String) :
    absolutize path base = path := by
  rw [absolutize_of_isAbsolute h.isAbsoluteText, clean, h.normalize_eq, String.ofList_toList]

/-- A segment without slashes is a step if anything but dots stands in it. -/
theorem isStep_of_mem {segment : List Char} {c : Char} (hc : c ∈ segment) (hdot : c ≠ '.')
    (hslash : '/' ∉ segment) : IsStep segment where
  notTrivial := by
    have hnil : segment ≠ [] := List.ne_nil_of_mem hc
    have hone : segment ≠ ['.'] := by
      rintro rfl
      exact hdot (List.mem_singleton.1 hc)
    simp [isTrivial, hnil, hone]
  ne_up := by
    rintro rfl
    simp [up, hdot] at hc
  noSlash := hslash

/-- A rooted path with a query behind it is rooted. -/
theorem IsRooted.append {text query : List Char} (h : IsRooted text) (hroot : text ≠ ['/'])
    {c : Char} (hc : c ∈ query) (hdot : c ≠ '.') (hslash : '/' ∉ query) :
    IsRooted (text ++ query) := by
  obtain ⟨segments, hsegments, rfl⟩ := h
  rcases List.eq_nil_or_concat segments with rfl | ⟨front, last, rfl⟩
  · exact absurd rfl hroot
  -- the query lengthens the last step
  · refine ⟨front ++ [last ++ query], fun segment hsegment => ?_, ?_⟩
    · rcases List.mem_append.1 hsegment with hfront | hlast
      · exact hsegments segment (by simp [hfront])
      · obtain rfl := List.mem_singleton.1 hlast
        have hstep := hsegments last (by simp)
        refine isStep_of_mem (List.mem_append_right _ hc) hdot ?_
        rw [List.mem_append, not_or]
        exact ⟨hstep.noSlash, hslash⟩
    · rw [List.concat_eq_append, List.cons_append, Text.join_append_last]

theorem split_of_slash (body : List Char) :
    split ('/' :: body) = (['/'], (Text.fields '/' body).reverse.dropWhile isTrivial) := rfl

/-- An absolute path has a last segment if anything but slashes and dots stands in it. -/
theorem split_ne_nil {body : List Char} {c : Char} (hc : c ∈ body) (hslash : c ≠ '/')
    (hdot : c ≠ '.') : (split ('/' :: body)).2 ≠ [] := by
  obtain ⟨segment, hsegment, hc⟩ := Text.exists_mem_fields hc hslash
  have hstep := isStep_of_mem hc hdot (Text.notMem_of_mem_fields hsegment)
  rw [split_of_slash]
  intro hnil
  -- a step would have been dropped as trivial
  have htrivial := List.dropWhile_eq_nil_iff.1 hnil segment (List.mem_reverse.2 hsegment)
  rw [hstep.notTrivial] at htrivial
  cases htrivial

/-- The directory that a path lies in is absolute, if the path is and has a last segment. -/
theorem isAbsolute_parentDir {path : String} (h : isAbsolute path)
    (hname : (split path.toList).2 ≠ []) : isAbsolute (parentDir path) := by
  rw [isAbsolute] at h
  rw [parentDir, parent?]
  cases htext : path.toList with
  | nil =>
    rw [htext] at h
    cases h
  | cons c body =>
    obtain rfl : c = '/' := by simpa [htext, isAbsoluteText] using h
    rw [htext] at hname
    rw [split_of_slash] at hname ⊢
    cases hsegments : (Text.fields '/' body).reverse.dropWhile isTrivial with
    | nil => exact absurd hsegments hname
    | cons last before =>
      simp [isAbsolute, isAbsoluteText]

/-- So it is for a path in which anything but slashes and dots stands. -/
theorem isAbsolute_parentDir_of_mem {path : String} (h : isAbsolute path) {c : Char}
    (hc : c ∈ path.toList) (hslash : c ≠ '/') (hdot : c ≠ '.') : isAbsolute (parentDir path) := by
  refine isAbsolute_parentDir h ?_
  rw [isAbsolute] at h
  cases htext : path.toList with
  | nil =>
    rw [htext] at hc
    cases hc
  | cons first body =>
    obtain rfl : first = '/' := by simpa [htext, isAbsoluteText] using h
    rw [htext] at hc
    exact split_ne_nil ((List.mem_cons.1 hc).resolve_left hslash) hslash hdot

/-- So it is for a path with an extension. -/
theorem isAbsolute_parentDir_of_extension {path : String} (h : isAbsolute path)
    (hextension : (extension? path).isSome) : isAbsolute (parentDir path) := by
  refine isAbsolute_parentDir h fun hnil => ?_
  rw [extension?, fileName?, hnil] at hextension
  cases hextension

/-- The segments of a normal form are made of the characters of the path, and of dots. -/
theorem mem_of_mem_normalize {text segment : List Char} {c : Char}
    (hsegment : segment ∈ (normalize text).segments) (hc : c ∈ segment) : c ∈ text ∨ c = '.' := by
  rw [normalize, Normal.ofSegments, List.mem_reverse] at hsegment
  rcases mem_foldl_push hsegment with hfield | hnil | rfl
  · exact .inl (Text.mem_of_mem_fields hfield hc)
  · cases hnil
  · simp [up] at hc
    exact .inr hc

/-- The text of a normal form is made of its segments, and of slashes and dots. -/
theorem mem_toText {normal : Normal} {c : Char} (hc : c ∈ normal.toText) :
    (∃ segment ∈ normal.segments, c ∈ segment) ∨ c = '/' ∨ c = '.' := by
  have hjoin (hjoined : c ∈ Text.join ['/'] normal.segments) :
      (∃ segment ∈ normal.segments, c ∈ segment) ∨ c = '/' ∨ c = '.' :=
    (Text.mem_join hjoined).symm.imp_right fun hslash => .inl (List.mem_singleton.1 hslash)
  rw [Normal.toText] at hc
  -- whatever stands in front of the segments is a slash or a dot as well
  split at hc
  · exact (List.mem_cons.1 hc).elim (fun hroot => .inr (.inl hroot)) hjoin
  · split at hc
    · exact .inr (.inr (List.mem_singleton.1 hc))
    · exact hjoin hc

/-- A cleaned path is made of the characters of the path, and of slashes and dots. -/
theorem mem_clean {path : String} {c : Char} (hc : c ∈ (clean path).toList) :
    c ∈ path.toList ∨ c = '/' ∨ c = '.' := by
  rw [clean, String.toList_ofList] at hc
  rcases mem_toText hc with ⟨segment, hsegment, hmem⟩ | hdot
  · exact (mem_of_mem_normalize hsegment hmem).imp_right .inr
  · exact .inr hdot

/-- The way to a path is made of the characters of the path, and of slashes and dots. -/
theorem mem_relativeTo? {path base way : String} {c : Char} (h : relativeTo? path base = some way)
    (hc : c ∈ way.toList) : c ∈ path.toList ∨ c = '/' ∨ c = '.' := by
  obtain ⟨normal, hnormal, rfl⟩ := Option.map_eq_some_iff.1 h
  rw [String.toList_ofList] at hc
  rcases mem_toText hc with ⟨segment, hsegment, hmem⟩ | hdot
  · rw [Normal.relativeTo?] at hnormal
    split at hnormal
    · obtain rfl := Option.some.inj hnormal
      rcases List.mem_append.1 hsegment with hup | hdrop
      · obtain ⟨-, -, rfl⟩ := List.mem_map.1 hup
        simp [up] at hmem
        exact .inr (.inr hmem)
      · exact (mem_of_mem_normalize (List.mem_of_mem_drop hdrop) hmem).imp_right .inr
    · cases hnormal
  · exact .inr hdot

/-- A path without backslashes has forward slashes only. -/
theorem toPosix_of_notMem {path : String} (h : '\\' ∉ path.toList) : toPosix path = path := by
  have hmap : path.toList.map (fun c => if c = '\\' then '/' else c) = path.toList := by
    refine (List.map_congr_left fun c hc => ?_).trans (List.map_id path.toList)
    have hne : c ≠ '\\' := fun heq => h (heq ▸ hc)
    exact if_neg hne
  rw [toPosix, hmap, String.ofList_toList]

end SfcBundler.Path
