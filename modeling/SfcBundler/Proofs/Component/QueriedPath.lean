import SfcBundler.Proofs.Component.PartCodec
import SfcBundler.Proofs.Path.NormalForm

/-!
# Paths with a query

A path is cleaned segment by segment, and so is a query behind it. What stands in front of the first
slash of the query lengthens the last segment of the path. What stands behind it are segments like
any others: a parent step among them takes back what came before, the file name included. So a path
with a query leads to the file with the query only if the query holds nothing that could be left
out.

## Main definitions

* `Path.EndsInStep`: a path whose last segment is a step
* `Query.segments`: the segments that a query adds to a path

## Main results

* `Path.absolutize_append_query`: a path may be made absolute before its query is put behind it
* `Path.absolutize_append_query_iff`: when the query stays behind the path as it was
* `Path.absolutize_query`: which queries stay behind their path
-/

namespace SfcBundler

/-- The segments that a query adds to the path that it stands behind, all behind its first slash. -/
def Query.segments (query : String) : List (List Char) := (Text.fields '/' query.toList).tail

/-- A path is cut at its first question mark, and nowhere else. -/
theorem Query.split_eq_iff {path owner query : String} :
    Query.split path = (owner, some query) ↔ Splits path owner query := by
  refine ⟨fun h => ?_, split_of_splits⟩
  rcases notMem_or_splits path with hnone | ⟨other, found, hsplits⟩
  · rw [split_of_notMem hnone] at h
    cases h
  · rw [split_of_splits hsplits] at h
    cases h
    exact hsplits

/-- Where two texts meet, a piece goes on. -/
theorem Text.fields_append_fields {mark : Char} {text more last first : List Char}
    {front rest : List (List Char)} (htext : fields mark text = front ++ [last])
    (hmore : fields mark more = first :: rest) :
    fields mark (text ++ more) = front ++ (last ++ first) :: rest := by
  induction text generalizing front last with
  | nil =>
    obtain ⟨rfl, hlast⟩ := List.append_eq_singleton_iff.1 htext.symm |>.resolve_right
      fun h => by cases h.2
    obtain rfl := List.singleton_inj.1 hlast
    exact hmore
  | cons c text ih =>
    obtain ⟨piece, pieces, hpieces⟩ := List.exists_cons_of_ne_nil (fields_ne_nil mark text)
    -- a mark sets an empty piece in front, any other character lengthens the first one
    by_cases hc : c = mark
    · rw [fields, if_pos hc] at htext
      rw [List.cons_append, fields, if_pos hc]
      cases front with
      | nil =>
        rw [hpieces] at htext
        cases htext
      | cons empty front =>
        obtain ⟨rfl, hfront⟩ := List.cons.inj htext
        rw [ih hfront, List.cons_append]
    · rw [fields, if_neg hc, hpieces] at htext
      rw [List.cons_append, fields, if_neg hc]
      cases front with
      | nil =>
        obtain ⟨rfl, rfl⟩ := List.cons.inj htext
        have hpiece : fields mark text = [] ++ [piece] := hpieces
        rw [ih hpiece]
        rfl
      | cons other front =>
        obtain ⟨rfl, hfront⟩ := List.cons.inj htext
        have hpiece : fields mark text = (piece :: front) ++ [last] := by rw [hpieces, hfront]; rfl
        rw [ih hpiece]
        rfl

namespace Path

/-- A path whose last segment, as it is written, is a step. -/
def EndsInStep (path : String) : Prop :=
  ∃ front last, Text.fields '/' path.toList = front ++ [last] ∧ IsStep last

variable {path base query : String} {last first : List Char} {front rest steps : List (List Char)}

theorem isStep_append_mark (hlast : '/' ∉ last) (hfirst : '/' ∉ first) :
    IsStep (last ++ '?' :: first) := by
  refine isStep_of_mem (c := '?') (by simp) (by decide) ?_
  simp [hlast, hfirst]

/-- Segments in front may be taken before others follow. -/
theorem ofSegments_append (hfront : ∀ segment ∈ front, '/' ∉ segment)
    (rest : List (List Char)) :
    Normal.ofSegments true (front ++ rest) =
      Normal.ofSegments true ((Normal.ofSegments true front).segments ++ rest) := by
  have htaken := ((areTaken_nil true).foldl_push hfront).foldl_push_reverse
  rw [Normal.ofSegments, Normal.ofSegments, Normal.ofSegments, List.foldl_append,
    List.foldl_append, htaken]

theorem ne_nil_of_isStep (hpath : Text.fields '/' path.toList = front ++ [last])
    (hlast : IsStep last) : path.toList ≠ [] := by
  intro hnil
  rw [hnil] at hpath
  have hmem : last ∈ Text.fields '/' [] := hpath ▸ List.mem_append_right _ List.mem_cons_self
  obtain rfl := List.mem_singleton.1 hmem
  exact absurd hlast.notTrivial (by decide)

/-- Whatever is written behind a path with a step at its end, the steps before that one stay. -/
theorem exists_steps_joinText (hpath : Text.fields '/' path.toList = front ++ [last])
    (hlast : IsStep last) (hbase : isAbsolute base) :
    ∃ steps, AreSteps steps ∧ ∀ more first rest, Text.fields '/' more = first :: rest →
      normalize (joinText base.toList (path.toList ++ more)) =
        Normal.ofSegments true (steps ++ (last ++ first) :: rest) := by
  have hne := ne_nil_of_isStep hpath hlast
  have hbaseText : isAbsoluteText base.toList = true := hbase
  have hfront : ∀ segment ∈ front, '/' ∉ segment := fun segment hsegment =>
    Text.notMem_of_mem_fields (hpath ▸ List.mem_append_left _ hsegment)
  -- the segments before the last one, seen from the root
  obtain ⟨before, hbefore, hnormal⟩ : ∃ before : List (List Char),
      (∀ segment ∈ before, '/' ∉ segment) ∧
      ∀ more first rest, Text.fields '/' more = first :: rest →
        normalize (joinText base.toList (path.toList ++ more)) =
          Normal.ofSegments true (before ++ (last ++ first) :: rest) := by
    cases hroot : isAbsoluteText path.toList with
    | true =>
      refine ⟨front, hfront, fun more first rest hmore => ?_⟩
      have happend : isAbsoluteText (path.toList ++ more) = true :=
        (isAbsoluteText_append hne more).trans hroot
      rw [joinText_of_isAbsoluteText _ happend, normalize, happend,
        Text.fields_append_fields hpath hmore]
    | false =>
      refine ⟨Text.fields '/' base.toList ++ front, fun segment hsegment => ?_,
        fun more first rest hmore => ?_⟩
      · rcases List.mem_append.1 hsegment with hdir | hmem
        · exact Text.notMem_of_mem_fields hdir
        · exact hfront segment hmem
      · have hbaseNe := ne_nil_of_isAbsoluteText hbaseText
        rw [normalize_joinText hbaseNe ((isAbsoluteText_append hne more).trans hroot), normalize,
          isAbsoluteText_append hbaseNe, hbaseText, Text.fields_append_mark,
          Text.fields_append_fields hpath hmore, List.append_assoc]
  refine ⟨(Normal.ofSegments true before).segments, fun step hstep => ?_,
    fun more first rest hmore => ?_⟩
  · rw [Normal.ofSegments, List.mem_reverse] at hstep
    exact isStep_foldl (by simp) hbefore step hstep
  · rw [hnormal more first rest hmore, ofSegments_append hbefore]

/-- A path with a query is that of steps, where the query is what the last one goes on with. -/
theorem exists_steps_query (hname : EndsInStep path) (hbase : isAbsolute base) (query : String) :
    ∃ steps last, AreSteps (steps ++ [last]) ∧
      written (absolutize path base ++ "?" ++ query) = steps ++ last :: Query.segments query ∧
      normalize (joinText base.toList (path ++ "?" ++ query).toList) =
        Normal.ofSegments true (steps ++ last :: Query.segments query) := by
  obtain ⟨front, last, hpath, hlast⟩ := hname
  obtain ⟨steps, hsteps, hnormal⟩ := exists_steps_joinText hpath hlast hbase
  obtain ⟨first, rest, hquery⟩ :=
    List.exists_cons_of_ne_nil (Text.fields_ne_nil '/' query.toList)
  have hmark : Text.fields '/' ('?' :: query.toList) = ('?' :: first) :: rest := by
    rw [Text.fields, if_neg (by decide), hquery]
  have hsegments : Query.segments query = rest := by rw [Query.segments, hquery, List.tail_cons]
  have hfirst : '/' ∉ first := Text.notMem_of_mem_fields (hquery ▸ List.mem_cons_self)
  have hall : AreSteps (steps ++ [last]) := hsteps.append fun step hstep =>
    List.mem_singleton.1 hstep ▸ hlast
  -- without the query the path ends in its own last segment
  have hplain : absolutize path base = String.ofList ('/' :: Text.join ['/'] (steps ++ [last])) := by
    have hnormal := hnormal [] [] [] rfl
    rw [List.append_nil, List.append_nil, Normal.ofSegments, foldl_push_of_isStep true hall,
      List.append_nil, List.reverse_reverse] at hnormal
    rw [absolutize, clean, join, String.toList_ofList, hnormal]
    rfl
  refine ⟨steps, last ++ '?' :: first, ?_, ?_, ?_⟩
  · exact hsteps.append fun step hstep =>
      List.mem_singleton.1 hstep ▸ isStep_append_mark hlast.noSlash hfirst
  · have hfields : Text.fields '/' (Text.join ['/'] (steps ++ [last])) = steps ++ [last] :=
      Text.fields_join (fun step hstep => (hall step hstep).noSlash) (by simp)
    have htext : (absolutize path base ++ "?" ++ query).toList =
        '/' :: (Text.join ['/'] (steps ++ [last]) ++ '?' :: query.toList) := by
      rw [hplain]
      simp
    rw [written_of_isAbsolute htext, if_neg (by simp), Text.fields_append_fields hfields hmark,
      hsegments]
  · have htext : (path ++ "?" ++ query).toList = path.toList ++ '?' :: query.toList := by simp
    rw [htext, hnormal _ _ _ hmark, hsegments]

/-- A path seen from a directory is made of the characters of the two, and of slashes and dots. -/
theorem mem_absolutize {c : Char} (hc : c ∈ (absolutize path base).toList) :
    c ∈ path.toList ∨ c ∈ base.toList ∨ c = '/' ∨ c = '.' := by
  rw [absolutize] at hc
  rcases mem_clean hc with hjoined | hdot
  · rw [join, String.toList_ofList, joinText] at hjoined
    split at hjoined
    · exact .inl hjoined
    split at hjoined
    · exact (List.mem_append.1 hjoined).elim (fun hbase => .inr (.inl hbase)) .inl
    · rcases List.mem_append.1 hjoined with hbase | htext
      · exact .inr (.inl hbase)
      · exact (List.mem_cons.1 htext).elim (fun hslash => .inr (.inr (.inl hslash))) .inl
  · exact .inr (.inr hdot)

theorem isAbsolute_query (hbase : isAbsolute base) (path query : String) :
    isAbsolute (absolutize path base ++ "?" ++ query) := by
  have hrooted := (isRooted_absolutize path hbase).isAbsoluteText
  rw [isAbsolute, String.toList_append, String.toList_append, List.append_assoc,
    isAbsoluteText_append (ne_nil_of_isAbsoluteText hrooted)]
  exact hrooted

section Query

variable (hname : EndsInStep path) (hbase : isAbsolute base)
include hname hbase

/-- A path may be seen from a directory before a query is put behind it. What comes of the two is
cleaned as one path. -/
theorem absolutize_append_query (query : String) :
    absolutize (path ++ "?" ++ query) base = clean (absolutize path base ++ "?" ++ query) := by
  obtain ⟨steps, last, -, hwritten, hnormal⟩ := exists_steps_query hname hbase query
  rw [absolutize, clean, join, String.toList_ofList, hnormal, ← hwritten,
    ← normalize_of_isAbsolute (isAbsolute_query hbase path query), clean]

/-- A query stays behind its path if it adds nothing but steps. -/
theorem absolutize_append_query_iff (query : String) :
    absolutize (path ++ "?" ++ query) base = absolutize path base ++ "?" ++ query ↔
      AreSteps (Query.segments query) := by
  obtain ⟨steps, last, hsteps, hwritten, -⟩ := exists_steps_query hname hbase query
  rw [absolutize_append_query hname hbase query, ← isCanonical_iff,
    isCanonical_iff_areSteps (isAbsolute_query hbase path query), hwritten, List.append_cons]
  exact ⟨AreSteps.right, hsteps.append⟩

/-- The query of a part holds no slash, so it stays. -/
theorem absolutize_part (part : Part) :
    absolutize (part.path path) base = part.path (absolutize path base) := by
  obtain ⟨selection, hselection⟩ := part.exists_query
  have hquery : part.query = "?" ++ String.ofList selection := by
    rw [← String.toList_inj, hselection]
    simp
  have hslash : '/' ∉ selection := fun hmem =>
    part.slash_notMem_query (hselection ▸ List.mem_cons_of_mem _ hmem)
  have hsegments : Query.segments (String.ofList selection) = [] := by
    rw [Query.segments, String.toList_ofList, Text.fields_of_notMem hslash]
    rfl
  have hsteps : AreSteps (Query.segments (String.ofList selection)) := by
    rw [hsegments]
    exact fun step hstep => absurd hstep List.not_mem_nil
  have hstays := (absolutize_append_query_iff hname hbase (String.ofList selection)).2 hsteps
  rwa [String.append_assoc, String.append_assoc, ← hquery] at hstays

/-- A path with a query is cleaned as one path. The query stays behind the path, and the file that
is named stays the same, if and only if there is nothing but steps behind the first slash of the
query. So it is for the address of every part. -/
theorem absolutize_query :
    (∀ query, absolutize (path ++ "?" ++ query) base = clean (absolutize path base ++ "?" ++ query) ∧
      (absolutize (path ++ "?" ++ query) base = absolutize path base ++ "?" ++ query ↔
        AreSteps (Query.segments query)) ∧
      ('?' ∉ path.toList → '?' ∉ base.toList →
        (Query.split (absolutize (path ++ "?" ++ query) base) =
          (absolutize path base, some query) ↔ AreSteps (Query.segments query)))) ∧
    ∀ part : Part, absolutize (part.path path) base = part.path (absolutize path base) := by
  refine ⟨fun query => ⟨absolutize_append_query hname hbase query,
    absolutize_append_query_iff hname hbase query, fun hpath hdir => ?_⟩,
    absolutize_part hname hbase⟩
  -- the path is cut where the query was put behind it, since nothing in front is a question mark
  have howner : '?' ∉ (absolutize path base).toList := by
    intro hmem
    rcases mem_absolutize hmem with h | h | h | h
    · exact hpath h
    · exact hdir h
    · cases h
    · cases h
  rw [Query.split_eq_iff, Query.Splits, and_iff_left howner]
  exact absolutize_append_query_iff hname hbase query

end Query

/-- A query with a slash that stays, and one that takes back the file name. -/
theorem absolutize_query_climb :
    EndsInStep "./App.vue" ∧ isAbsolute "/src" ∧
    absolutize "./App.vue?from=a/b" "/src" = "/src/App.vue?from=a/b" ∧
    absolutize "./App.vue?from=a/../b" "/src" = "/src/b" ∧
    absolutize "./App.vue?from=a/../b" "/src" ≠ absolutize "./App.vue" "/src" ++ "?from=a/../b" := by
  have hname : EndsInStep "./App.vue" :=
    ⟨[['.']], "App.vue".toList, by decide, isStep_of_mem (c := 'A') (by decide) (by decide) (by decide)⟩
  have hbase : isAbsolute "/src" := by decide
  have hplain : absolutize "./App.vue" "/src" = "/src/App.vue" := by decide +kernel
  obtain ⟨hqueries, -⟩ := absolutize_query hname hbase
  have hsteps : AreSteps (Query.segments "from=a/b") := by
    intro step hstep
    obtain rfl : step = ['b'] := List.mem_singleton.1 hstep
    exact isStep_of_mem (c := 'b') (by decide) (by decide) (by decide)
  have hclimbs : ¬AreSteps (Query.segments "from=a/../b") := fun hsteps =>
    (hsteps up (by decide)).ne_up rfl
  have hstays := (hqueries "from=a/b").2.1.2 hsteps
  rw [hplain] at hstays
  exact ⟨hname, hbase, hstays, by decide +kernel, mt (hqueries "from=a/../b").2.1.1 hclimbs⟩

end Path

end SfcBundler
