import SfcBundler.Proofs.Path.Placed
import SfcBundler.Proofs.Plugin.AliasReach

/-!
# Where the targets of aliases lead

The target of an alias is cleaned with its star, the star is cut off, and what is left of a
specifier is put behind it. So the last segment of the target may be a piece of one or empty, and
what comes behind may lengthen it, make a parent step of it, or climb out of it. Nothing is lost by
cleaning the target before: segments are taken one by one, and with the star behind it the last one
stays as it is written.

## Main definitions

* `Path.cleanStem`: the stem of a text that is cleaned with a star at its end
* `AliasSet.selected?`: the alias that is in force for a specifier

## Main results

* `Path.normalize_cleanStem_append`: a text may be cleaned with a star before it goes on
* `AliasSet.apply_eq`: a specifier becomes what the alias in force makes of it
* `AliasSet.absolutize_apply`: to exchange the beginning of a specifier and to clean it commute
-/

namespace SfcBundler

namespace Path

variable {text front back last : List Char} {steps : List (List Char)}

theorem getLast?_append_slash {c : Char} (hc : c ≠ '/') :
    (front ++ '/' :: back).getLast? = some c ↔ back.getLast? = some c := by
  rw [List.getLast?_append_of_ne_nil _ (List.cons_ne_nil _ _), List.getLast?_cons]
  cases back.getLast? <;> simp [hc.symm]

theorem areSteps_normalize (h : isAbsoluteText (front ++ '/' :: back)) :
    AreSteps (normalize front).segments := by
  rcases eq_or_ne front [] with rfl | hne
  · exact fun step hstep => absurd hstep List.not_mem_nil
  · rw [isAbsoluteText_append hne, ← String.toList_ofList (l := front)] at h
    have hsteps := areSteps_stepsTo h
    rwa [stepsTo, String.toList_ofList] at hsteps

theorem segments_normalize_trail (h : AreSteps steps) :
    (normalize (trail steps)).segments = steps := by
  rcases eq_or_ne steps [] with rfl | hne
  · rfl
  · rw [← slash_join_eq_trail hne, normalize_of_isStep h]

theorem isAbsoluteText_trail_append (steps : List (List Char)) (back : List Char) :
    isAbsoluteText (trail steps ++ '/' :: back) := by
  cases steps <;> rfl

/-- What stands before a slash may be cleaned first. -/
theorem normalize_trail_append (h : isAbsoluteText (front ++ '/' :: back)) :
    normalize (trail (normalize front).segments ++ '/' :: back) =
      normalize (front ++ '/' :: back) := by
  rw [normalize_append_slash (isAbsoluteText_trail_append _ _), normalize_append_slash h,
    segments_normalize_trail (areSteps_normalize h)]

/-- The stem of a text that is cleaned with a star at its end. -/
def cleanStem (text : List Char) : List Char :=
  Text.dropEnd '*' (normalize (text ++ ['*'])).toText

/-- With a star at its end the last segment is a step, so it stays as it is when the text is
cleaned. -/
theorem cleanStem_eq (h : isAbsoluteText (front ++ '/' :: last)) (hslash : '/' ∉ last)
    (hbare : last.getLast? ≠ some '*') :
    cleanStem (front ++ '/' :: last) = trail (normalize front).segments ++ '/' :: last := by
  have hboth : '/' ∉ last ++ ['*'] := by simp [hslash]
  -- an empty segment or one of dots would not be a step without the star
  have hsteps : ∀ step ∈ [last ++ ['*']], IsStep step := by
    intro step hmem
    rw [List.mem_singleton.1 hmem]
    exact isStep_of_mem (c := '*') (by simp) (by decide) hboth
  have htext : (normalize (front ++ '/' :: (last ++ ['*']))).toText =
      trail (normalize front).segments ++ '/' :: last ++ ['*'] := by
    rw [normalize_append_slash (isAbsoluteText_append_slash front last _ ▸ h),
      Text.fields_of_notMem hboth, foldl_push_of_isStep true hsteps, List.reverse_append,
      List.reverse_reverse, List.reverse_reverse, Normal.toText, if_pos rfl,
      slash_join_eq_trail (by simp), trail_append]
    simp [trail]
  rw [cleanStem, List.append_assoc, List.cons_append]
  refine Text.dropEnd_eq_iff.2 ⟨?_, 1, htext⟩
  rwa [ne_eq, getLast?_append_slash (by decide)]

/-- A text is cut at its last slash, and so is the stem of it that is cleaned. -/
theorem exists_cleanStem (h : isAbsoluteText text) (hbare : text.getLast? ≠ some '*') :
    ∃ front last, text = front ++ '/' :: last ∧
      cleanStem text = trail (normalize front).segments ++ '/' :: last := by
  have hmem : '/' ∈ text.reverse :=
    List.mem_reverse.2 (List.mem_of_head? (by simpa [isAbsoluteText] using h))
  -- the first slash from behind is the last one
  obtain ⟨last, front, hreverse, hslash⟩ := List.eq_append_cons_of_mem hmem
  obtain rfl : text = front.reverse ++ '/' :: last.reverse := by
    rw [← List.reverse_reverse text, hreverse]
    simp
  rw [ne_eq, getLast?_append_slash (by decide)] at hbare
  exact ⟨_, _, rfl, cleanStem_eq h (by simpa using hslash) hbare⟩

theorem isAbsoluteText_cleanStem (h : isAbsoluteText text) (hbare : text.getLast? ≠ some '*') :
    isAbsoluteText (cleanStem text) := by
  obtain ⟨front, last, -, hstem⟩ := exists_cleanStem h hbare
  rw [hstem]
  exact isAbsoluteText_trail_append _ _

/-- Whatever comes behind, the text may be cleaned before. -/
theorem normalize_cleanStem_append (h : isAbsoluteText text) (hbare : text.getLast? ≠ some '*')
    (more : List Char) : normalize (cleanStem text ++ more) = normalize (text ++ more) := by
  obtain ⟨front, last, rfl, hstem⟩ := exists_cleanStem h hbare
  rw [hstem, List.append_assoc, List.append_assoc, List.cons_append]
  exact normalize_trail_append (isAbsoluteText_append_slash front last _ ▸ h)

end Path

namespace Alias

variable {base stem goal : String}

/-- The text of a target below a directory. -/
def written (base goal : String) : String :=
  if Path.isAbsolute goal then goal else base ++ "/" ++ goal

theorem isAbsoluteText_written (hbase : Path.isAbsolute base) (goal : String) :
    Path.isAbsoluteText (written base goal).toList := by
  rw [written]
  split
  · assumption
  · rw [String.toList_append, String.toList_append, List.append_assoc]
    exact Path.isAbsoluteText_append (Path.ne_nil_of_isAbsoluteText hbase) _ ▸ hbase

theorem written_bare (base : String) (hgoal : goal.toList.getLast? ≠ some '*') :
    (written base goal).toList.getLast? ≠ some '*' := by
  rw [written]
  split
  · exact hgoal
  · have htext : (base ++ "/" ++ goal).toList = base.toList ++ '/' :: goal.toList := by simp
    rwa [htext, ne_eq, Path.getLast?_append_slash (by decide)]

/-- A target is cleaned with its star. -/
theorem absolutize_star (hbase : Path.isAbsolute base) (goal : String) :
    (Path.absolutize (goal ++ "*") base).toList =
      (Path.normalize ((written base goal).toList ++ ['*'])).toText := by
  have hstar : Path.isAbsoluteText (goal.toList ++ ['*']) = Path.isAbsolute goal := by
    rw [Path.isAbsolute]
    cases goal.toList <;> rfl
  rw [Path.absolutize, Path.clean, Path.join, String.toList_ofList, String.toList_ofList,
    String.toList_append, written]
  change (Path.normalize (Path.joinText _ (goal.toList ++ ['*']))).toText = _
  split
  · rename_i habsolute
    rw [Path.joinText_of_isAbsoluteText _ (hstar.trans habsolute)]
  · rename_i hrelative
    rw [Path.normalize_joinText (Path.ne_nil_of_isAbsoluteText hbase)
      (hstar.trans (by simpa using hrelative))]
    simp

/-- The alias of a pattern and a target with one star each. -/
theorem expand?_ofEntry_star (hbase : Path.isAbsolute base)
    (hstem : stem.toList.getLast? ≠ some '*') (rest : String) :
    (ofEntry base (stem ++ "*") (goal ++ "*")).expand? (stem ++ rest) =
      some (String.ofList (Path.cleanStem (written base goal).toList ++ rest.toList)) := by
  have hpattern : HasStem (stem ++ "*") stem.toList 1 := ⟨by simp, hstem⟩
  obtain ⟨place, stars, hplace⟩ := exists_hasStem (Path.absolutize (goal ++ "*") base)
  have hclean : place = Path.cleanStem (written base goal).toList := by
    rw [← hplace.dropEnd_eq, absolutize_star hbase, Path.cleanStem]
  rw [hpattern.ofEntry_eq hplace, if_neg Nat.one_ne_zero, hclean]
  exact expand?_wildcard.2 ⟨rest.toList, by simp, rfl⟩

end Alias

namespace AliasSet

/-- The alias that is in force for a specifier: the first that stands for it. -/
def selected? (set : AliasSet) (specifier : String) : Option Alias :=
  set.aliases.find? fun entry => (entry.expand? specifier).isSome

/-- A specifier becomes what the alias in force makes of it; without one it stays as it is. -/
theorem apply_eq (set : AliasSet) (specifier : String) :
    set.apply specifier =
      ((set.selected? specifier).bind (·.expand? specifier)).getD specifier := by
  rw [apply, selected?]
  congr 1
  -- to look for the first result is to look for the first alias that has one
  induction set.aliases with
  | nil => rfl
  | cons entry rest ih =>
    rw [List.findSome?_cons, List.find?_cons]
    cases hexpand : entry.expand? specifier with
    | none => exact ih
    | some result => exact hexpand.symm

/-- To exchange the beginning of a specifier and to clean what comes of it commute: where an alias
with a star on either side is in force, it is the same whether its target is cleaned before or only
with the rest of the specifier behind it. -/
theorem absolutize_apply {set : AliasSet} {base stem goal : String} (hbase : Path.isAbsolute base)
    (hstem : stem.toList.getLast? ≠ some '*') (hgoal : goal.toList.getLast? ≠ some '*')
    {rest : String}
    (h : set.selected? (stem ++ rest) = some (.ofEntry base (stem ++ "*") (goal ++ "*")))
    (dir : String) :
    Path.absolutize (set.apply (stem ++ rest)) dir =
      if Path.isAbsolute goal then Path.clean (goal ++ rest)
      else Path.clean (base ++ "/" ++ goal ++ rest) := by
  have happly : set.apply (stem ++ rest) =
      String.ofList (Path.cleanStem (Alias.written base goal).toList ++ rest.toList) := by
    rw [apply_eq, h, Option.bind_some, Alias.expand?_ofEntry_star hbase hstem, Option.getD_some]
  -- what the alias makes of the specifier is absolute, so the directory does not count
  have hwritten := Alias.isAbsoluteText_written hbase goal
  have hbare := Alias.written_bare base hgoal
  have hstem := Path.isAbsoluteText_cleanStem hwritten hbare
  have habsolute : Path.isAbsolute (set.apply (stem ++ rest)) := by
    rw [happly, Path.isAbsolute, String.toList_ofList,
      Path.isAbsoluteText_append (Path.ne_nil_of_isAbsoluteText hstem)]
    exact hstem
  have hclean : Path.clean (set.apply (stem ++ rest)) =
      Path.clean (Alias.written base goal ++ rest) := by
    rw [happly, Path.clean, Path.clean, String.toList_ofList, String.toList_append,
      Path.normalize_cleanStem_append hwritten hbare]
  rw [Path.absolutize_of_isAbsolute habsolute, hclean, Alias.written, apply_ite (· ++ rest),
    apply_ite Path.clean]

/-- A target whose last segment becomes a parent step. -/
theorem absolutize_apply_parent :
    ∃ set, parse (entryText "@/*" "lib/src/.*") "/p/" = .ok set ∧
      set.selected? "@/./a//b.vue?type=script" = some (.ofEntry "/p/" "@/*" "lib/src/.*") ∧
      set.apply "@/./a//b.vue?type=script" = "/p/lib/src/../a//b.vue?type=script" ∧
      Path.absolutize (set.apply "@/./a//b.vue?type=script") "/q" =
        Path.clean "/p//lib/src/../a//b.vue?type=script" ∧
      Path.clean "/p//lib/src/../a//b.vue?type=script" = "/p/lib/a/b.vue?type=script" := by
  have hparse : parse (entryText "@/*" "lib/src/.*") "/p/" =
      .ok ⟨[⟨"@/", "/p/lib/src/.", true⟩]⟩ :=
    parse_eq_ok (by decide +kernel)
  have hselected : (⟨[⟨"@/", "/p/lib/src/.", true⟩]⟩ : AliasSet).selected?
      ("@/" ++ "./a//b.vue?type=script") =
        some (.ofEntry "/p/" ("@/" ++ "*") ("lib/src/." ++ "*")) := by
    decide +kernel
  exact ⟨_, hparse, hselected, by decide +kernel,
    absolutize_apply (by decide) (by decide) (by decide) hselected "/q", by decide +kernel⟩

end AliasSet

end SfcBundler
