import Mathlib.Data.List.DropRight
import SfcBundler.Proofs.Plugin.Parts

/-!
# What aliases reach

An alias is not kept from specifiers that name a place by its path. It stands for such a specifier
where its pattern is one too, or where it stands for nearly everything. Where no alias does, local
specifiers stay as they are, and the imports of an entry module lead to the parts of its component.

## Main definitions

* `IsLocal`: specifiers that name a place by its path
* `Alias.HasStem`, `Alias.Rewrites`: what an entry of `paths` makes of a specifier, read off its
  pattern and its target
* `Alias.IsCatchAll`: patterns that stand for everything, or for all that begins with dots
* `AliasSet.Configures`: the entries of a configuration's text
* `AliasSet.SparesLocal`: aliases that change local specifiers only as their entries say

## Main results

* `Alias.expand?_ofEntry`: an alias does what its entry says
* `AliasSet.mem_aliases_of_parse`: the aliases of a text are its entries
* `AliasSet.sparesLocal_of_parse`: the aliases of a text spare local specifiers
* `AliasSet.catchAll_redirects`: an entry that stands for everything does not
-/

namespace SfcBundler

theorem Text.dropEnd_eq_iff {mark : Char} {text front : List Char} :
    dropEnd mark text = front ↔
      front.getLast? ≠ some mark ∧ ∃ count, text = front ++ List.replicate count mark := by
  change text.rdropWhile (· == mark) = front ↔ _
  constructor
  · rintro rfl
    constructor
    · intro hlast
      have hne : text.rdropWhile (· == mark) ≠ [] := by
        intro hnil
        rw [hnil] at hlast
        cases hlast
      rw [List.getLast?_eq_some_getLast hne] at hlast
      exact List.rdropWhile_last_not _ text hne (by simp [Option.some.inj hlast])
    · -- what was dropped is a run of the mark
      have hrun : text.rtakeWhile (· == mark) =
          List.replicate (text.rtakeWhile (· == mark)).length mark :=
        List.eq_replicate_of_mem fun c hc => by simpa using List.mem_rtakeWhile_imp hc
      refine ⟨(text.rtakeWhile (· == mark)).length, ?_⟩
      rw [← hrun, List.rdropWhile_append_rtakeWhile]
  · rintro ⟨hlast, count, rfl⟩
    induction count with
    | zero =>
      rw [List.replicate_zero, List.append_nil, List.rdropWhile_eq_self_iff]
      intro hne hmark
      exact hlast (by rw [List.getLast?_eq_some_getLast hne, eq_of_beq hmark])
    | succ count ih =>
      rw [List.replicate_succ', ← List.append_assoc, List.rdropWhile_concat_pos _ _ _ (by simp), ih]

/-- A specifier that names a place by its path: from the directory that it is seen from, from the
directory above, or from the root. -/
inductive IsLocal : List Char → Prop
  | here (rest : List Char) : IsLocal ('.' :: '/' :: rest)
  | above (rest : List Char) : IsLocal ('.' :: '.' :: '/' :: rest)
  | root (rest : List Char) : IsLocal ('/' :: rest)

theorem IsLocal.append {text : List Char} (h : IsLocal text) (more : List Char) :
    IsLocal (text ++ more) := by
  cases h with
  | here rest => exact .here (rest ++ more)
  | above rest => exact .above (rest ++ more)
  | root rest => exact .root (rest ++ more)

/-- What a local specifier begins with is local as well, unless it is nothing but dots. -/
theorem IsLocal.of_append {stem rest : List Char} (h : IsLocal (stem ++ rest)) :
    IsLocal stem ∨ ∃ dots ≤ 2, stem = List.replicate dots '.' := by
  generalize htext : stem ++ rest = text at h
  -- the stem ends inside of the leading dots, or holds the slash behind them
  cases h with
  | here tail =>
    obtain ⟨rfl, -⟩ | ⟨more, rfl, htail⟩ := List.append_eq_cons_iff.1 htext
    · exact .inr ⟨0, by decide, rfl⟩
    obtain ⟨rfl, -⟩ | ⟨more, rfl, -⟩ := List.append_eq_cons_iff.1 htail.symm
    · exact .inr ⟨1, by decide, rfl⟩
    · exact .inl (.here more)
  | above tail =>
    obtain ⟨rfl, -⟩ | ⟨more, rfl, htail⟩ := List.append_eq_cons_iff.1 htext
    · exact .inr ⟨0, by decide, rfl⟩
    obtain ⟨rfl, -⟩ | ⟨more, rfl, hslash⟩ := List.append_eq_cons_iff.1 htail.symm
    · exact .inr ⟨1, by decide, rfl⟩
    obtain ⟨rfl, -⟩ | ⟨more, rfl, -⟩ := List.append_eq_cons_iff.1 hslash.symm
    · exact .inr ⟨2, by decide, rfl⟩
    · exact .inl (.above more)
  | root tail =>
    obtain ⟨rfl, -⟩ | ⟨more, rfl, -⟩ := List.append_eq_cons_iff.1 htext
    · exact .inr ⟨0, by decide, rfl⟩
    · exact .inl (.root more)

namespace Alias

/-- The stem of a text, and how many stars stand behind it. -/
structure HasStem (text : String) (stem : List Char) (stars : Nat) : Prop where
  toList_eq : text.toList = stem ++ List.replicate stars '*'
  bare : stem.getLast? ≠ some '*'

/-- What the entry `pattern: [target]` makes of a specifier. A pattern without a star at its end
stands for itself. Another stands for all that begins with its stem, which is exchanged for the stem
of the target's place. -/
inductive Rewrites (base pattern target : String) : String → String → Prop
  | whole : pattern.toList.getLast? ≠ some '*' →
    Rewrites base pattern target pattern (Path.absolutize target base)
  | below {stem goal : List Char} {stars more : Nat} (rest : List Char) :
    HasStem pattern stem (stars + 1) → HasStem (Path.absolutize target base) goal more →
    Rewrites base pattern target (String.ofList (stem ++ rest)) (String.ofList (goal ++ rest))

/-- A pattern that stands for everything, or for all that begins with a dot or two. -/
def IsCatchAll (pattern : String) : Prop := ∃ dots ≤ 2, ∃ stars,
  pattern.toList = List.replicate dots '.' ++ List.replicate (stars + 1) '*'

theorem exists_hasStem (text : String) : ∃ stem stars, HasStem text stem stars := by
  obtain ⟨hbare, stars, htext⟩ := Text.dropEnd_eq_iff.1 (Eq.refl (Text.dropEnd '*' text.toList))
  exact ⟨_, stars, htext, hbare⟩

namespace HasStem

variable {text : String} {stem other : List Char} {stars more : Nat}

theorem dropEnd_eq (h : HasStem text stem stars) : Text.dropEnd '*' text.toList = stem :=
  Text.dropEnd_eq_iff.2 ⟨h.bare, stars, h.toList_eq⟩

theorem unique (h : HasStem text stem stars) (hother : HasStem text other more) :
    stem = other ∧ stars = more := by
  obtain rfl : stem = other := h.dropEnd_eq.symm.trans hother.dropEnd_eq
  have htails := List.append_cancel_left (h.toList_eq.symm.trans hother.toList_eq)
  have hlengths := congrArg List.length htails
  rw [List.length_replicate, List.length_replicate] at hlengths
  exact ⟨rfl, hlengths⟩

/-- A text without a star at its end is its own stem. -/
theorem of_getLast? (h : text.toList.getLast? ≠ some '*') : HasStem text text.toList 0 :=
  ⟨by simp, h⟩

theorem getLast?_beq (h : HasStem text stem stars) :
    (text.toList.getLast? == some '*') = (stars != 0) := by
  rw [h.toList_eq]
  cases stars with
  | zero =>
    rw [List.replicate_zero, List.append_nil]
    exact beq_false_of_ne h.bare
  | succ stars =>
    rw [List.replicate_succ', ← List.append_assoc, List.getLast?_concat]
    rfl

/-- The alias of a pattern, by the stems of the pattern and of its target's place. -/
theorem ofEntry_eq {base pattern target : String} {goal : List Char}
    (h : HasStem pattern stem stars) (hgoal : HasStem (Path.absolutize target base) goal more) :
    ofEntry base pattern target =
      if stars = 0 then ⟨String.ofList stem, Path.absolutize target base, false⟩
      else ⟨String.ofList stem, String.ofList goal, true⟩ := by
  rw [ofEntry, h.getLast?_beq, unstarred, unstarred, h.dropEnd_eq, hgoal.dropEnd_eq]
  cases stars <;> rfl

end HasStem

theorem expand?_whole {pattern place specifier result : String} :
    expand? ⟨pattern, place, false⟩ specifier = some result ↔
      specifier = pattern ∧ result = place := by
  rw [expand?, if_neg Bool.false_ne_true]
  constructor
  · intro h
    split at h
    · exact ⟨‹_›, (Option.some.inj h).symm⟩
    · cases h
  · rintro ⟨rfl, rfl⟩
    rw [if_pos rfl]

theorem expand?_wildcard {stem goal : List Char} {specifier result : String} :
    expand? ⟨String.ofList stem, String.ofList goal, true⟩ specifier = some result ↔
      ∃ rest, specifier = String.ofList (stem ++ rest) ∧ result = String.ofList (goal ++ rest) := by
  rw [expand?, if_pos rfl, Option.map_eq_some_iff, String.toList_ofList]
  refine exists_congr fun rest => ?_
  have hspecifier : specifier.toList = stem ++ rest ↔ specifier = String.ofList (stem ++ rest) := by
    rw [← String.toList_inj, String.toList_ofList]
  rw [Text.isPrefixOf?_eq_some, ← String.ofList_append, hspecifier]
  exact and_congr_right' eq_comm

/-- An alias does what its entry says. -/
theorem expand?_ofEntry {base pattern target specifier result : String} :
    (ofEntry base pattern target).expand? specifier = some result ↔
      Rewrites base pattern target specifier result := by
  obtain ⟨stem, stars, hstem⟩ := exists_hasStem pattern
  obtain ⟨goal, more, hgoal⟩ := exists_hasStem (Path.absolutize target base)
  rw [hstem.ofEntry_eq hgoal]
  -- without a star at its end a pattern stands for itself alone, with one for all that goes on from
  -- its stem
  cases stars with
  | zero =>
    have hpattern : stem = pattern.toList := by simpa using hstem.toList_eq.symm
    subst hpattern
    rw [if_pos rfl, String.ofList_toList, expand?_whole]
    constructor
    · rintro ⟨rfl, rfl⟩
      exact .whole hstem.bare
    · intro h
      cases h with
      | whole => exact ⟨rfl, rfl⟩
      | below rest hother => exact absurd (hstem.unique hother).2 (by simp)
  | succ stars =>
    rw [if_neg (Nat.succ_ne_zero stars), expand?_wildcard]
    constructor
    · rintro ⟨rest, rfl, rfl⟩
      exact .below rest hstem hgoal
    · intro h
      cases h with
      | whole hwhole => exact absurd (hstem.unique (.of_getLast? hwhole)).2 (by simp)
      | below rest hother hplace =>
        obtain ⟨rfl, -⟩ := hstem.unique hother
        obtain ⟨rfl, -⟩ := hgoal.unique hplace
        exact ⟨rest, rfl, rfl⟩

/-- What stands for a local specifier is local itself, or stands for nearly everything. -/
theorem Rewrites.isLocal_or_isCatchAll {base pattern target specifier result : String}
    (h : Rewrites base pattern target specifier result) (hlocal : IsLocal specifier.toList) :
    IsLocal pattern.toList ∨ IsCatchAll pattern := by
  cases h with
  | whole => exact .inl hlocal
  | @below stem goal stars more rest hstem hgoal =>
    rw [String.toList_ofList] at hlocal
    rw [IsCatchAll, hstem.toList_eq]
    rcases hlocal.of_append with hstemLocal | ⟨dots, hdots, rfl⟩
    · exact .inl (hstemLocal.append _)
    · exact .inr ⟨dots, hdots, stars, rfl⟩

end Alias

theorem Json.eq_of_items? {value : Json} {items : List Json} (h : value.items? = some items) :
    value = .array items := by
  cases value <;> cases h
  rfl

theorem Json.eq_of_text? {value : Json} {text : String} (h : value.text? = some text) :
    value = .string text := by
  cases value <;> cases h
  rfl

namespace AliasSet

/-- An entry of `compilerOptions.paths` in a configuration's text. Its first target is a text. -/
def Configures (text pattern target : String) : Prop :=
  ∃ config paths others, Json.parseText (Json.stripComments text.toList) = .ok config ∧
    (config.field? "compilerOptions").bind (·.field? "paths") = some (.object paths) ∧
    (pattern, .array (.string target :: others)) ∈ paths

theorem mem_ofPaths {base : String} {paths : List (String × Json)} {entry : Alias} :
    entry ∈ ofPaths base paths ↔ ∃ pattern target others,
      (pattern, .array (.string target :: others)) ∈ paths ∧
        entry = .ofEntry base pattern target := by
  rw [ofPaths, List.mem_filterMap]
  constructor
  · rintro ⟨⟨pattern, targets⟩, hmem, hentry⟩
    simp only [Option.bind_eq_bind, Option.bind_eq_some_iff, Option.pure_def,
      Option.some.injEq] at hentry
    obtain ⟨items, hitems, first, hfirst, target, htarget, rfl⟩ := hentry
    obtain ⟨others, rfl⟩ := List.head?_eq_some_iff.1 hfirst
    obtain rfl := Json.eq_of_items? hitems
    obtain rfl := Json.eq_of_text? htarget
    exact ⟨pattern, target, others, hmem, rfl⟩
  · rintro ⟨pattern, target, others, hmem, rfl⟩
    exact ⟨_, hmem, rfl⟩

/-- The aliases of a text are its entries. -/
theorem mem_aliases_of_parse {text base : String} {set : AliasSet} (h : parse text base = .ok set)
    {entry : Alias} : entry ∈ set.aliases ↔
      ∃ pattern target, Configures text pattern target ∧
        entry = .ofEntry base pattern target := by
  rw [parse] at h
  cases hconfig : Json.parseText (Json.stripComments text.toList) with
  | error error =>
    rw [hconfig] at h
    cases h
  | ok config =>
    rw [hconfig] at h
    obtain rfl := Except.ok.inj h
    rw [ofConfig]
    constructor
    · intro hentry
      split at hentry
      · rename_i paths hpaths
        rw [List.mem_mergeSort, mem_ofPaths] at hentry
        obtain ⟨pattern, target, others, hmem, rfl⟩ := hentry
        exact ⟨pattern, target, ⟨config, paths, others, hconfig, hpaths, hmem⟩, rfl⟩
      · cases hentry
    · rintro ⟨pattern, target, ⟨config', paths, others, hconfig', hpaths, hmem⟩, rfl⟩
      obtain rfl := Except.ok.inj (hconfig.symm.trans hconfig')
      rw [hpaths]
      exact List.mem_mergeSort.2 (mem_ofPaths.2 ⟨pattern, target, others, hmem, rfl⟩)

/-- A specifier stays as it is, or becomes what an entry makes of it. -/
theorem apply_cases {text base : String} {set : AliasSet} (h : parse text base = .ok set)
    (specifier : String) :
    (set.apply specifier = specifier ∧ ∀ pattern target result, Configures text pattern target →
      ¬ Alias.Rewrites base pattern target specifier result) ∨
    ∃ pattern target, Configures text pattern target ∧
      Alias.Rewrites base pattern target specifier (set.apply specifier) := by
  rw [apply]
  cases hfound : set.aliases.findSome? (·.expand? specifier) with
  | none =>
    refine .inl ⟨rfl, fun pattern target result hconfigures hrewrites => ?_⟩
    have hentry := (mem_aliases_of_parse h).2 ⟨pattern, target, hconfigures, rfl⟩
    have hnone := List.findSome?_eq_none_iff.1 hfound _ hentry
    rw [Alias.expand?_ofEntry.2 hrewrites] at hnone
    cases hnone
  | some result =>
    obtain ⟨entry, hentry, hexpand⟩ := List.exists_of_findSome?_eq_some hfound
    obtain ⟨pattern, target, hconfigures, rfl⟩ := (mem_aliases_of_parse h).1 hentry
    exact .inr ⟨pattern, target, hconfigures, Alias.expand?_ofEntry.1 hexpand⟩

/-- An entry of a text stands for a specifier. -/
def Touches (text base specifier : String) : Prop := ∃ pattern target result,
  Configures text pattern target ∧ Alias.Rewrites base pattern target specifier result

/-- Aliases that change local specifiers only as the entries of a text say. -/
structure SparesLocal (set : AliasSet) (text base : String) : Prop where
  /-- A local specifier that no entry stands for stays as it is. -/
  kept : ∀ specifier, IsLocal specifier.toList → ¬ Touches text base specifier →
    set.apply specifier = specifier
  /-- One that an entry stands for becomes what some entry makes of it. -/
  rewritten : ∀ specifier, IsLocal specifier.toList → Touches text base specifier →
    ∃ pattern target, Configures text pattern target ∧
      Alias.Rewrites base pattern target specifier (set.apply specifier)
  /-- An entry that stands for a local specifier has a local pattern, or one that stands for nearly
  everything. -/
  reach : ∀ specifier pattern target result, IsLocal specifier.toList →
    Configures text pattern target → Alias.Rewrites base pattern target specifier result →
    IsLocal pattern.toList ∨ Alias.IsCatchAll pattern
  /-- Where these aliases are in force, an entry module's import of a part is local, and is not
  redirected unless an entry stands for it. It leads to the part of the component itself. -/
  parts : ∀ (site : Site) (pending : PendingModule) (module : OutputModule) (part : Part),
    site.aliases = set → Path.IsRooted pending.path.toList →
    ComponentFile.isFile pending.path.toList → pending.space = fileSpace →
    Walk.delivered? (site.outcome pending) = some module →
    ∀ args ∈ Walk.importsOf module, args.path = part.path pending.path →
      IsLocal args.path.toList ∧
      (¬ Touches text base args.path → site.place args = args.path ∧
        ('?' ∉ pending.path.toList →
          (∀ index, part.index? = some index → index < Part.indexBound) →
          ∃ data : ComponentData, data.owner = pending.path ∧
            module.data = some (.component data) ∧
            Walk.target? (site.resolved args) =
              some ⟨args.path, part.kind.space, some (.part data part)⟩))

end AliasSet

theorem Path.IsRooted.isLocal {text : List Char} (h : IsRooted text) : IsLocal text := by
  obtain ⟨segments, -, rfl⟩ := h
  exact .root _

/-- The aliases of a text spare local specifiers: they change none but those that an entry stands
for, and then as an entry says. So they do not redirect what an entry module imports. -/
theorem AliasSet.sparesLocal_of_parse {text base : String} {set : AliasSet}
    (h : parse text base = .ok set) : set.SparesLocal text base := by
  have hkept (specifier : String) (htouches : ¬ Touches text base specifier) :
      set.apply specifier = specifier := by
    rcases apply_cases h specifier with ⟨hsame, -⟩ | ⟨pattern, target, hconfigures, hrewrites⟩
    · exact hsame
    · exact absurd ⟨pattern, target, _, hconfigures, hrewrites⟩ htouches
  constructor
  · intro specifier _ htouches
    exact hkept specifier htouches
  · rintro specifier - ⟨pattern, target, result, hconfigures, hrewrites⟩
    rcases apply_cases h specifier with ⟨-, hnone⟩ | hsome
    · exact absurd hrewrites (hnone pattern target result hconfigures)
    · exact hsome
  · intro specifier pattern target result hlocal _ hrewrites
    exact hrewrites.isLocal_or_isCatchAll hlocal
  · rintro site pending module part rfl hrooted hfile hspace hmodule args hargs hpath
    -- an entry module imports its parts by rooted paths, which lie where they say
    have hrootedPath : Path.IsRooted args.path.toList := by
      rw [hpath]
      exact Part.isRooted_path hrooted hfile part
    refine ⟨hrootedPath.isLocal, fun htouches => ?_⟩
    have hplace : site.place args = args.path := by
      rw [Site.place, hkept args.path htouches, Path.absolutize_of_isRooted hrootedPath]
    refine ⟨hplace, fun hmark hindex => ?_⟩
    -- the import carries the component of the entry module
    obtain ⟨data, howner, hdata, -⟩ :=
      Site.exists_of_delivered_component ⟨hfile, hspace⟩ hmodule
    have hcarried : ComponentFile.carried? args.data = some data := by
      rw [Walk.data_of_mem_importsOf hargs, hdata]
      rfl
    rw [← howner] at hpath hfile hmark
    refine ⟨data, howner, hdata, ?_⟩
    rw [Site.target_of_place hpath hplace hcarried hfile hmark hindex, hpath]

namespace AliasSet

/-- A configuration with one entry. -/
def entryText (pattern target : String) : String :=
  "\x7b\"compilerOptions\": \x7b\"paths\": \x7b\"" ++ pattern ++ "\": [\"" ++ target ++
    "\"]\x7d\x7d\x7d"

theorem parse_eq_ok {text base : String} {set : AliasSet}
    (h : (parse text base).toOption = some set) : parse text base = .ok set := by
  cases hparse : parse text base with
  | error error =>
    rw [hparse] at h
    cases h
  | ok found =>
    rw [hparse] at h
    rw [Option.some.inj h]

/-- Aliases with a rooted pattern exchange the beginning of the paths that they stand for, and spare
the rest. -/
theorem sparesLocal_library : ∃ set, parse (entryText "/lib/*" "vendor/*") "/p" = .ok set ∧
    set.SparesLocal (entryText "/lib/*" "vendor/*") "/p" ∧
    set.apply "/lib/a.vue" = "/p/vendor/a.vue" ∧ set.apply "./lib/a.vue" = "./lib/a.vue" ∧
    set.apply "/p/a.vue?type=script" = "/p/a.vue?type=script" := by
  have hparse : parse (entryText "/lib/*" "vendor/*") "/p" =
      .ok ⟨[⟨"/lib/", "/p/vendor/", true⟩]⟩ :=
    parse_eq_ok (by decide +kernel)
  exact ⟨_, hparse, sparesLocal_of_parse hparse, by decide, by decide, by decide⟩

end AliasSet

/-- A site whose aliases send every rooted path elsewhere. -/
def Site.rerouted : Site :=
  { Site.gallery with options := { tsconfigText := some (AliasSet.entryText "/*" "x/*") } }

/-- An entry that stands for everything leaves no local specifier as it is, and one that stands for
all rooted paths takes the parts of a component away from it. -/
theorem AliasSet.catchAll_redirects :
    (∃ set, parse (entryText "*" "x/*") "/p" = .ok set ∧
      set.apply "./a.vue" = "/p/x/./a.vue" ∧ set.apply "../a.vue" = "/p/x/../a.vue" ∧
      set.apply "/p/a.vue?type=script" = "/p/x//p/a.vue?type=script") ∧
    ∃ result session, (Site.rerouted.build 2 ["a.vue"]).run Site.rerouted.opened =
        (some result, session) ∧
      result.modules.map (·.path) = ["/a.vue"] ∧
      result.errors.map (·.text) =
        ["no compiled component is available for /x/a.vue?type=script",
          "no compiled component is available for /x/a.vue?type=style&index=0",
          "no compiled component is available for /x/a.vue?type=template"] := by
  constructor
  · have hparse : parse (entryText "*" "x/*") "/p" = .ok ⟨[⟨"", "/p/x/", true⟩]⟩ :=
      parse_eq_ok (by decide +kernel)
    exact ⟨_, hparse, by decide, by decide, by decide⟩
  · have hrecord : (fun record : RunRecord => record.result?.map fun result =>
        (result.modules.map (·.path), result.errors.map (·.text)))
          ((Site.rerouted.record 2 ["a.vue"]).run Site.rerouted.opened).1 =
        some (["/a.vue"], ["no compiled component is available for /x/a.vue?type=script",
          "no compiled component is available for /x/a.vue?type=style&index=0",
          "no compiled component is available for /x/a.vue?type=template"]) := by
      decide +kernel
    obtain ⟨result, hresult, hshape⟩ := Option.map_eq_some_iff.1 hrecord
    obtain ⟨hpaths, herrors⟩ := Prod.mk.inj hshape
    exact ⟨result, _, Site.build_run_of_result? hresult, hpaths, herrors⟩

end SfcBundler
