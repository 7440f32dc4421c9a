import SfcBundler.Proofs.Json.Ordered
import SfcBundler.Proofs.Plugin.AliasReach

/-!
# Which alias is chosen

Of the entries that stand for a specifier the one with the longest stem is chosen; of two whose
stems are equally long, one with a wildcard rather than one without, and then the one that comes
first in the order of patterns. The entries stand in that order to begin with, so to sort them by
the rest and to take the first that fits is enough: sorting moves no entry past another that ranks
the same.

## Main definitions

* `Alias.Fits`: a pattern stands for a specifier
* `Alias.Outranks`: a pattern is chosen over another
* `AliasSet.entries`: the entries of a configuration that count
* `AliasSet.ChoosesBest`: aliases that choose the best of given entries

## Main results

* `mem_of_mergeSort_eq`: what comes first in a sorted list is best
* `AliasSet.pairwise_entries`: entries stand in the order of their patterns
* `AliasSet.choosesBest_of_parseText`: the aliases of a text choose the best of its entries
-/

namespace SfcBundler

/-- Nothing but what stands in front of an item comes before it, if it comes only once. -/
theorem not_sublist_pair {α : Type} {front back : List α} {chosen other : α}
    (hnodup : (front ++ chosen :: back).Nodup) (hfront : other ∉ front) (hne : other ≠ chosen) :
    ¬List.Sublist [other, chosen] (front ++ chosen :: back) := by
  intro hpair
  -- the pair is cut where the list is, so one of the two stands where it must not
  obtain ⟨one, two, hsplit, hone, htwo⟩ := List.sublist_append_iff.1 hpair
  rcases List.cons_eq_append_iff.1 hsplit with ⟨rfl, rfl⟩ | ⟨rest, rfl, -⟩
  · cases htwo with
    | cons _ hback =>
      have hrest := (List.nodup_append.1 hnodup).2.1
      exact (List.nodup_cons.1 hrest).1 (hback.subset (by simp))
    | cons_cons => exact hne rfl
  · exact hfront (hone.subset List.mem_cons_self)

/-- Of the items that have a property let `chosen` be the first one in the sorted list. None is
above it, and those on a level with it stand behind it in the list that was sorted. -/
theorem mem_of_mergeSort_eq {α : Type} {le : α → α → Bool} {before : α → α → Prop}
    {items front back : List α} {chosen : α} {property : α → Prop}
    (htrans : ∀ a b c, le a b → le b c → le a c) (htotal : ∀ a b, le a b || le b a)
    (hnodup : items.Nodup) (hbefore : items.Pairwise before)
    (hsorted : items.mergeSort le = front ++ chosen :: back)
    (hfront : ∀ item ∈ front, ¬property item) :
    chosen ∈ items ∧ ∀ other ∈ items, property other →
      other = chosen ∨ (le chosen other ∧ (le other chosen → before chosen other)) := by
  have hperm := List.mergeSort_perm items le
  have hpairwise := List.pairwise_mergeSort htrans htotal items
  have hmem : chosen ∈ items := hperm.mem_iff.1 (hsorted ▸ by simp)
  refine ⟨hmem, fun other hother hproperty => or_iff_not_imp_left.2 fun hne => ?_⟩
  have hnotFront : other ∉ front := fun hmemFront => hfront other hmemFront hproperty
  have hback : other ∈ back := by
    have hall : other ∈ front ++ chosen :: back := hsorted ▸ hperm.mem_iff.2 hother
    simpa [hnotFront, hne] using hall
  rw [hsorted, List.pairwise_append, List.pairwise_cons] at hpairwise
  refine ⟨hpairwise.2.1.1 other hback, fun hlevel => ?_⟩
  obtain ⟨earlier, later, rfl⟩ := List.append_of_mem hmem
  rw [List.pairwise_append, List.pairwise_cons] at hbefore
  rcases List.mem_append.1 hother with hearlier | hlater
  · -- an item on a level with the chosen one would still stand in front of it
    have hpair : List.Sublist [other, chosen] (earlier ++ chosen :: later) :=
      (List.singleton_sublist.2 hearlier).append (List.singleton_sublist.2 List.mem_cons_self)
    have hstable := List.pair_sublist_mergeSort htrans htotal hlevel hpair
    rw [hsorted] at hstable
    exact absurd hstable (not_sublist_pair (hsorted ▸ hperm.nodup_iff.2 hnodup) hnotFront hne)
  · exact hbefore.2.1.1 other ((List.mem_cons.1 hlater).resolve_left hne)

namespace Alias

/-- Whether a pattern ends in a star. -/
def isWildcard (pattern : String) : Bool := pattern.toList.getLast? == some '*'

/-- The number of bytes of a pattern without the stars at its end. -/
def stemSize (pattern : String) : Nat := (unstarred pattern).utf8ByteSize

/-- A pattern stands for a specifier: for all that begins with its stem if it ends in a star, and
else for itself alone. -/
def Fits (pattern specifier : String) : Prop :=
  if isWildcard pattern then (unstarred pattern).toList <+: specifier.toList
  else specifier = pattern

/-- A pattern is chosen over another. -/
inductive Outranks (one other : String) : Prop
  | longer : stemSize other < stemSize one → Outranks one other
  | wildcard : stemSize one = stemSize other → isWildcard one → isWildcard other = false →
    Outranks one other
  | earlier : stemSize one = stemSize other → isWildcard one = isWildcard other → one < other →
    Outranks one other

variable {base pattern target specifier : String}

theorem unstarred_of_not_isWildcard (h : ¬isWildcard pattern) : unstarred pattern = pattern := by
  have hstem : HasStem pattern pattern.toList 0 := .of_getLast? (by simpa [isWildcard] using h)
  rw [unstarred, hstem.dropEnd_eq, String.ofList_toList]

theorem expand?_isSome_iff :
    ((ofEntry base pattern target).expand? specifier).isSome ↔ Fits pattern specifier := by
  rw [Fits, expand?, ofEntry]
  dsimp only
  rw [← isWildcard]
  split
  · rw [Option.isSome_map, Option.isSome_iff_exists]
    exact exists_congr fun rest => Text.isPrefixOf?_eq_some.trans eq_comm
  · rename_i hexact
    rw [unstarred_of_not_isWildcard hexact]
    split
    · exact iff_of_true rfl ‹_›
    · exact iff_of_false Bool.false_ne_true ‹_›

theorem atLeast_iff {one other : Alias} : one.atLeast other ↔
    other.stem.utf8ByteSize < one.stem.utf8ByteSize ∨
      (other.stem.utf8ByteSize = one.stem.utf8ByteSize ∧ (other.wildcard → one.wildcard)) := by
  rw [atLeast]
  cases one.wildcard <;> cases other.wildcard <;> simp

theorem atLeast_trans (one two three : Alias) (h : one.atLeast two) (hnext : two.atLeast three) :
    one.atLeast three := by
  rw [atLeast_iff] at *
  rcases h with h | ⟨h, hwildcard⟩ <;> rcases hnext with hnext | ⟨hnext, hnextWildcard⟩
  · exact .inl (hnext.trans h)
  · exact .inl (hnext ▸ h)
  · exact .inl (h ▸ hnext)
  · exact .inr ⟨hnext.trans h, hwildcard ∘ hnextWildcard⟩

theorem atLeast_total (one two : Alias) : one.atLeast two || two.atLeast one := by
  rw [Bool.or_eq_true, atLeast_iff, atLeast_iff]
  rcases Nat.lt_trichotomy one.stem.utf8ByteSize two.stem.utf8ByteSize with h | h | h
  · exact .inr (.inl h)
  · cases hwildcard : one.wildcard with
    | true => exact .inl (.inr ⟨h.symm, fun _ => rfl⟩)
    | false => exact .inr (.inr ⟨h, nofun⟩)
  · exact .inl (.inl h)

end Alias

namespace AliasSet

/-- The pattern and the target of a field of `paths`: its value is an array with a text in front. -/
def pair? : String × Json → Option (String × String)
  | (pattern, .array (.string target :: _)) => some (pattern, target)
  | _ => none

/-- The entries of `compilerOptions.paths` that count, each a pattern with its target. -/
def entries (config : Json) : List (String × String) :=
  match (config.field? "compilerOptions").bind (·.field? "paths") with
  | some (.object paths) => paths.filterMap pair?
  | _ => []

/-- Aliases that are as many as given entries and choose the best of those that fit. -/
structure ChoosesBest (set : AliasSet) (base : String) (entries : List (String × String)) :
    Prop where
  length_eq : set.aliases.length = entries.length
  /-- A specifier that no entry fits stays as it is. -/
  kept : ∀ specifier, (∀ entry ∈ entries, ¬Alias.Fits entry.1 specifier) →
    set.apply specifier = specifier
  /-- One that some entry fits becomes what the best of them makes of it. -/
  chosen : ∀ specifier, (∃ entry ∈ entries, Alias.Fits entry.1 specifier) →
    ∃ best ∈ entries, Alias.Fits best.1 specifier ∧
      (∀ other ∈ entries, Alias.Fits other.1 specifier →
        other = best ∨ Alias.Outranks best.1 other.1) ∧
      Alias.Rewrites base best.1 best.2 specifier (set.apply specifier)

theorem eq_of_pair? {field : String × Json} {entry : String × String}
    (h : pair? field = some entry) : field.1 = entry.1 := by
  rw [pair?.eq_def] at h
  split at h
  · cases h
    rfl
  · cases h

/-- The entries of a configuration that was read stand in the order of their patterns, and no two of
them have the same. -/
theorem pairwise_entries {config : Json} (h : config.Ordered) :
    (entries config).Pairwise (·.1 < ·.1) := by
  rw [entries]
  split
  · rename_i paths hpaths
    obtain ⟨compilerOptions, houter, hinner⟩ := Option.bind_eq_some_iff.1 hpaths
    have hnames := ((h.of_field? houter).of_field? hinner).areOrdered.names
    refine List.pairwise_filterMap.2 (hnames.imp fun hlt one hone other hother => ?_)
    rwa [← eq_of_pair? hone, ← eq_of_pair? hother]
  · exact .nil

/-- The alias of an entry. -/
def ofPair (base : String) (entry : String × String) : Alias := .ofEntry base entry.1 entry.2

/-- Whether the alias of an entry is at least as specific as that of another. -/
def atLeast (base : String) (one other : String × String) : Bool :=
  (ofPair base one).atLeast (ofPair base other)

theorem ofPaths_eq (base : String) (paths : List (String × Json)) :
    ofPaths base paths = (paths.filterMap pair?).map (ofPair base) := by
  rw [ofPaths, List.map_filterMap]
  refine congrArg (List.filterMap · paths) (funext fun field => ?_)
  obtain ⟨pattern, targets⟩ := field
  cases targets with
  | array targets =>
    cases targets with
    | nil => rfl
    | cons first others => cases first <;> rfl
  | _ => rfl

/-- The aliases of a configuration are those of its entries, the most specific first. -/
theorem aliases_ofConfig (base : String) (config : Json) :
    (ofConfig base config).aliases =
      ((entries config).mergeSort (atLeast base)).map (ofPair base) := by
  rw [ofConfig, entries]
  generalize (config.field? "compilerOptions").bind (·.field? "paths") = paths?
  cases paths? with
  | none => simp
  | some value =>
    cases value with
    | object paths =>
      have hmap : ((paths.filterMap pair?).mergeSort (atLeast base)).map (ofPair base) =
          ((paths.filterMap pair?).map (ofPair base)).mergeSort Alias.atLeast :=
        List.map_mergeSort fun one _ other _ => rfl
      rw [hmap, ← ofPaths_eq]
    | _ => simp

theorem expand?_ofPair_eq_none_iff {base : String} {entry : String × String} {specifier : String} :
    (ofPair base entry).expand? specifier = none ↔ ¬Alias.Fits entry.1 specifier := by
  rw [← Option.not_isSome_iff_eq_none]
  exact not_congr Alias.expand?_isSome_iff

/-- A specifier becomes what the first entry makes of it, if any makes something of it. -/
theorem apply_ofConfig (base : String) (config : Json) (specifier : String) :
    (ofConfig base config).apply specifier =
      (((entries config).mergeSort (atLeast base)).findSome?
        fun entry => (ofPair base entry).expand? specifier).getD specifier := by
  rw [apply, aliases_ofConfig, List.findSome?_map]
  rfl

/-- An entry that is above another, or on a level with it and in front of it, outranks it. -/
theorem outranks_of_atLeast {base : String} {one other : String × String}
    (h : atLeast base one other) (hlevel : atLeast base other one → one.1 < other.1) :
    Alias.Outranks one.1 other.1 := by
  rcases Alias.atLeast_iff.1 h with hlonger | ⟨hsize, hwildcard⟩
  · exact .longer hlonger
  · replace hsize : Alias.stemSize other.1 = Alias.stemSize one.1 := hsize
    replace hwildcard : Alias.isWildcard other.1 → Alias.isWildcard one.1 := hwildcard
    by_cases hback : Alias.isWildcard one.1 → Alias.isWildcard other.1
    -- both end in a star or neither does, so they are on a level
    · have hfront := hlevel (Alias.atLeast_iff.2 (.inr ⟨hsize.symm, hback⟩))
      exact .earlier hsize.symm (Bool.eq_iff_iff.2 ⟨hback, hwildcard⟩) hfront
    · obtain ⟨hone, hother⟩ := Classical.not_imp.1 hback
      exact .wildcard hsize.symm hone (by simpa using hother)

/-- The first entry that fits, in the order of rank, is the best of those that do. -/
theorem isBest_of_mergeSort_eq {base : String} {config : Json} (h : config.Ordered)
    {front back : List (String × String)} {best : String × String} {specifier : String}
    (hsorted : (entries config).mergeSort (atLeast base) = front ++ best :: back)
    (hfront : ∀ entry ∈ front, ¬Alias.Fits entry.1 specifier) :
    best ∈ entries config ∧ ∀ other ∈ entries config, Alias.Fits other.1 specifier →
      other = best ∨ Alias.Outranks best.1 other.1 := by
  have hpairwise := pairwise_entries h
  -- no pattern comes twice, so no entry does
  have hnodup : (entries config).Nodup := hpairwise.imp fun hlt heq => by
    rw [heq] at hlt
    exact String.lt_irrefl _ hlt
  obtain ⟨hbest, hothers⟩ := mem_of_mergeSort_eq
    (fun one two three => Alias.atLeast_trans (ofPair base one) _ _)
    (fun one two => Alias.atLeast_total (ofPair base one) _) hnodup hpairwise hsorted hfront
  refine ⟨hbest, fun other hother hfit => ?_⟩
  exact (hothers other hother hfit).imp_right fun ⟨habove, hlevel⟩ =>
    outranks_of_atLeast habove hlevel

/-- The aliases of a configuration choose the best of its entries. -/
theorem choosesBest_ofConfig (base : String) {config : Json} (h : config.Ordered) :
    (ofConfig base config).ChoosesBest base (entries config) := by
  have hperm := List.mergeSort_perm (entries config) (atLeast base)
  constructor
  · rw [aliases_ofConfig, List.length_map, List.length_mergeSort]
  · intro specifier hnone
    -- sorting neither adds entries nor drops any
    have hexpand : ∀ entry ∈ (entries config).mergeSort (atLeast base),
        (ofPair base entry).expand? specifier = none := fun entry hentry =>
      expand?_ofPair_eq_none_iff.2 (hnone entry (hperm.mem_iff.1 hentry))
    rw [apply_ofConfig, List.findSome?_eq_none_iff.2 hexpand, Option.getD_none]
  · rintro specifier ⟨entry, hentry, hfit⟩
    rw [apply_ofConfig]
    cases hfound : ((entries config).mergeSort (atLeast base)).findSome?
        fun entry => (ofPair base entry).expand? specifier with
    | none =>
      -- an entry that fits is not passed over
      have hnone := List.findSome?_eq_none_iff.1 hfound entry (hperm.mem_iff.2 hentry)
      exact absurd hfit (expand?_ofPair_eq_none_iff.1 hnone)
    | some result =>
      obtain ⟨front, best, back, hsorted, hexpand, hfront⟩ := List.findSome?_eq_some_iff.1 hfound
      -- the first that fits in the order is the best of all that fit
      obtain ⟨hbest, hothers⟩ := isBest_of_mergeSort_eq h hsorted fun other hother =>
        expand?_ofPair_eq_none_iff.1 (hfront other hother)
      have hfits : Alias.Fits best.1 specifier :=
        Alias.expand?_isSome_iff.1 (Option.isSome_of_eq_some hexpand)
      exact ⟨best, hbest, hfits, hothers, Alias.expand?_ofEntry.1 hexpand⟩

/-- The aliases of a text that can be read choose the best of its entries, which stand in the order
of their patterns. Whatever else stands in the text, it is read without an error. -/
theorem choosesBest_of_parseText {text : String} {config : Json}
    (h : Json.parseText (Json.stripComments text.toList) = .ok config) (base : String) :
    ∃ set, parse text base = .ok set ∧ (entries config).Pairwise (·.1 < ·.1) ∧
      set.ChoosesBest base (entries config) := by
  have hordered := Json.ordered_of_parseText h
  refine ⟨ofConfig base config, ?_, pairwise_entries hordered, choosesBest_ofConfig base hordered⟩
  rw [parse, h]

/-- A configuration whose patterns stand for the same specifiers, with values that count for
nothing. -/
def crossedText : String :=
  "\x7b\"compilerOptions\": \x7b\"paths\": \x7b\"@/ab*\": \"none\", \"@/a**\": [\"y/*\"], " ++
    "\"@/a\": [\"exact\"], \"@/abc\": [7, \"none\"], \"@/*\": [\"src/*\"], " ++
    "\"@/a*\": [\"x/*\", \"none\"]\x7d\x7d\x7d"

/-- What counts of the configuration, and that its aliases choose the best of it. -/
theorem choosesBest_crossed : ∃ config set,
    Json.parseText (Json.stripComments crossedText.toList) = .ok config ∧
    entries config = [("@/*", "src/*"), ("@/a", "exact"), ("@/a*", "x/*"), ("@/a**", "y/*")] ∧
    parse crossedText "/p" = .ok set ∧ set.ChoosesBest "/p" (entries config) := by
  have hentries : (Json.parseText (Json.stripComments crossedText.toList)).toOption.map entries =
      some [("@/*", "src/*"), ("@/a", "exact"), ("@/a*", "x/*"), ("@/a**", "y/*")] := by
    decide +kernel
  cases hread : Json.parseText (Json.stripComments crossedText.toList) with
  | error error =>
    rw [hread] at hentries
    cases hentries
  | ok config =>
    obtain ⟨set, hparse, -, hbest⟩ := choosesBest_of_parseText hread "/p"
    rw [hread] at hentries
    exact ⟨config, set, rfl, Option.some.inj hentries, hparse, hbest⟩

end AliasSet

end SfcBundler
