import Mathlib.Algebra.Group.Nat.Defs
import SfcBundler.Proofs.Component.PartAddress

/-!
# What an address says

An address is an owner and a query, and the first parameter with a key decides what the query says
of it. To write the address of a part and to read it undo each other, as far as an owner can be told
from a query; an address says nothing of a part, or it is refused, for stated reasons only.

## Main definitions

* `Text.Spells`: a text that spells a number
* `Query.Lists`, `Query.First`: the parameters of a query, and the first with a key
* `Query.Splits`: a path cut at its first question mark
* `Part.Refuses`, `Part.Selects`: what a query says of a part

## Main results

* `Text.readUnsigned?_eq_some_iff`: the texts that are read as a number
* `Query.param?_eq_some_iff`: the value of a key in a query
* `Part.ofQuery_eq_iff`: a query selects what it says
* `Part.parse_exact`: addresses are written and read in one way
-/

namespace SfcBundler

namespace Text

/-- A text that spells a number below a bound: decimal digits, perhaps with a plus sign in front. -/
def Spells (bound : Nat) (text : String) (value : Nat) : Prop :=
  ∃ digits, (text.toList = digits ∨ text.toList = '+' :: digits) ∧ digits ≠ [] ∧
    (∀ c ∈ digits, c.isDigit) ∧ Nat.ofDigitChars 10 digits 0 = value ∧ value < bound

/-- A text without a plus sign in front. -/
def unsigned : List Char → List Char
  | '+' :: rest => rest
  | all => all

theorem eq_unsigned_or (text : List Char) : text = unsigned text ∨ text = '+' :: unsigned text := by
  rw [unsigned.eq_def]
  split
  · exact .inr rfl
  · exact .inl rfl

/-- A digit is no sign, so it is clear where the digits of a number begin. -/
theorem unsigned_eq {text digits : List Char} (htext : text = digits ∨ text = '+' :: digits)
    (hdigits : ∀ c ∈ digits, c.isDigit) : unsigned text = digits := by
  rcases htext with rfl | rfl
  · rw [unsigned.eq_def]
    split
    · exact absurd (hdigits '+' List.mem_cons_self) (by decide)
    · rfl
  · rfl

theorem readUnsigned?_eq (bound : Nat) (text : String) :
    readUnsigned? bound text =
      if unsigned text.toList ≠ [] ∧ (unsigned text.toList).all Char.isDigit ∧
          Nat.ofDigitChars 10 (unsigned text.toList) 0 < bound then
        some (Nat.ofDigitChars 10 (unsigned text.toList) 0) else none := by
  change (if (unsigned text.toList).isEmpty || !(unsigned text.toList).all Char.isDigit then none
    else if (unsigned text.toList).foldl (fun value c => value * 10 + (c.toNat - '0'.toNat)) 0 < bound
      then some ((unsigned text.toList).foldl (fun value c => value * 10 + (c.toNat - '0'.toNat)) 0)
      else none) = _
  rw [foldl_digits]
  simp only [ne_eq, ← List.isEmpty_iff]
  cases (unsigned text.toList).isEmpty <;> cases (unsigned text.toList).all Char.isDigit <;> simp

/-- A text is read as the number that it spells. -/
theorem readUnsigned?_eq_some_iff {bound value : Nat} {text : String} :
    readUnsigned? bound text = some value ↔ Spells bound text value := by
  rw [readUnsigned?_eq, Option.ite_none_right_eq_some, Option.some.injEq, List.all_eq_true]
  constructor
  · rintro ⟨⟨hne, hall, hbound⟩, rfl⟩
    exact ⟨unsigned text.toList, eq_unsigned_or text.toList, hne, hall, rfl, hbound⟩
  · rintro ⟨digits, htext, hne, hall, rfl, hbound⟩
    rw [unsigned_eq htext hall]
    exact ⟨⟨hne, hall, hbound⟩, rfl⟩

end Text

namespace Query

/-- The parameters that a query lists between its ampersands. -/
structure Lists (query : String) (params : List (List Char)) : Prop where
  text : Text.join ['&'] params = query.toList
  noMark : ∀ param ∈ params, '&' ∉ param
  ne_nil : params ≠ []

/-- A parameter with a key: the key alone, which has the empty value, or with a value behind an
equals sign. -/
def IsParam (key value param : List Char) : Prop :=
  (param = key ∧ value = []) ∨ param = key ++ '=' :: value

/-- The first parameter with a key has the value. -/
def First (query key value : String) : Prop :=
  ∃ front param back, Lists query (front ++ param :: back) ∧
    IsParam key.toList value.toList param ∧
      ∀ other ∈ front, ∀ found, ¬IsParam key.toList found other

/-- A path with a query behind its first question mark. -/
def Splits (path owner query : String) : Prop :=
  path = owner ++ "?" ++ query ∧ '?' ∉ owner.toList

variable {path owner query key value : String}

theorem lists_iff {params : List (List Char)} :
    Lists query params ↔ Text.fields '&' query.toList = params := by
  constructor
  · intro h
    rw [← h.text, Text.fields_join h.noMark h.ne_nil]
  · rintro rfl
    exact ⟨Text.join_fields '&' _, fun _ => Text.notMem_of_mem_fields, Text.fields_ne_nil '&' _⟩

theorem pair_eq_iff {key value param : List Char} (hkey : '=' ∉ key) :
    pair param = (key, value) ↔ IsParam key value param := by
  rw [pair, IsParam]
  cases hcut : Text.cut '=' param with
  | none =>
    have hmark := Text.cut_eq_none.1 hcut
    rw [Option.getD_none, Prod.mk.injEq, eq_comm (a := []), or_iff_left]
    rintro rfl
    simp at hmark
  | some halves =>
    obtain ⟨before, after⟩ := halves
    obtain ⟨rfl, hbefore⟩ := Text.cut_eq_some.1 hcut
    rw [Option.getD_some, Prod.mk.injEq, or_iff_right]
    · constructor
      · rintro ⟨rfl, rfl⟩
        rfl
      · intro heq
        rw [heq, Text.cut_append hkey] at hcut
        exact Prod.mk.inj (Option.some.inj hcut.symm)
    -- the key alone holds no equals sign
    · rintro ⟨rfl, -⟩
      simp at hkey

/-- What is looked up in a query is the value of the first parameter with the key. -/
theorem param?_eq_some_iff (hkey : '=' ∉ key.toList) :
    param? query key = some value ↔ First query key value := by
  -- what a look-up passes over is what has another key
  have hnot (param : List Char) : (key.toList != (pair param).1) = true ↔
      ∀ found, ¬IsParam key.toList found param := by
    rw [bne_iff_ne]
    constructor
    · intro hne found hparam
      rw [← pair_eq_iff hkey] at hparam
      exact hne (congrArg Prod.fst hparam).symm
    · intro h heq
      exact h (pair param).2 ((pair_eq_iff hkey).1 (Prod.ext heq.symm rfl))
  rw [param?, Option.map_eq_some_iff]
  constructor
  · rintro ⟨found, hfound, rfl⟩
    obtain ⟨before, after, hsplit, hbefore⟩ := List.lookup_eq_some_iff.1 hfound
    obtain ⟨front, rest, hfields, rfl, hrest⟩ := List.map_eq_append_iff.1 hsplit
    obtain ⟨param, back, rfl, hparam, rfl⟩ := List.map_eq_cons_iff.1 hrest
    refine ⟨front, param, back, lists_iff.2 hfields, ?_, fun other hother => ?_⟩
    · rw [String.toList_ofList]
      exact (pair_eq_iff hkey).1 hparam
    · exact (hnot other).1 (hbefore _ (List.mem_map_of_mem hother))
  · rintro ⟨front, param, back, hlists, hparam, hfront⟩
    refine ⟨value.toList, ?_, String.ofList_toList⟩
    rw [lists_iff.1 hlists, List.map_append, List.map_cons, (pair_eq_iff hkey).2 hparam,
      List.lookup_eq_some_iff]
    refine ⟨_, _, rfl, fun entry hentry => ?_⟩
    obtain ⟨other, hother, rfl⟩ := List.mem_map.1 hentry
    exact (hnot other).2 (hfront other hother)

theorem param?_eq_none_iff (hkey : '=' ∉ key.toList) :
    param? query key = none ↔ ∀ value, ¬First query key value := by
  rw [Option.eq_none_iff_forall_ne_some]
  exact forall_congr' fun value => not_congr (param?_eq_some_iff hkey)

theorem split_of_splits (h : Splits path owner query) : split path = (owner, some query) := by
  obtain ⟨rfl, howner⟩ := h
  have htext : (owner ++ "?" ++ query).toList = owner.toList ++ '?' :: query.toList := by simp
  rw [split, htext, Text.cut_append howner]
  simp only [String.ofList_toList]

theorem split_of_notMem (h : '?' ∉ path.toList) : split path = (path, none) := by
  rw [split, Text.cut_eq_none.2 h]

/-- A path has no query, or it is cut at the first question mark. -/
theorem notMem_or_splits (path : String) :
    '?' ∉ path.toList ∨ ∃ owner query, Splits path owner query := by
  cases hcut : Text.cut '?' path.toList with
  | none => exact .inl (Text.cut_eq_none.1 hcut)
  | some halves =>
    obtain ⟨hpath, hbefore⟩ := Text.cut_eq_some.1 hcut
    refine .inr ⟨String.ofList halves.1, String.ofList halves.2, ?_, by simpa using hbefore⟩
    rw [← String.toList_inj, hpath]
    simp

end Query

namespace Part

open Query

/-- Why a query that names a kind of part selects none. -/
inductive Refuses (query : String) : PartError → Prop
  /-- There is no kind with the name. -/
  | unknownKind {name : String} (hname : First query "type" name) (hne : name ≠ "")
    (hkind : ∀ kind : PartKind, name ≠ kind.name) : Refuses query (.unknownKind name)
  /-- It is not said which style block is meant. -/
  | indexMissing (hname : First query "type" "style")
    (hindex : ∀ text, ¬First query "index" text) : Refuses query .indexMissing
  /-- Style blocks are counted with numbers below 2 to the power of 64. -/
  | badIndex {text : String} (hname : First query "type" "style")
    (hindex : First query "index" text)
    (htext : ∀ value, ¬Text.Spells (2 ^ 64) text value) : Refuses query (.badIndex text)

/-- What a query says of a part. -/
inductive Selects (query : String) : Except PartError (Option Part) → Prop
  | nothing (hname : ∀ name, First query "type" name → name = "") : Selects query (.ok none)
  | script (hname : First query "type" "script") : Selects query (.ok (some .script))
  | template (hname : First query "type" "template") : Selects query (.ok (some .template))
  | style {text : String} {index : Nat} (hname : First query "type" "style")
    (hindex : First query "index" text) (htext : Text.Spells (2 ^ 64) text index) :
    Selects query (.ok (some (.style index)))
  | refused {error : PartError} (h : Refuses query error) : Selects query (.error error)

variable {query : String} {outcome : Except PartError (Option Part)}

theorem param?_type_iff {name : String} :
    param? query "type" = some name ↔ First query "type" name := param?_eq_some_iff (by decide)

theorem param?_index_iff {text : String} :
    param? query "index" = some text ↔ First query "index" text := param?_eq_some_iff (by decide)

theorem ofName?_eq_none_iff {name : String} :
    PartKind.ofName? name = none ↔ ∀ kind : PartKind, name ≠ kind.name := by
  constructor
  · rintro h kind rfl
    rw [PartKind.ofName?_name] at h
    cases h
  · intro h
    rw [PartKind.ofName?.eq_def]
    split
    · exact absurd rfl (h .script)
    · exact absurd rfl (h .template)
    · exact absurd rfl (h .style)
    · rfl

theorem eq_name_of_ofName? {name : String} {kind : PartKind}
    (h : PartKind.ofName? name = some kind) : name = kind.name := by
  by_contra hne
  rw [PartKind.ofName?.eq_def] at h
  split at h <;> first | exact hne (Option.some.inj h ▸ rfl) | cases h

/-- The index of a style block is what its text spells. -/
theorem selects_style (hname : First query "type" "style") :
    Selects query (match param? query "index" with
      | none => .error .indexMissing
      | some text =>
        match Text.readUnsigned? indexBound text with
        | some index => .ok (some (.style index))
        | none => .error (.badIndex text)) := by
  cases hindex : param? query "index" with
  | none => exact .refused (.indexMissing hname ((param?_eq_none_iff (by decide)).1 hindex))
  | some text =>
    rw [param?_index_iff] at hindex
    dsimp only
    cases hread : Text.readUnsigned? indexBound text with
    | some index => exact .style hname hindex (Text.readUnsigned?_eq_some_iff.1 hread)
    | none =>
      refine .refused (.badIndex hname hindex fun value hvalue => ?_)
      cases hread.symm.trans (Text.readUnsigned?_eq_some_iff.2 hvalue)

/-- A query selects what it says. -/
theorem selects_ofQuery (query : String) : Selects query (ofQuery query) := by
  rw [ofQuery]
  cases hname : param? query "type" with
  | none =>
    refine .nothing fun name hfirst => ?_
    rw [← param?_type_iff, hname] at hfirst
    cases hfirst
  | some name =>
    dsimp only
    split
    · rename_i hempty
      refine .nothing fun other hfirst => ?_
      rw [← param?_type_iff, hname] at hfirst
      rw [← Option.some.inj hfirst, hempty]
    · rename_i hne
      rw [param?_type_iff] at hname
      -- of the types that are known, only that of a style block needs an index
      cases hkind : PartKind.ofName? name with
      | none => exact .refused (.unknownKind hname hne (ofName?_eq_none_iff.1 hkind))
      | some kind =>
        obtain rfl := eq_name_of_ofName? hkind
        cases kind with
        | script => exact .script hname
        | template => exact .template hname
        | style => exact selects_style hname

theorem Selects.ofQuery_eq (h : Selects query outcome) : ofQuery query = outcome := by
  rw [ofQuery]
  cases h with
  | nothing hname =>
    cases hparam : param? query "type" with
    | none => rfl
    | some name => simp [hname name (param?_type_iff.1 hparam)]
  | script hname => simp [param?_type_iff.2 hname, PartKind.ofName?]
  | template hname => simp [param?_type_iff.2 hname, PartKind.ofName?]
  | style hname hindex htext =>
    have hread : Text.readUnsigned? indexBound _ = some _ := Text.readUnsigned?_eq_some_iff.2 htext
    simp [param?_type_iff.2 hname, PartKind.ofName?, param?_index_iff.2 hindex, hread]
  | refused h =>
    cases h with
    | unknownKind hname hne hkind =>
      simp [param?_type_iff.2 hname, hne, ofName?_eq_none_iff.2 hkind]
    | indexMissing hname hindex =>
      simp [param?_type_iff.2 hname, PartKind.ofName?, (param?_eq_none_iff (by decide)).2 hindex]
    | badIndex hname hindex htext =>
      have hread : Text.readUnsigned? indexBound _ = none :=
        Option.eq_none_iff_forall_ne_some.2 fun value hvalue =>
          htext value (Text.readUnsigned?_eq_some_iff.1 hvalue)
      simp [param?_type_iff.2 hname, PartKind.ofName?, param?_index_iff.2 hindex, hread]

theorem ofQuery_eq_iff : ofQuery query = outcome ↔ Selects query outcome :=
  ⟨fun h => h ▸ selects_ofQuery query, Selects.ofQuery_eq⟩

/-! ### Addresses -/

section Address

variable {path owner : String} {part : Part}

theorem parse_of_notMem (h : '?' ∉ path.toList) : parse path = .ok none := by
  rw [parse, split_of_notMem h]

theorem parse_of_splits (h : Splits path owner query) :
    parse path = (ofQuery query).map fun part? => part?.map fun part => (owner, part) := by
  rw [parse, split_of_splits h]

/-- What an address with a query is read as tells what the query selects. -/
theorem selects_of_parse (h : Splits path owner query)
    {found : Except PartError (Option (String × Part))} (hparse : parse path = found) :
    ∃ selected, Selects query selected ∧
      found = selected.map fun part? => part?.map fun part => (owner, part) :=
  ⟨ofQuery query, selects_ofQuery query, by rw [← hparse, parse_of_splits h]⟩

theorem parse_eq_some_iff :
    parse path = .ok (some (owner, part)) ↔
      ∃ query, Splits path owner query ∧ Selects query (.ok (some part)) := by
  constructor
  · intro h
    rcases notMem_or_splits path with hnone | ⟨other, query, hsplits⟩
    · cases (parse_of_notMem hnone).symm.trans h
    · obtain ⟨selected, hselects, heq⟩ := selects_of_parse hsplits h
      match selected with
      | .ok (some found) =>
        obtain ⟨rfl, rfl⟩ := Prod.mk.inj (Option.some.inj (Except.ok.inj heq))
        exact ⟨query, hsplits, hselects⟩
  · rintro ⟨query, hsplits, hselects⟩
    rw [parse_of_splits hsplits, hselects.ofQuery_eq]
    rfl

/-- An address says nothing of a part if it has no query, or one without a type. -/
theorem parse_eq_none_iff :
    parse path = .ok none ↔ '?' ∉ path.toList ∨
      ∃ owner query, Splits path owner query ∧ ∀ name, First query "type" name → name = "" := by
  constructor
  · intro h
    refine (notMem_or_splits path).imp_right fun ⟨owner, query, hsplits⟩ => ?_
    obtain ⟨selected, hselects, heq⟩ := selects_of_parse hsplits h
    cases hselects with
    | nothing hname => exact ⟨owner, query, hsplits, hname⟩
    | script | template | style | refused => cases heq
  · rintro (hnone | ⟨owner, query, hsplits, hname⟩)
    · exact parse_of_notMem hnone
    · rw [parse_of_splits hsplits, (Selects.nothing hname).ofQuery_eq]
      rfl

/-- An address is refused for what is wrong with its query. -/
theorem parse_eq_error_iff {error : PartError} :
    parse path = .error error ↔
      ∃ owner query, Splits path owner query ∧ Refuses query error := by
  constructor
  · intro h
    rcases notMem_or_splits path with hnone | ⟨owner, query, hsplits⟩
    · cases (parse_of_notMem hnone).symm.trans h
    · obtain ⟨selected, hselects, heq⟩ := selects_of_parse hsplits h
      cases hselects with
      | refused hrefuses =>
        obtain rfl := Except.error.inj heq
        exact ⟨owner, query, hsplits, hrefuses⟩
      | nothing | script | template | style => cases heq
  · rintro ⟨owner, query, hsplits, hrefuses⟩
    rw [parse_of_splits hsplits, (Selects.refused hrefuses).ofQuery_eq]
    rfl

/-- A style block that is selected has an index below the bound. -/
theorem Selects.index_lt (h : Selects query (.ok (some part))) {index : Nat}
    (hindex : part.index? = some index) : index < indexBound := by
  cases h with
  | style _ _ htext =>
    obtain ⟨-, -, -, -, -, hbound⟩ := htext
    rwa [← Option.some.inj hindex]
  | script | template => cases hindex

/-- An owner is read back from the address of a part exactly if it holds no question mark. -/
theorem parse_path_iff (hindex : ∀ index, part.index? = some index → index < indexBound) :
    parse (part.path owner) = .ok (some (owner, part)) ↔ '?' ∉ owner.toList := by
  refine ⟨fun h => ?_, fun h => parse_path h hindex⟩
  obtain ⟨query, hsplits, -⟩ := parse_eq_some_iff.1 h
  exact hsplits.2

/-- Addresses are written and read in one way. The address of a part is read as the part and its
owner exactly if no question mark stands in the owner. Whatever an address is read as, the owner is
the text before the first question mark, and the address that is written for it is read the same. An
address that says nothing of a part has no query or no type in it, and one that is refused has a
type that is unknown, or that of a style block without a number. -/
theorem parse_exact :
    (∀ (owner : String) (part : Part), (∀ index, part.index? = some index → index < 2 ^ 64) →
      (parse (part.path owner) = .ok (some (owner, part)) ↔ '?' ∉ owner.toList)) ∧
    (∀ (path owner : String) (part : Part), parse path = .ok (some (owner, part)) →
      (∃ query, Splits path owner query) ∧
      parse (part.path owner) = .ok (some (owner, part)) ∧
      (part.index?.isSome ↔ part.kind = .style)) ∧
    (∀ path : String, parse path = .ok none ↔ '?' ∉ path.toList ∨
      ∃ owner query, Splits path owner query ∧ ∀ name, First query "type" name → name = "") ∧
    ∀ (path : String) (error : PartError), parse path = .error error ↔
      ∃ owner query, Splits path owner query ∧ Refuses query error := by
  refine ⟨fun owner part hindex => parse_path_iff hindex, fun path owner part h => ?_,
    fun path => parse_eq_none_iff, fun path error => parse_eq_error_iff⟩
  obtain ⟨query, hsplits, hselects⟩ := parse_eq_some_iff.1 h
  refine ⟨⟨query, hsplits⟩, (parse_path_iff fun _ => hselects.index_lt).2 hsplits.2, ?_⟩
  cases part <;> simp [index?, kind]

/-- An address with its parameters in another order, more of them than are needed, and the largest
index with a sign and zeros in front. The owner may hold their marks, but no question mark. -/
theorem parse_exact_crowded :
    parse "/a&type=b/A.vue?raw&index=+0018446744073709551615&type=style&type=i18n&index=x" =
        .ok (some ("/a&type=b/A.vue", .style 18446744073709551615)) ∧
      parse "/a&type=b/A.vue?type=style&index=18446744073709551615" =
        .ok (some ("/a&type=b/A.vue", .style 18446744073709551615)) ∧
      (∀ index, (style 18446744073709551615).index? = some index → index < 2 ^ 64) ∧
      parse ((style 18446744073709551615).path "/a?b/A.vue") ≠
        .ok (some ("/a?b/A.vue", .style 18446744073709551615)) := by
  have hparse : parse
      "/a&type=b/A.vue?raw&index=+0018446744073709551615&type=style&type=i18n&index=x" =
        .ok (some ("/a&type=b/A.vue", .style 18446744073709551615)) := by
    decide +kernel
  have hpath : (style 18446744073709551615).path "/a&type=b/A.vue" =
      "/a&type=b/A.vue?type=style&index=18446744073709551615" := by
    decide +kernel
  have hbound : ∀ index, (style 18446744073709551615).index? = some index → index < 2 ^ 64 := by
    simp [index?]
  refine ⟨hparse, ?_, hbound, fun h => ?_⟩
  · rw [← hpath]
    exact (parse_exact.2.1 _ _ _ hparse).2.1
  · exact absurd ((parse_exact.1 "/a?b/A.vue" _ hbound).1 h) (by decide)

end Address

end Part

end SfcBundler
