import SfcBundler.Plugin.Environment

/-!
# Defaults of the environment

A build starts with replacements of its own and is given what it lacks. A variable can be set in two
forms, and what is added for one variable is there when the next one is looked up. Still nothing
that was said is said differently afterwards: every addition stands behind what was there, under a
key that was free, and gives a value only to a variable that had none.

## Main definitions

* `Define.Grows`: more replacements behind others, under new keys
* `Environment.IsComplete`: every variable and every feature flag has a value

## Main results

* `Environment.lookup?_complete`: the value of every variable once the defaults are set
* `Environment.complete_eq_iff`: the defaults add nothing exactly where nothing is missing
* `BuildOptions.normalize_conservative`: what normalized options share with those they come from
-/

namespace SfcBundler

namespace Define

variable {define later last more : Define} {key text : String}

theorem get?_append (define more : Define) (key : String) :
    get? (define ++ more) key = (define.get? key).or (get? more key) :=
  List.lookup_append

theorem set_of_get?_eq_none (h : define.get? key = none) (text : String) :
    define.set key text = define ++ [(key, text)] := by
  induction define with
  | nil => rfl
  | cons entry rest ih =>
    obtain ⟨other, old⟩ := entry
    rw [get?_cons] at h
    split at h
    · cases h
    · rename_i hne
      rw [set, if_neg hne, ih h, List.cons_append]

theorem setDefault_of_isSome (h : (define.get? key).isSome) (text : String) :
    define.setDefault key text = define :=
  if_pos h

/-- Replacements under free keys leave every key in one place only. -/
theorem nodup_keys_append (hkeys : (define.map Prod.fst).Nodup) (hmore : (more.map Prod.fst).Nodup)
    (hfree : ∀ entry ∈ more, define.get? entry.1 = none) :
    ((define ++ more).map Prod.fst).Nodup := by
  rw [List.map_append, List.nodup_append]
  refine ⟨hkeys, hmore, fun key hkey other hother hsame => ?_⟩
  obtain ⟨old, hold, rfl⟩ := List.mem_map.1 hkey
  obtain ⟨entry, hentry, rfl⟩ := List.mem_map.1 hother
  have hmiss := List.lookup_eq_none_iff.1 (hfree entry hentry) old hold
  simp [hsame] at hmiss

/-- More replacements behind those that are there, under new keys. -/
def Grows (define later : Define) : Prop :=
  ∃ more : Define, later = define ++ more ∧ (more.map Prod.fst).Nodup ∧
    ∀ entry ∈ more, define.get? entry.1 = none

namespace Grows

theorem refl (define : Define) : Grows define define :=
  ⟨[], (List.append_nil define).symm, List.nodup_nil, fun _ h => absurd h List.not_mem_nil⟩

theorem trans (h : Grows define later) (h' : Grows later last) : Grows define last := by
  obtain ⟨more, rfl, hnodup, hfree⟩ := h
  obtain ⟨rest, rfl, hnodup', hfree'⟩ := h'
  -- a key that is free in all of the replacements is free in each part of them
  have hboth : ∀ entry ∈ rest, define.get? entry.1 = none ∧ get? more entry.1 = none :=
    fun entry hentry => by
      have h := hfree' entry hentry
      rwa [get?_append, Option.or_eq_none_iff] at h
  refine ⟨more ++ rest, List.append_assoc .., ?_, fun entry hentry => ?_⟩
  · exact nodup_keys_append hnodup hnodup' fun entry hentry => (hboth entry hentry).2
  · exact (List.mem_append.1 hentry).elim (hfree entry) fun h => (hboth entry h).1

theorem set (h : define.get? key = none) (text : String) : Grows define (define.set key text) :=
  ⟨[(key, text)], set_of_get?_eq_none h text, by simp, by simpa using h⟩

theorem setDefault (define : Define) (key text : String) :
    Grows define (define.setDefault key text) := by
  cases h : define.get? key with
  | some old =>
    rw [setDefault_of_isSome (by rw [h, Option.isSome_some])]
    exact refl define
  | none =>
    rw [Define.setDefault, h, if_neg (by simp)]
    exact set h text

/-- What one step leaves alone, all steps do. -/
theorem foldl {α : Type} {step : Define → α → Define}
    (hstep : ∀ define item, Grows define (step define item)) (items : List α) (define : Define) :
    Grows define (items.foldl step define) := by
  induction items generalizing define with
  | nil => exact refl define
  | cons item items ih => exact (hstep define item).trans (ih (step define item))

theorem get?_eq_some (h : Grows define later) (hget : define.get? key = some text) :
    later.get? key = some text := by
  obtain ⟨more, rfl, -, -⟩ := h
  rw [get?_append, hget, Option.some_or]

theorem isSome_get? (h : Grows define later) (hget : (define.get? key).isSome) :
    (later.get? key).isSome := by
  obtain ⟨text, htext⟩ := Option.isSome_iff_exists.1 hget
  rw [h.get?_eq_some htext, Option.isSome_some]

end Grows

theorem isSome_get?_setDefault (define : Define) (key text : String) :
    ((define.setDefault key text).get? key).isSome := by
  rw [get?_setDefault, if_pos rfl, Option.isSome_some]

end Define

namespace Environment

variable {define : Define} {name text : String} {entry : String × String}
  {entries : List (String × String)}

theorem identifier_inj {other : String} : identifier name = identifier other ↔ name = other :=
  String.append_right_inj _

theorem identifier_ne_object (name : String) : identifier name ≠ object := by
  intro h
  have hlength := congrArg String.length h
  rw [identifier, String.length_append, String.length_append] at hlength
  have hdot : ".".length = 1 := rfl
  omega

/-- The value that a text stands for. -/
def value (text : String) : Json := (Json.parse? text).getD .null

theorem lookup?_of_get?_eq_some (h : define.get? (identifier name) = some text) :
    lookup? define name = some (value text) := by
  rw [lookup?, h, value]

theorem get?_of_lookup?_eq_none (h : lookup? define name = none) :
    define.get? (identifier name) = none := by
  cases hget : define.get? (identifier name) with
  | none => rfl
  | some text =>
    rw [lookup?_of_get?_eq_some hget] at h
    cases h

/-! ### One variable -/

theorem withVariable_of_isSome (h : (lookup? define entry.1).isSome) :
    withVariable define entry = define := by
  obtain ⟨old, hold⟩ := Option.isSome_iff_exists.1 h
  rw [withVariable, hold, Option.isNone_some, if_neg Bool.false_ne_true]

theorem withVariable_of_eq_none (h : lookup? define entry.1 = none) :
    withVariable define entry = define.set (identifier entry.1) entry.2 := by
  rw [withVariable, h, Option.isNone_none, if_pos rfl]

theorem grows_withVariable (define : Define) (entry : String × String) :
    define.Grows (withVariable define entry) := by
  cases h : lookup? define entry.1 with
  | some old =>
    rw [withVariable_of_isSome (by rw [h, Option.isSome_some])]
    exact .refl define
  | none =>
    -- a variable without a value has none of its own, so its key is free
    rw [withVariable_of_eq_none h]
    exact .set (get?_of_lookup?_eq_none h) entry.2

/-- The default counts for the variable if that has no value, and for no other. -/
theorem lookup?_withVariable (define : Define) (entry : String × String) (name : String) :
    lookup? (withVariable define entry) name =
      (lookup? define name).or (if name = entry.1 then some (value entry.2) else none) := by
  cases h : lookup? define entry.1 with
  | some old =>
    rw [withVariable_of_isSome (by rw [h, Option.isSome_some])]
    split
    · rename_i hname
      rw [hname, h, Option.some_or]
    · rw [Option.or_none]
  | none =>
    rw [withVariable_of_eq_none h]
    split
    · rename_i hname
      rw [hname, h, Option.none_or]
      exact lookup?_of_get?_eq_some (by rw [Define.get?_set, if_pos rfl])
    · -- the key set is that of no other variable, and not that of the object
      rename_i hname
      rw [lookup?, lookup?, Define.get?_set, Define.get?_set, if_neg (mt identifier_inj.1 hname),
        if_neg (identifier_ne_object _).symm, Option.or_none]

/-! ### What is no variable -/

/-- A replacement that is no part of the environment changes no variable. -/
theorem lookup?_setDefault (hobject : text ≠ object) (hvariable : ∀ name, text ≠ identifier name)
    (define : Define) (default name : String) :
    lookup? (define.setDefault text default) name = lookup? define name := by
  rw [lookup?, lookup?, Define.get?_setDefault, Define.get?_setDefault,
    if_neg (hvariable name).symm, if_neg hobject.symm]

/-- An object without members sets no variable, and takes none back. -/
theorem lookup?_setDefault_object (define : Define) (name : String) :
    lookup? (define.setDefault object "\x7b\x7d") name = lookup? define name := by
  have hempty : Json.parse? "\x7b\x7d" = some (.object []) := rfl
  rw [lookup?, lookup?, Define.get?_setDefault, Define.get?_setDefault,
    if_neg (identifier_ne_object name), if_pos rfl]
  cases define.get? object with
  | none =>
    rw [Option.getD_none, Option.bind_some, hempty]
    rfl
  | some text => rfl

/-- No feature flag is part of the environment: their names start differently. -/
theorem featureFlags_ne {flag : String × String} (hflag : flag ∈ featureFlags) :
    flag.1 ≠ object ∧ ∀ name, flag.1 ≠ identifier name := by
  have hhead : ∀ flag ∈ featureFlags, flag.1.toList.head? = some '_' := by decide
  refine ⟨fun h => ?_, fun name h => ?_⟩
  · have hname := hhead flag hflag
    rw [h] at hname
    cases hname
  · have hname := hhead flag hflag
    rw [h, identifier, object, String.append_assoc, String.toList_append] at hname
    cases hname

/-! ### All of them -/

theorem lookup?_foldl_withVariable (entries : List (String × String)) (define : Define)
    (name : String) : lookup? (entries.foldl withVariable define) name =
      (lookup? define name).or ((entries.lookup name).map value) := by
  induction entries generalizing define with
  | nil => rw [List.foldl_nil, List.lookup_nil, Option.map_none, Option.or_none]
  | cons entry entries ih =>
    obtain ⟨other, text⟩ := entry
    rw [List.foldl_cons, ih, lookup?_withVariable, Option.or_assoc, List.lookup_cons]
    by_cases hname : name = other
    · simp [hname]
    · simp [hname, beq_false_of_ne hname]

theorem lookup?_foldl_setDefault
    (h : ∀ entry ∈ entries, entry.1 ≠ object ∧ ∀ name, entry.1 ≠ identifier name)
    (define : Define) (name : String) :
    lookup? (entries.foldl (fun define flag => define.setDefault flag.1 flag.2) define) name =
      lookup? define name := by
  induction entries generalizing define with
  | nil => rfl
  | cons entry entries ih =>
    obtain ⟨hobject, hvariable⟩ := h entry List.mem_cons_self
    rw [List.foldl_cons, ih fun other hother => h other (List.mem_cons_of_mem _ hother),
      lookup?_setDefault hobject hvariable]

/-- A variable has the value that it had, or else its default. -/
theorem lookup?_complete (define : Define) (name : String) :
    lookup? (complete define) name =
      (lookup? define name).or ((standardVariables.lookup name).map value) := by
  rw [complete, lookup?_foldl_setDefault fun _ => featureFlags_ne, lookup?_foldl_withVariable,
    lookup?_setDefault_object]

theorem grows_foldl_setDefault (entries : List (String × String)) (define : Define) :
    define.Grows (entries.foldl (fun define flag => define.setDefault flag.1 flag.2) define) :=
  .foldl (fun define flag => .setDefault define flag.1 flag.2) entries define

theorem grows_complete (define : Define) : define.Grows (complete define) := by
  have hobject := Define.Grows.setDefault define object "\x7b\x7d"
  have hvariables := hobject.trans (.foldl grows_withVariable standardVariables _)
  rw [complete]
  exact hvariables.trans (grows_foldl_setDefault featureFlags _)

theorem isSome_get?_foldl_setDefault (hentry : entry ∈ entries) (define : Define) :
    (Define.get? (entries.foldl (fun define flag => define.setDefault flag.1 flag.2) define)
      entry.1).isSome := by
  induction entries generalizing define with
  | nil => cases hentry
  | cons first entries ih =>
    rw [List.foldl_cons]
    -- what is set once is there after all later steps
    rcases List.mem_cons.1 hentry with rfl | hlater
    · exact (grows_foldl_setDefault entries _).isSome_get?
        (Define.isSome_get?_setDefault define entry.1 entry.2)
    · exact ih hlater _

/-! ### Where nothing is missing -/

/-- Replacements that lack no default. -/
structure IsComplete (define : Define) : Prop where
  isSome_object : (define.get? object).isSome
  isSome_variable : ∀ entry ∈ standardVariables, (lookup? define entry.1).isSome
  isSome_flag : ∀ flag ∈ featureFlags, (define.get? flag.1).isSome

theorem isComplete_complete (define : Define) : IsComplete (complete define) where
  isSome_object := by
    have hgrows := (Define.Grows.foldl grows_withVariable standardVariables
      (define.setDefault object "\x7b\x7d")).trans (grows_foldl_setDefault featureFlags _)
    rw [complete]
    exact hgrows.isSome_get? (Define.isSome_get?_setDefault define object _)
  isSome_variable entry hentry := by
    have hdefault : ∀ entry ∈ standardVariables, (standardVariables.lookup entry.1).isSome := by
      decide
    rw [lookup?_complete, Option.isSome_or, Option.isSome_map, hdefault entry hentry, Bool.or_true]
  isSome_flag flag hflag := by
    rw [complete]
    exact isSome_get?_foldl_setDefault hflag _

/-- A step that leaves the replacements alone for every item does so for all of them. -/
theorem foldl_eq_self {α : Type} {step : Define → α → Define} {items : List α}
    (h : ∀ item ∈ items, step define item = define) : items.foldl step define = define := by
  induction items with
  | nil => rfl
  | cons item items ih =>
    rw [List.foldl_cons, h item List.mem_cons_self]
    exact ih fun other hother => h other (List.mem_cons_of_mem _ hother)

/-- The defaults add nothing exactly where nothing is missing. -/
theorem complete_eq_iff : complete define = define ↔ IsComplete define := by
  refine ⟨fun h => h ▸ isComplete_complete define, fun h => ?_⟩
  rw [complete, Define.setDefault_of_isSome h.isSome_object,
    foldl_eq_self fun entry hentry => withVariable_of_isSome (h.isSome_variable entry hentry),
    foldl_eq_self fun flag hflag => Define.setDefault_of_isSome (h.isSome_flag flag hflag) flag.2]

theorem lookup?_complete_of_eq_some {found : Json} (h : lookup? define name = some found) :
    lookup? (complete define) name = some found := by
  rw [lookup?_complete, h, Option.some_or]

/-- A default that is written out says the same as one that is not. -/
theorem flag_complete {default : Bool}
    (h : (standardVariables.lookup name).map value = some (.bool default)) (define : Define) :
    flag (complete define) name default = flag define name default := by
  rw [flag, flag, lookup?_complete, h]
  cases lookup? define name with
  | none => rfl
  | some found => rw [Option.some_or]

end Environment

theorem BuildMode.ofDefine_complete (define : Define) :
    BuildMode.ofDefine (Environment.complete define) = BuildMode.ofDefine define := by
  rw [BuildMode.ofDefine, BuildMode.ofDefine, Environment.flag_complete rfl,
    Environment.flag_complete rfl]

theorem BuildOptions.normalize_define (options : BuildOptions) :
    options.normalize.define = Environment.complete options.define := by
  rw [normalize]

theorem BuildOptions.normalize_restore (options : BuildOptions) :
    { options.normalize with define := options.define, metafile := options.metafile } = options := by
  rw [normalize]

theorem BuildOptions.normalize_eq_self {options : BuildOptions}
    (hdefine : Environment.IsComplete options.define) (hmetafile : options.metafile = true) :
    options.normalize = options := by
  rw [normalize, Environment.complete_eq_iff.2 hdefine, ← hmetafile]

/-- Options are normalized once for all. The replacements that were there are the first ones
afterwards, as they were, and those behind them have new keys. Every variable that had a value has
it still, every standard variable and every feature flag has one, and the kind of the build is the
same. Apart from the replacements and the metafile the options are as they were. -/
theorem BuildOptions.normalize_conservative (options : BuildOptions) :
    options.normalize.normalize = options.normalize ∧
    options.define.Grows options.normalize.define ∧
    (∀ name value, Environment.lookup? options.define name = some value →
      Environment.lookup? options.normalize.define name = some value) ∧
    (∀ name ∈ ["MODE", "PROD", "DEV", "SSR", "BASE_URL"],
      (Environment.lookup? options.normalize.define name).isSome) ∧
    (∀ flag ∈ ["__VUE_OPTIONS_API__", "__VUE_PROD_DEVTOOLS__",
        "__VUE_PROD_HYDRATION_MISMATCH_DETAILS__"],
      (options.normalize.define.get? flag).isSome) ∧
    BuildMode.ofDefine options.normalize.define = BuildMode.ofDefine options.define ∧
    options.normalize.metafile = true ∧
    { options.normalize with define := options.define, metafile := options.metafile } = options := by
  have hcomplete := Environment.isComplete_complete options.define
  have hvariables : ∀ name ∈ ["MODE", "PROD", "DEV", "SSR", "BASE_URL"],
      ∃ entry ∈ Environment.standardVariables, entry.1 = name := by decide
  have hflags : ∀ flag ∈ ["__VUE_OPTIONS_API__", "__VUE_PROD_DEVTOOLS__",
      "__VUE_PROD_HYDRATION_MISMATCH_DETAILS__"],
      ∃ entry ∈ Environment.featureFlags, entry.1 = flag := by decide
  have htwice : options.normalize.normalize = options.normalize :=
    normalize_eq_self (by rwa [normalize_define]) rfl
  refine ⟨htwice, ?_⟩
  rw [normalize_define]
  refine ⟨Environment.grows_complete options.define,
    fun name value h => Environment.lookup?_complete_of_eq_some h, fun name hname => ?_,
    fun flag hflag => ?_, BuildMode.ofDefine_complete options.define, rfl, normalize_restore options⟩
  · obtain ⟨entry, hentry, rfl⟩ := hvariables name hname
    exact hcomplete.isSome_variable entry hentry
  · obtain ⟨entry, hentry, rfl⟩ := hflags flag hflag
    exact hcomplete.isSome_flag entry hentry

-- a member that is null and a text that is not JSON are values, and stay
example :
    Environment.complete [("__VUE_OPTIONS_API__", "false"),
      ("import.meta.env", "\x7b\"PROD\": null\x7d"), ("import.meta.env.MODE", "'test'")] =
    [("__VUE_OPTIONS_API__", "false"), ("import.meta.env", "\x7b\"PROD\": null\x7d"),
      ("import.meta.env.MODE", "'test'"), ("import.meta.env.DEV", "false"),
      ("import.meta.env.SSR", "false"), ("import.meta.env.BASE_URL", "'/'"),
      ("__VUE_PROD_DEVTOOLS__", "false"), ("__VUE_PROD_HYDRATION_MISMATCH_DETAILS__", "false")] := by
  decide +kernel

end SfcBundler
