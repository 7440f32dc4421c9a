import SfcBundler.Plugin.Compiler
import SfcBundler.Proofs.Json.Shape

/-!
# Answers read as components

The form in which the compiler writes a component, and what is read from it. Everything that has
the form is read, nothing else is, and the component has exactly what is written there.

## Main definitions

* `Json.IsNothingOr`, `Json.IsListOf`, `Json.IsFlag`: what may stand in a field
* `ScriptPart.IsWritten`, `TemplatePart.IsWritten`, `StylePart.IsWritten`, `Component.IsWritten`:
  values that a part or a component is written as
* `ScriptPart.asWritten`, `TemplatePart.asWritten`, `StylePart.asWritten`, `Component.asWritten`:
  what is written there
* `Component.SameParts`: answers with the same parts in other forms

## Main results

* `ScriptPart.read_eq_ok_iff`, `TemplatePart.read_eq_ok_iff`, `StylePart.read_eq_ok_iff`: a part is
  what is written of it
* `Component.decode_exact`: a component is what is written of it, in whatever form
-/

namespace SfcBundler

open FieldShape RecordShape

namespace Json

/-! ### What stands in a field -/

/-- A place where nothing stands, or null, or a value of a kind. -/
inductive IsNothingOr (kind : Json → Prop) : Option Json → Prop
  | absent : IsNothingOr kind none
  | null : IsNothingOr kind (some .null)
  | value {value : Json} (h : kind value) : IsNothingOr kind (some value)

/-- A value that is a text. -/
inductive IsText : Json → Prop
  | text (text : String) : IsText (.string text)

/-- An array of values of a kind. -/
inductive IsListOf (kind : Json → Prop) : Json → Prop
  | items {items : List Json} (h : ∀ item ∈ items, kind item) : IsListOf kind (.array items)

/-- A place where nothing or a truth value stands. -/
inductive IsFlag : Option Json → Prop
  | absent : IsFlag none
  | flag (value : Bool) : IsFlag (some (.bool value))

/-- The text at a place. -/
def textAt (found : Option Json) : Option String := found.bind text?

/-- The items at a place. -/
def itemsAt (found : Option Json) : List Json := (found.bind items?).getD []

/-- The texts among the items at a place, in their order. -/
def textsAt (found : Option Json) : List String := (itemsAt found).filterMap text?

/-- Whether the truth value at a place is set. -/
def flagAt (found : Option Json) : Bool := (found.bind flag?).getD false

/-- What is written at a place where null stands for nothing. -/
def valueAt {α : Type} (asWritten : Json → α) (found : Option Json) : Option α :=
  (found.bind nonNull?).map asWritten

section Says

variable {α β : Type} {found : Option Json} {kind : Json → Prop}

theorem isNothingOr_some_iff {value : Json} (h : value ≠ .null) :
    IsNothingOr kind (some value) ↔ kind value :=
  ⟨fun
    | .null => absurd rfl h
    | .value hvalue => hvalue,
  .value⟩

theorem nullOr_of_ne_null {value : Json} (h : value ≠ .null) (read : Json → Except ShapeError α) :
    nullOr read value = (read value).map some := by
  cases value <;> first | rfl | contradiction

theorem map_some_eq_ok_iff {read : Except ShapeError α} {content : Option α} :
    read.map some = .ok content ↔ ∃ part, read = .ok part ∧ content = some part := by
  cases read <;> simp [Except.map, eq_comm]

theorem nonNull?_of_ne_null {value : Json} (h : value ≠ .null) : value.nonNull? = some value := by
  cases value <;> first | rfl | contradiction

/-- Where null stands for nothing, any other value is read as what is written there. -/
theorem says_nullOr_iff {read : Json → Except ShapeError α} {asWritten : Json → α}
    (hread : ∀ value, found = some value → ∀ content,
      read value = .ok content ↔ kind value ∧ content = asWritten value) {content : Option α} :
    Says (nullOr read) none found content ↔
      IsNothingOr kind found ∧ content = valueAt asWritten found := by
  cases found with
  | none => simp [says_none_iff, valueAt, IsNothingOr.absent]
  | some value =>
    rw [says_some_iff]
    by_cases hnull : value = .null
    · subst hnull
      simp [nullOr, nonNull?, valueAt, IsNothingOr.null, eq_comm]
    · rw [isNothingOr_some_iff hnull, nullOr_of_ne_null hnull, valueAt, Option.bind_some,
        nonNull?_of_ne_null hnull, Option.map_some, map_some_eq_ok_iff]
      simp only [hread value rfl, and_assoc, exists_and_left, exists_eq_left]

theorem bind_eq_ok_iff {first : Except ShapeError α} {next : α → Except ShapeError β}
    {content : β} :
    first >>= next = .ok content ↔ ∃ between, first = .ok between ∧ next between = .ok content := by
  constructor
  · exact exists_of_bind_ok
  · rintro ⟨between, rfl, hnext⟩
    exact hnext

/-- A field that is read in two steps. -/
theorem says_bind_iff (first : Json → Except ShapeError α) (next : α → Except ShapeError β)
    (absent : α) {absent' : β} (habsent : next absent = .ok absent') {content : β} :
    Says (fun value => first value >>= next) absent' found content ↔
      ∃ between, Says first absent found between ∧ next between = .ok content := by
  cases found with
  | none => simp [says_none_iff, habsent, eq_comm]
  | some value => simp only [says_some_iff, bind_eq_ok_iff]

theorem expectText_eq_ok_iff {value : Json} {text : String} :
    expectText value = .ok text ↔ value = .string text := by
  cases value <;> simp [expectText]

theorem says_text_iff {content : Option String} :
    Says (nullOr expectText) none found content ↔
      IsNothingOr IsText found ∧ content = textAt found := by
  have hread (value : Json) (content : String) :
      expectText value = .ok content ↔ IsText value ∧ content = value.text?.getD "" := by
    rw [expectText_eq_ok_iff]
    constructor
    · rintro rfl
      exact ⟨.text content, rfl⟩
    · rintro ⟨⟨text⟩, rfl⟩
      rfl
  rw [says_nullOr_iff fun value _ => hread value]
  refine and_congr_right fun h => ?_
  rcases h with _ | _ | ⟨⟨text⟩⟩ <;> rfl

theorem says_any_iff {content : Option Json} :
    Says (nullOr .ok) none found content ↔ content = valueAt id found := by
  have hread (value content : Json) :
      (Except.ok value : Except ShapeError Json) = .ok content ↔ True ∧ content = id value := by
    simp [eq_comm]
  rw [says_nullOr_iff fun value _ => hread value, and_iff_right]
  cases found with
  | none => exact .absent
  | some value => exact .value trivial

theorem says_flag_iff {content : Bool} :
    Says expectFlag false found content ↔ IsFlag found ∧ content = flagAt found := by
  constructor
  · rintro (_ | ⟨h⟩)
    · exact ⟨.absent, rfl⟩
    · rename_i value
      cases value <;> cases h
      exact ⟨.flag content, rfl⟩
  · rintro ⟨⟨⟩ | ⟨flag⟩, rfl⟩
    · exact .absent
    · exact .found rfl

theorem says_items_iff {content : Option (List Json)} :
    Says (nullOr expectItems) none found content ↔
      IsNothingOr (IsListOf fun _ => True) found ∧ content = found.bind items? := by
  have hread (value : Json) (content : List Json) : expectItems value = .ok content ↔
      IsListOf (fun _ => True) value ∧ content = value.items?.getD [] := by
    constructor
    · intro h
      cases value <;> cases h
      exact ⟨.items fun _ _ => trivial, rfl⟩
    · rintro ⟨⟨_⟩, rfl⟩
      rfl
  rw [says_nullOr_iff fun value _ => hread value]
  refine and_congr_right fun h => ?_
  rcases h with _ | _ | ⟨⟨_⟩⟩ <;> rfl

theorem says_texts_iff {content : List String} :
    Says textsOnly [] found content ↔
      IsNothingOr (IsListOf fun _ => True) found ∧ content = textsAt found := by
  refine (says_bind_iff (nullOr expectItems) (fun items => pure ((items.getD []).filterMap text?))
    none rfl).trans ?_
  simp only [says_items_iff]
  constructor
  · rintro ⟨_, ⟨hlist, rfl⟩, h⟩
    exact ⟨hlist, (Except.ok.inj h).symm⟩
  · rintro ⟨hlist, rfl⟩
    exact ⟨_, ⟨hlist, rfl⟩, rfl⟩

theorem mapM_eq_ok_iff {read : Json → Except ShapeError α} {asWritten : Json → α}
    {items : List Json} (hread : ∀ item ∈ items, ∀ content,
      read item = .ok content ↔ kind item ∧ content = asWritten item) {contents : List α} :
    items.mapM read = .ok contents ↔
      (∀ item ∈ items, kind item) ∧ contents = items.map asWritten := by
  induction items generalizing contents with
  | nil => simp [eq_comm, pure, Except.pure]
  | cons item items ih =>
    obtain ⟨hitem, hitems⟩ := List.forall_mem_cons.1 hread
    rw [List.mapM_cons, List.forall_mem_cons, List.map_cons]
    constructor
    · intro h
      obtain ⟨first, hfirst, h⟩ := exists_of_bind_ok h
      obtain ⟨others, hothers, h⟩ := exists_of_bind_ok h
      obtain ⟨hkind, rfl⟩ := (hitem first).1 hfirst
      obtain ⟨hkinds, rfl⟩ := (ih hitems).1 hothers
      exact ⟨⟨hkind, hkinds⟩, (Except.ok.inj h).symm⟩
    · rintro ⟨⟨hkind, hkinds⟩, rfl⟩
      rw [(hitem _).2 ⟨hkind, rfl⟩, (ih hitems).2 ⟨hkinds, rfl⟩]
      rfl

/-- A required text. -/
theorem exists_text_iff {next : String → Prop} :
    (∃ value text, found = some value ∧ expectText value = .ok text ∧ next text) ↔
      (∃ text, found = some (.string text)) ∧ next ((textAt found).getD "") := by
  simp only [expectText_eq_ok_iff]
  constructor
  · rintro ⟨_, text, rfl, rfl, hnext⟩
    exact ⟨⟨text, rfl⟩, hnext⟩
  · rintro ⟨⟨text, rfl⟩, hnext⟩
    exact ⟨_, text, rfl, rfl, hnext⟩

end Says

/-! ### Forms of one part -/

/-- Two values that are one, or two forms of one part. -/
inductive Alike (names : List String) : Json → Json → Prop
  | refl (value : Json) : Alike names value value
  | forms {one other : Json} (h : SameFields names one other) : Alike names one other

/-- Two values that are one, or arrays of values that are alike. -/
inductive AlikeItems (names : List String) : Json → Json → Prop
  | refl (value : Json) : AlikeItems names value value
  | items {items items' : List Json} (h : List.Forall₂ (Alike names) items items') :
    AlikeItems names (.array items) (.array items')

section Alike

variable {α : Type} {shape : RecordShape α} {one other : Json}

theorem IsForm.ne_null {names : List String} {value : Json} (h : value.IsForm names) :
    value ≠ .null := by
  rintro rfl
  cases h

theorem Ordered.items {items : List Json} (h : Ordered (.array items)) :
    ∀ item ∈ items, item.Ordered := by
  cases h with
  | array hitems => exact hitems

theorem Ordered.itemsAt {value : Json} (h : value.Ordered) (name : String) :
    ∀ item ∈ itemsAt (value.field? name), item.Ordered := by
  intro item hitem
  cases hfield : value.field? name with
  | none => simp [hfield, Json.itemsAt] at hitem
  | some found =>
    cases found with
    | array items =>
      rw [hfield] at hitem
      exact (h.of_field? hfield).items item hitem
    | _ => simp [hfield, Json.itemsAt, items?] at hitem

theorem read_iff_of_alike (hshape : shape.IsRegular) (h : Alike shape.names one other)
    (hone : one.Ordered) (hother : other.Ordered) {part : α} :
    shape.read one = .ok part ↔ shape.read other = .ok part := by
  cases h with
  | refl => rfl
  | forms hsame => exact read_iff_of_sameFields hshape hone hother hsame

theorem nullOr_read_iff_of_alike (hshape : shape.IsRegular) (h : Alike shape.names one other)
    (hone : one.Ordered) (hother : other.Ordered) {part : Option α} :
    nullOr shape.read one = .ok part ↔ nullOr shape.read other = .ok part := by
  cases h with
  | refl => rfl
  | forms hsame =>
    rw [nullOr_of_ne_null hsame.form.ne_null, nullOr_of_ne_null hsame.form'.ne_null,
      map_some_eq_ok_iff, map_some_eq_ok_iff]
    simp only [read_iff_of_sameFields hshape hone hother hsame]

theorem mapM_read_iff_of_alike (hshape : shape.IsRegular) {items items' : List Json}
    (h : List.Forall₂ (Alike shape.names) items items') (hone : ∀ item ∈ items, item.Ordered)
    (hother : ∀ item ∈ items', item.Ordered) {parts : List α} :
    items.mapM shape.read = .ok parts ↔ items'.mapM shape.read = .ok parts := by
  induction h generalizing parts with
  | nil => rfl
  | cons hitem _ ih =>
    obtain ⟨hfirst, hrest⟩ := List.forall_mem_cons.1 hone
    obtain ⟨hfirst', hrest'⟩ := List.forall_mem_cons.1 hother
    simp only [List.mapM_cons, bind_eq_ok_iff, read_iff_of_alike hshape hitem hfirst hfirst',
      ih hrest hrest']

/-- Fields with values that are read alike say the same. -/
theorem says_iff_of_rel {parse : Json → Except ShapeError α} {related : Json → Json → Prop}
    {found found' : Option Json} {absent content : α} (h : Option.Rel related found found')
    (hparse : ∀ value value', found = some value → found' = some value' → related value value' →
      (parse value = .ok content ↔ parse value' = .ok content)) :
    Says parse absent found content ↔ Says parse absent found' content := by
  cases h with
  | none => rfl
  | some hvalue => rw [says_some_iff, says_some_iff, hparse _ _ rfl rfl hvalue]

end Alike

end Json

/-! ### Parts -/

namespace ScriptPart

/-- The names of a script's fields, in the order of an array. -/
def fieldNames : List String := ["content", "lang", "map", "warnings", "setup"]

/-- A value that a script is written as. -/
structure IsWritten (value : Json) : Prop where
  form : value.IsForm fieldNames
  content : ∃ text, value.fieldOf fieldNames "content" = some (.string text)
  lang : Json.IsNothingOr Json.IsText (value.fieldOf fieldNames "lang")
  warnings : Json.IsNothingOr (Json.IsListOf fun _ => True) (value.fieldOf fieldNames "warnings")
  isSetup : Json.IsFlag (value.fieldOf fieldNames "setup")

/-- The script that is written as a value. -/
def asWritten (value : Json) : ScriptPart where
  content := (Json.textAt (value.fieldOf fieldNames "content")).getD ""
  lang := Json.textAt (value.fieldOf fieldNames "lang")
  sourceMap := Json.valueAt id (value.fieldOf fieldNames "map")
  warnings := Json.textsAt (value.fieldOf fieldNames "warnings")
  isSetup := Json.flagAt (value.fieldOf fieldNames "setup")

theorem fields_shape : shape.fields = [
    .putting "content" true Json.expectText fun content part => { part with content },
    .putting "lang" false (Json.nullOr Json.expectText) fun lang part => { part with lang },
    .putting "map" false (Json.nullOr .ok) fun sourceMap part => { part with sourceMap },
    .putting "warnings" false Json.textsOnly fun warnings part => { part with warnings },
    .putting "setup" false Json.expectFlag fun isSetup part => { part with isSetup }] := rfl

theorem isRegular_shape : shape.IsRegular where
  nodup := by decide
  independent := by
    simp only [fields_shape, List.pairwise_cons, List.forall_mem_cons]
    and_intros
    all_goals first
      | exact independent_putting fun _ _ _ => rfl
      | simp

theorem read_eq_ok_iff {value : Json} (h : value.Ordered) {part : ScriptPart} :
    shape.read value = .ok part ↔ IsWritten value ∧ part = asWritten value := by
  rw [RecordShape.read_eq_ok_iff isRegular_shape h, fields_shape, fill_required_iff,
    Json.exists_text_iff, fill_known_iff fun _ => Json.says_text_iff,
    fill_known_iff fun _ => Json.says_any_iff.trans (iff_of_eq (true_and _).symm),
    fill_known_iff fun _ => Json.says_texts_iff, fill_known_iff fun _ => Json.says_flag_iff,
    fill_nil_iff]
  · constructor
    · rintro ⟨hform, hcontent, hlang, -, hwarnings, hflag, rfl⟩
      exact ⟨⟨hform, hcontent, hlang, hwarnings, hflag⟩, rfl⟩
    · rintro ⟨⟨hform, hcontent, hlang, hwarnings, hflag⟩, rfl⟩
      exact ⟨hform, hcontent, hlang, trivial, hwarnings, hflag, rfl⟩
  all_goals rfl

end ScriptPart

namespace TemplatePart

/-- The names of a template's fields, in the order of an array. -/
def fieldNames : List String := ["code", "tips", "errors", "scoped"]

/-- A value that a template is written as. -/
structure IsWritten (value : Json) : Prop where
  form : value.IsForm fieldNames
  code : ∃ text, value.fieldOf fieldNames "code" = some (.string text)
  tips : Json.IsNothingOr (Json.IsListOf fun _ => True) (value.fieldOf fieldNames "tips")
  errors : Json.IsNothingOr (Json.IsListOf fun _ => True) (value.fieldOf fieldNames "errors")
  isScoped : Json.IsFlag (value.fieldOf fieldNames "scoped")

/-- The template that is written as a value. -/
def asWritten (value : Json) : TemplatePart where
  code := (Json.textAt (value.fieldOf fieldNames "code")).getD ""
  tips := Json.textsAt (value.fieldOf fieldNames "tips")
  errors := Json.textsAt (value.fieldOf fieldNames "errors")
  isScoped := Json.flagAt (value.fieldOf fieldNames "scoped")

theorem fields_shape : shape.fields = [
    .putting "code" true Json.expectText fun code part => { part with code },
    .putting "tips" false Json.textsOnly fun tips part => { part with tips },
    .putting "errors" false Json.textsOnly fun errors part => { part with errors },
    .putting "scoped" false Json.expectFlag fun isScoped part => { part with isScoped }] := rfl

theorem isRegular_shape : shape.IsRegular where
  nodup := by decide
  independent := by
    simp only [fields_shape, List.pairwise_cons, List.forall_mem_cons]
    and_intros
    all_goals first
      | exact independent_putting fun _ _ _ => rfl
      | simp

theorem read_eq_ok_iff {value : Json} (h : value.Ordered) {part : TemplatePart} :
    shape.read value = .ok part ↔ IsWritten value ∧ part = asWritten value := by
  rw [RecordShape.read_eq_ok_iff isRegular_shape h, fields_shape, fill_required_iff,
    Json.exists_text_iff, fill_known_iff fun _ => Json.says_texts_iff,
    fill_known_iff fun _ => Json.says_texts_iff, fill_known_iff fun _ => Json.says_flag_iff,
    fill_nil_iff]
  · constructor
    · rintro ⟨hform, hcode, htips, herrors, hflag, rfl⟩
      exact ⟨⟨hform, hcode, htips, herrors, hflag⟩, rfl⟩
    · rintro ⟨⟨hform, hcode, htips, herrors, hflag⟩, rfl⟩
      exact ⟨hform, hcode, htips, herrors, hflag, rfl⟩
  all_goals rfl

end TemplatePart

namespace StylePart

/-- The names of a style's fields, in the order of an array. -/
def fieldNames : List String := ["code", "scoped", "errors"]

/-- A value that a style is written as. -/
structure IsWritten (value : Json) : Prop where
  form : value.IsForm fieldNames
  code : ∃ text, value.fieldOf fieldNames "code" = some (.string text)
  isScoped : Json.IsFlag (value.fieldOf fieldNames "scoped")
  errors : Json.IsNothingOr (Json.IsListOf fun _ => True) (value.fieldOf fieldNames "errors")

/-- The style that is written as a value. -/
def asWritten (value : Json) : StylePart where
  code := (Json.textAt (value.fieldOf fieldNames "code")).getD ""
  isScoped := Json.flagAt (value.fieldOf fieldNames "scoped")
  errors := Json.textsAt (value.fieldOf fieldNames "errors")

theorem fields_shape : shape.fields = [
    .putting "code" true Json.expectText fun code part => { part with code },
    .putting "scoped" false Json.expectFlag fun isScoped part => { part with isScoped },
    .putting "errors" false Json.textsOnly fun errors part => { part with errors }] := rfl

theorem isRegular_shape : shape.IsRegular where
  nodup := by decide
  independent := by
    simp only [fields_shape, List.pairwise_cons, List.forall_mem_cons]
    and_intros
    all_goals first
      | exact independent_putting fun _ _ _ => rfl
      | simp

theorem read_eq_ok_iff {value : Json} (h : value.Ordered) {part : StylePart} :
    shape.read value = .ok part ↔ IsWritten value ∧ part = asWritten value := by
  rw [RecordShape.read_eq_ok_iff isRegular_shape h, fields_shape, fill_required_iff,
    Json.exists_text_iff, fill_known_iff fun _ => Json.says_flag_iff,
    fill_known_iff fun _ => Json.says_texts_iff, fill_nil_iff]
  · constructor
    · rintro ⟨hform, hcode, hflag, herrors, rfl⟩
      exact ⟨⟨hform, hcode, hflag, herrors⟩, rfl⟩
    · rintro ⟨⟨hform, hcode, hflag, herrors⟩, rfl⟩
      exact ⟨hform, hcode, hflag, herrors, rfl⟩
  all_goals rfl

/-- Styles read one after another. -/
def readAll (value : Json) : Except ShapeError (List StylePart) := do
  ((← value.nullOr Json.expectItems).getD []).mapM shape.read

theorem says_readAll_iff {found : Option Json} (h : ∀ item ∈ Json.itemsAt found, item.Ordered)
    {styles : List StylePart} :
    Says readAll [] found styles ↔
      Json.IsNothingOr (Json.IsListOf IsWritten) found ∧
        styles = (Json.itemsAt found).map asWritten := by
  -- the list is read first, and then each of its items
  refine (Json.says_bind_iff (Json.nullOr Json.expectItems)
    (fun items => (items.getD []).mapM shape.read) none rfl).trans ?_
  have hread : ∀ item ∈ Json.itemsAt found, ∀ part,
      shape.read item = .ok part ↔ IsWritten item ∧ part = asWritten item :=
    fun item hitem part => read_eq_ok_iff (h item hitem)
  simp only [Json.says_items_iff]
  constructor
  · rintro ⟨_, ⟨hlist, rfl⟩, hstyles⟩
    obtain ⟨hwritten, rfl⟩ := (Json.mapM_eq_ok_iff hread).1 hstyles
    refine ⟨?_, rfl⟩
    rcases hlist with _ | _ | ⟨⟨_⟩⟩
    · exact .absent
    · exact .null
    · exact .value (.items hwritten)
  · rintro ⟨hlist, rfl⟩
    refine ⟨_, ⟨?_, rfl⟩, (Json.mapM_eq_ok_iff hread).2 ⟨?_, rfl⟩⟩
    all_goals rcases hlist with _ | _ | ⟨⟨hitems⟩⟩
    · exact .absent
    · exact .null
    · exact .value (.items fun _ _ => trivial)
    · exact fun item hitem => absurd hitem List.not_mem_nil
    · exact fun item hitem => absurd hitem List.not_mem_nil
    · exact hitems

theorem readAll_iff_of_alike {one other : Json} (h : Json.AlikeItems fieldNames one other)
    (hone : one.Ordered) (hother : other.Ordered) {styles : List StylePart} :
    readAll one = .ok styles ↔ readAll other = .ok styles := by
  cases h with
  | refl => rfl
  | items hitems => exact Json.mapM_read_iff_of_alike isRegular_shape hitems hone.items hother.items

end StylePart

/-! ### Components -/

namespace Component

/-- An answer that a component is written as. -/
structure IsWritten (answer : Json) : Prop where
  isObject : answer.isObject = true
  script : Json.IsNothingOr ScriptPart.IsWritten (answer.field? "script")
  template : Json.IsNothingOr TemplatePart.IsWritten (answer.field? "template")
  styles : Json.IsNothingOr (Json.IsListOf StylePart.IsWritten) (answer.field? "styles")

/-- The component that is written as an answer. -/
def asWritten (answer : Json) : Component where
  script := Json.valueAt ScriptPart.asWritten (answer.field? "script")
  template := Json.valueAt TemplatePart.asWritten (answer.field? "template")
  styles := (Json.itemsAt (answer.field? "styles")).map StylePart.asWritten

theorem fields_shape : shape.fields = [
    .putting "script" false (Json.nullOr ScriptPart.shape.read)
      fun script part => { part with script },
    .putting "template" false (Json.nullOr TemplatePart.shape.read)
      fun template part => { part with template },
    .putting "styles" false StylePart.readAll fun styles part => { part with styles }] := by
  simp only [shape, putting, StylePart.readAll, bind_assoc]

theorem isRegular_shape : shape.IsRegular where
  nodup := by decide
  independent := by
    simp only [fields_shape, List.pairwise_cons, List.forall_mem_cons]
    and_intros
    all_goals first
      | exact independent_putting fun _ _ _ => rfl
      | simp

/-- A component is read from an object field by field. -/
theorem decode_iff_fields {answer : Json} (h : answer.Ordered) {component : Component} :
    decode answer = .ok component ↔ answer.isObject = true ∧
      Says (Json.nullOr ScriptPart.shape.read) none (answer.field? "script") component.script ∧
      Says (Json.nullOr TemplatePart.shape.read) none (answer.field? "template")
        component.template ∧
      Says StylePart.readAll [] (answer.field? "styles") component.styles := by
  cases answer with
  | object fields =>
    have hdecode : decode (.object fields) = .ok component ↔
        shape.read (.object fields) = .ok component := by
      change (shape.read (.object fields)).mapError DecodeError.shape = _ ↔ _
      cases shape.read (.object fields) <;> simp [Except.mapError]
    rw [hdecode, read_object_eq_ok_iff isRegular_shape h, fields_shape]
    -- the fields are filled one after the other, each beside the contents of those before
    constructor
    · intro hfill
      obtain ⟨script, hscript, hfill⟩ := (fill_optional_iff none (by rfl)).1 hfill
      obtain ⟨template, htemplate, hfill⟩ := (fill_optional_iff none (by rfl)).1 hfill
      obtain ⟨styles, hstyles, hfill⟩ := (fill_optional_iff [] (by rfl)).1 hfill
      obtain rfl := fill_nil_iff.1 hfill
      exact ⟨rfl, hscript, htemplate, hstyles⟩
    · rintro ⟨-, hscript, htemplate, hstyles⟩
      refine (fill_optional_iff none (by rfl)).2 ⟨component.script, hscript, ?_⟩
      refine (fill_optional_iff none (by rfl)).2 ⟨component.template, htemplate, ?_⟩
      refine (fill_optional_iff [] (by rfl)).2 ⟨component.styles, hstyles, ?_⟩
      exact fill_nil_iff.2 rfl
  | _ => exact iff_of_false nofun fun h => nomatch h.1

/-- A component is what is written of it. -/
theorem decode_eq_ok_iff {answer : Json} (h : answer.Ordered) {component : Component} :
    decode answer = .ok component ↔ IsWritten answer ∧ component = asWritten answer := by
  have hscript (value : Json) (hvalue : answer.field? "script" = some value) (part : ScriptPart) :
      ScriptPart.shape.read value = .ok part ↔
        ScriptPart.IsWritten value ∧ part = ScriptPart.asWritten value :=
    ScriptPart.read_eq_ok_iff (h.of_field? hvalue)
  have htemplate (value : Json) (hvalue : answer.field? "template" = some value)
      (part : TemplatePart) : TemplatePart.shape.read value = .ok part ↔
        TemplatePart.IsWritten value ∧ part = TemplatePart.asWritten value :=
    TemplatePart.read_eq_ok_iff (h.of_field? hvalue)
  rw [decode_iff_fields h, Json.says_nullOr_iff hscript, Json.says_nullOr_iff htemplate,
    StylePart.says_readAll_iff (h.itemsAt "styles")]
  constructor
  · rintro ⟨hobject, ⟨hscript, hscriptIs⟩, ⟨htemplate, htemplateIs⟩, hstyles, hstylesAre⟩
    refine ⟨⟨hobject, hscript, htemplate, hstyles⟩, ?_⟩
    rw [asWritten, ← hscriptIs, ← htemplateIs, ← hstylesAre]
  · rintro ⟨⟨hobject, hscript, htemplate, hstyles⟩, rfl⟩
    exact ⟨hobject, ⟨hscript, rfl⟩, ⟨htemplate, rfl⟩, hstyles, rfl⟩

/-- Two answers with the same parts, each part in a form of its own. -/
structure SameParts (answer other : Json) : Prop where
  isObject : answer.isObject = other.isObject
  script : Option.Rel (Json.Alike ScriptPart.fieldNames) (answer.field? "script")
    (other.field? "script")
  template : Option.Rel (Json.Alike TemplatePart.fieldNames) (answer.field? "template")
    (other.field? "template")
  styles : Option.Rel (Json.AlikeItems StylePart.fieldNames) (answer.field? "styles")
    (other.field? "styles")

theorem decode_iff_of_sameParts {answer other : Json} (h : answer.Ordered) (h' : other.Ordered)
    (hsame : SameParts answer other) {component : Component} :
    decode answer = .ok component ↔ decode other = .ok component := by
  rw [decode_iff_fields h, decode_iff_fields h', hsame.isObject]
  refine and_congr_right fun _ => and_congr ?_ (and_congr ?_ ?_)
  · exact Json.says_iff_of_rel hsame.script fun _ _ hone hother halike =>
      Json.nullOr_read_iff_of_alike ScriptPart.isRegular_shape halike (h.of_field? hone)
        (h'.of_field? hother)
  · exact Json.says_iff_of_rel hsame.template fun _ _ hone hother halike =>
      Json.nullOr_read_iff_of_alike TemplatePart.isRegular_shape halike (h.of_field? hone)
        (h'.of_field? hother)
  · exact Json.says_iff_of_rel hsame.styles fun _ _ hone hother halike =>
      StylePart.readAll_iff_of_alike halike (h.of_field? hone) (h'.of_field? hother)

/-- Exactly the answers that a component is written as are decoded, to the component that is written
there and to the same one in whatever form its parts are. Any other answer is malformed. -/
theorem decode_exact {answer : Json} (hanswer : answer.Ordered) :
    (∀ component, decode answer = .ok component ↔
      IsWritten answer ∧ component = asWritten answer) ∧
    (¬IsWritten answer → ∃ error, decode answer = .error error ∧ ∀ id,
      Compiler.compiled (.ok ⟨id, answer⟩) = .error (.malformed (.component error))) ∧
    ∀ other : Json, other.Ordered → SameParts answer other → ∀ component,
      decode answer = .ok component ↔ decode other = .ok component := by
  refine ⟨fun component => decode_eq_ok_iff hanswer, fun hnot => ?_,
    fun other hother hsame component => decode_iff_of_sameParts hanswer hother hsame⟩
  cases hdecode : decode answer with
  | ok component => exact absurd ((decode_eq_ok_iff hanswer).1 hdecode).1 hnot
  | error error => exact ⟨error, rfl, fun id => by rw [Compiler.compiled, hdecode]; rfl⟩

namespace Sample

/-- A script and a style written as arrays, a style with a field that is not known, and diagnostics
that are no texts. -/
def arrays : Json := .object [
  ("script", .array [.string "let a;", .null, .null,
    .array [.string "unused", .integer 42, .null, .string "late"], .bool true]),
  ("styles", .array [.object [("code", .string ".a"), ("extra", .null), ("scoped", .bool true)],
    .array [.string ".b"]]),
  ("template", .null)]

/-- The same parts written as objects. -/
def objects : Json := .object [
  ("script", .object [("content", .string "let a;"), ("lang", .null), ("map", .null),
    ("setup", .bool true),
    ("warnings", .array [.string "unused", .integer 42, .null, .string "late"])]),
  ("styles", .array [.object [("code", .string ".a"), ("extra", .null), ("scoped", .bool true)],
    .object [("code", .string ".b")]]),
  ("template", .null)]

/-- A style without its text. -/
def textless : Json := .object [("styles", .array [.object [("scoped", .bool true)]])]

/-- What the parts say. -/
def component : Component where
  script := some { content := "let a;", warnings := ["unused", "late"], isSetup := true }
  styles := [{ code := ".a", isScoped := true }, { code := ".b" }]

theorem ordered : arrays.Ordered ∧ objects.Ordered ∧ textless.Ordered := by
  refine ⟨.object ?_ (by decide), .object ?_ (by decide), .object ?_ (by decide)⟩
  all_goals repeat' first
    | exact .null
    | exact .bool _
    | exact .number _
    | exact .string _
    | refine .array ?_
    | refine .object ?_ (by decide)
    | refine List.forall_mem_cons.2 ⟨?_, ?_⟩
    | exact fun _ h => absurd h List.not_mem_nil

theorem sameParts : SameParts arrays objects where
  isObject := rfl
  script := .some (.forms ⟨.array (by decide), .object _, by
    simp only [ScriptPart.fieldNames, List.forall_mem_cons]
    exact ⟨rfl, rfl, rfl, rfl, rfl, fun _ h => absurd h List.not_mem_nil⟩⟩)
  template := .some (.refl .null)
  styles := .some (.items (.cons (.refl _) (.cons (.forms ⟨.array (by decide), .object _, by
    simp only [StylePart.fieldNames, List.forall_mem_cons]
    exact ⟨rfl, rfl, rfl, fun _ h => absurd h List.not_mem_nil⟩⟩) .nil)))

theorem isWritten : IsWritten objects where
  isObject := rfl
  script := .value ⟨.object _, ⟨_, rfl⟩, .null, .value (.items fun _ _ => trivial), .flag true⟩
  template := .null
  styles := .value (.items (List.forall_mem_cons.2 ⟨⟨.object _, ⟨_, rfl⟩, .flag true, .absent⟩,
    List.forall_mem_cons.2 ⟨⟨.object _, ⟨_, rfl⟩, .absent, .absent⟩,
      fun _ h => absurd h List.not_mem_nil⟩⟩))

theorem not_isWritten_textless : ¬IsWritten textless := by
  intro h
  rcases h.styles with _ | _ | ⟨⟨hitems⟩⟩
  obtain ⟨text, htext⟩ := (hitems _ List.mem_cons_self).code
  cases htext

end Sample

/-- Parts written as arrays are decoded as if they were written as objects, and a style without its
text makes an answer malformed. -/
theorem decode_exact_arrays :
    Sample.arrays.Ordered ∧ Sample.objects.Ordered ∧ Sample.textless.Ordered ∧
      decode Sample.objects = .ok Sample.component ∧
      decode Sample.arrays = .ok Sample.component ∧
      ∃ error, Compiler.compiled (.ok ⟨"1", Sample.textless⟩) =
        .error (.malformed (.component error)) := by
  obtain ⟨harrays, hobjects, htextless⟩ := Sample.ordered
  have hdecode : decode Sample.objects = .ok Sample.component :=
    ((decode_exact hobjects).1 _).2 ⟨Sample.isWritten, rfl⟩
  have hsame := (decode_exact harrays).2.2 _ hobjects Sample.sameParts Sample.component
  obtain ⟨error, -, herror⟩ := (decode_exact htextless).2.1 Sample.not_isWritten_textless
  exact ⟨harrays, hobjects, htextless, hdecode, hsame.2 hdecode, error, herror "1"⟩

end Component

end SfcBundler
