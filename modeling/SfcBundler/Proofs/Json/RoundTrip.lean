import Mathlib.Algebra.Group.Int.Defs
import Mathlib.Algebra.Group.Nat.Defs
import SfcBundler.Json.Reader
import SfcBundler.Proofs.Component.PartAddress
import SfcBundler.Proofs.Json.Literal

/-!
# Printed values read back

A value that is printed and read again is the same value, as long as its integers are in the range
of numbers and its objects have their fields in order. It is printed in one line, whatever texts
there are in it.

## Main definitions

* `Json.Writable`: values that can be printed and read again
* `Json.ReadsBack`: a value that is read wherever it stands

## Main results

* `Json.readString_inner`: a text between quotes is read as the text
* `Json.readNumber_writeInt`: an integer is read as the integer
* `Json.parse_print`: what is printed is read back
* `Json.writable_ofFields`: objects made of fields can be printed
* `Json.Writable.isLine_write`: a value is printed in one line
-/

namespace SfcBundler.Json

/-! ### Texts between quotes -/

theorem readString_letter {letter c : Char} (hletter : letter ≠ 'u') (hc : unescape? letter = some c)
    (rest : List Char) : readString ('\\' :: letter :: rest) = consRead c (readString rest) := by
  rw [readString, hc]
  intro _ _ _ _ _ hunit
  exact absurd hunit hletter

theorem readString_unit {a b c d : Char} {unit : Nat} (hunit : unit? a b c d = some unit)
    (hlow : unit < 0xD800) (rest : List Char) :
    readString ('\\' :: 'u' :: a :: b :: c :: d :: rest) =
      consRead (Char.ofNat unit) (readString rest) := by
  rw [readString.eq_def]
  simp only [hunit]
  rw [if_neg (by simp; omega), if_neg (by simp; omega)]

theorem readString_bare {c : Char} (hquote : c ≠ '\x22') (hback : c ≠ '\\')
    (hcontrol : 0x20 ≤ c.toNat) (rest : List Char) :
    readString (c :: rest) = consRead c (readString rest) := by
  rw [readString, if_neg hquote, if_neg (by simp [hback]; omega)]
  · rintro a b d e more rfl
    exact absurd rfl hback
  · rintro d more rfl
    exact absurd rfl hback

/-- A control below the blank has an escape of four digits, if it has no letter. -/
theorem unit?_control {c : Char} (h : c.toNat < 0x20) :
    unit? '0' '0' (hexDigit (c.toNat / 16)) (hexDigit (c.toNat % 16)) = some c.toNat := by
  have hall : ∀ n < 0x20, unit? '0' '0' (hexDigit (n / 16)) (hexDigit (n % 16)) = some n := by
    decide
  exact hall c.toNat h

/-- An escaped character is read as the character. -/
theorem readString_escape (c : Char) (rest : List Char) :
    readString (escape c ++ rest) = consRead c (readString rest) := by
  -- each letter is read as what it stands for
  have hletters : ∀ entry ∈ escapeLetters, entry.1 ≠ 'u' ∧ unescape? entry.1 = some entry.2 := by
    decide
  have hform := isEscape_escape c
  generalize escape c = form at hform ⊢
  cases hform with
  | letter hletter =>
    obtain ⟨hunit, hread⟩ := hletters _ hletter
    exact readString_letter hunit hread rest
  | unit hcontrol =>
    have hread := readString_unit (unit?_control hcontrol) (by omega) rest
    rwa [Char.ofNat_toNat] at hread
  | bare hquote hback hcontrol => exact readString_bare hquote hback hcontrol rest

/-- A text between quotes is read as the text. -/
theorem readString_inner (text rest : List Char) :
    readString (inner text ++ '\x22' :: rest) = .ok (text, rest) := by
  induction text with
  | nil => rw [inner_nil, List.nil_append, readString] <;> simp
  | cons c text ih =>
    rw [inner_cons, List.append_assoc, readString_escape, ih]
    rfl

/-! ### Integers -/

/-- What may follow a value: nothing, or what stands behind the items of an array and the fields of
an object. -/
def Ends (rest : List Char) : Prop := ∀ c ∈ rest.head?, c = ',' ∨ c = ']' ∨ c = '\x7d'

theorem ends_nil : Ends [] := by
  intro c hc
  cases hc

theorem ends_comma (rest : List Char) : Ends (',' :: rest) := by simp [Ends]

theorem ends_bracket (rest : List Char) : Ends (']' :: rest) := by simp [Ends]

theorem ends_brace (rest : List Char) : Ends ('\x7d' :: rest) := by simp [Ends]

theorem Ends.cases {rest : List Char} (h : Ends rest) :
    rest = [] ∨ ∃ c more, rest = c :: more ∧ (c = ',' ∨ c = ']' ∨ c = '\x7d') := by
  cases rest with
  | nil => exact .inl rfl
  | cons c more => exact .inr ⟨c, more, rfl, h c rfl⟩

theorem readDigits_append {digits rest : List Char} (hne : digits ≠ [])
    (hdigits : ∀ c ∈ digits, c.isDigit) (hrest : Ends rest) :
    readDigits (digits ++ rest) = .ok (digits, rest) := by
  have hnone : rest.takeWhile Char.isDigit = [] ∧ rest.dropWhile Char.isDigit = rest := by
    rcases hrest.cases with rfl | ⟨c, more, rfl, rfl | rfl | rfl⟩ <;> exact ⟨rfl, rfl⟩
  rw [readDigits, List.takeWhile_append_of_pos hdigits, List.dropWhile_append_of_pos hdigits,
    hnone.1, hnone.2, List.append_nil]
  split
  · contradiction
  · rfl

/-- The number of a sign and digits that do not start with a zero. -/
theorem readNumber_append (policy : ReadPolicy) (negative : Bool) {digits rest : List Char}
    (hne : digits ≠ []) (hdigits : ∀ c ∈ digits, c.isDigit)
    (hzero : digits.length > 1 → digits.head? ≠ some '0') (hrest : Ends rest) :
    readNumber policy ((if negative then ['-'] else []) ++ digits ++ rest) =
      (policy.number ⟨negative, digits, none, none⟩).map (·, rest) := by
  have hread := readDigits_append hne hdigits hrest
  -- the first digit is no sign, and what follows is neither a fraction nor an exponent
  obtain ⟨c, more, rfl⟩ := List.exists_cons_of_ne_nil hne
  have hsign : c ≠ '-' := by
    rintro rfl
    exact absurd (hdigits '-' List.mem_cons_self) (by decide)
  have hplain : ¬ (0 < more.length ∧ c = '0') := by
    simpa using hzero
  have hpoint : ∀ more, rest = '.' :: more → False := by
    rintro more rfl
    simpa using hrest '.' rfl
  have hexponent : readExponent rest = .ok (none, rest) := by
    rcases hrest.cases with rfl | ⟨d, tail, rfl, rfl | rfl | rfl⟩ <;> rfl
  rw [List.cons_append] at hread
  have hnumber (negative : Bool) :
      (do return (← policy.number ⟨negative, c :: more, none, none⟩, rest)) =
        (policy.number ⟨negative, c :: more, none, none⟩).map (·, rest) := by
    cases policy.number _ <;> rfl
  simp only [bind, Except.bind] at hnumber
  cases negative <;>
    simp [readNumber, hread, hplain, hsign, hexponent, bind, Except.bind, hnumber]

/-- The digits of a number other than zero do not start with a zero. -/
theorem head?_toDigits {n : Nat} (h : n ≠ 0) : (Nat.toDigits 10 n).head? ≠ some '0' := by
  induction n using Nat.strongRecOn with
  | ind n ih =>
    rw [Nat.toDigits_eq_if (by decide)]
    split
    · have hall : ∀ digit < 10, digit ≠ 0 → digit.digitChar ≠ '0' := by decide
      simpa using hall n ‹_› h
    · have hhead := ih (n / 10) (Nat.div_lt_self (by omega) (by decide)) (by omega)
      rwa [List.head?_append_of_ne_nil _ Nat.toDigits_ne_nil]

theorem le_ofDigitChars (digits : List Char) (value : Nat) :
    value ≤ Nat.ofDigitChars 10 digits value := by
  induction digits generalizing value with
  | nil => exact Nat.le_refl value
  | cons c rest ih =>
    rw [Nat.ofDigitChars_cons]
    exact Nat.le_trans (by omega) (ih _)

/-- Digits that fit are all taken. -/
theorem takeWhole_of_le {digits : List Char} {value : Nat}
    (h : Nat.ofDigitChars 10 digits value ≤ Numeral.maxSignificand) :
    Numeral.takeWhole value digits = (Nat.ofDigitChars 10 digits value, 0) := by
  induction digits generalizing value with
  | nil => rfl
  | cons c rest ih =>
    rw [Nat.ofDigitChars_cons] at h ⊢
    rw [Nat.mul_comm] at h ⊢
    have hnext : value * 10 + Numeral.digitValue c ≤ Numeral.maxSignificand :=
      Nat.le_trans (le_ofDigitChars rest _) h
    rw [Numeral.takeWhole, if_neg (Nat.not_lt.2 hnext)]
    exact ih h

/-- An integer of the range of numbers. -/
def InRange (value : Int) : Prop := -2 ^ 63 ≤ value ∧ value < 2 ^ 64

theorem toNumber?_digits {value : Int} (h : InRange value) :
    (Numeral.mk (decide (value < 0)) (Nat.toDigits 10 value.natAbs) none none).toNumber? =
      some (.integer value) := by
  obtain ⟨hlow, hhigh⟩ := h
  have hmax : Numeral.maxSignificand = 18446744073709551615 := rfl
  have hvalue : Nat.ofDigitChars 10 (Nat.toDigits 10 value.natAbs) 0 = value.natAbs :=
    Nat.ofDigitChars_ten_toDigits
  -- a number in range is no longer than what is read exactly
  have htaken : Numeral.takeWhole 0 (Nat.toDigits 10 value.natAbs) = (value.natAbs, 0) := by
    rw [takeWhole_of_le (by rw [hvalue, hmax]; omega), hvalue]
  have hfits : value < 0 → 0 < value.natAbs ∧ value.natAbs ≤ Nat.pow 2 63 := by
    intro hnegative
    have hpow : Nat.pow 2 63 = 9223372036854775808 := rfl
    omega
  have hsigned : (if value < 0 then -(value.natAbs : Int) else value.natAbs) = value := by
    split <;> omega
  simp only [Numeral.toNumber?, htaken, decide_true, Bool.true_and, decide_eq_true_eq, hsigned]
  refine if_pos ?_
  rw [Bool.or_eq_true, Bool.and_eq_true, Bool.not_eq_true', decide_eq_false_iff_not,
    decide_eq_true_eq, decide_eq_true_eq]
  by_cases hnegative : value < 0
  · exact .inr (hfits hnegative)
  · exact .inl hnegative

/-- A printed integer is read as the integer. -/
theorem readNumber_writeInt {value : Int} (h : InRange value) {rest : List Char}
    (hrest : Ends rest) :
    readNumber .strict (writeInt value ++ rest) = .ok (integer value, rest) := by
  have hdigits : ∀ c ∈ Nat.toDigits 10 value.natAbs, c.isDigit := fun c hc =>
    Nat.isDigit_of_mem_toDigits (by decide) (by decide) hc
  have hzero : (Nat.toDigits 10 value.natAbs).length > 1 →
      (Nat.toDigits 10 value.natAbs).head? ≠ some '0' := by
    intro hlong
    apply head?_toDigits
    intro hnone
    rw [hnone] at hlong
    exact absurd hlong (by decide)
  have hread := readNumber_append .strict (decide (value < 0)) Nat.toDigits_ne_nil hdigits hzero
    hrest
  have hnumber := toNumber?_digits h
  simp only [decide_eq_true_eq] at hread
  rw [writeInt, hread]
  simp only [ReadPolicy.strict, numeralInRange, hnumber]
  rfl

/-! ### Values -/

/-- A value that can be printed and read again: with integers that are in range, the fields of its
objects in order, and no more than `depth` arrays and objects open at one place. -/
inductive Writable : Nat → Json → Prop
  | null {depth : Nat} : Writable depth null
  | bool {depth : Nat} (value : Bool) : Writable depth (bool value)
  | integer {depth : Nat} {value : Int} : InRange value → Writable depth (integer value)
  | string {depth : Nat} (text : String) : Writable depth (string text)
  | array {depth : Nat} {items : List Json} : (∀ item ∈ items, Writable depth item) →
    Writable (depth + 1) (array items)
  | object {depth : Nat} {fields : List (String × Json)} :
    (∀ field ∈ fields, Writable depth field.2) → fields.Pairwise (·.1 < ·.1) →
    Writable (depth + 1) (object fields)

/-- Fields put in that stand behind all others are put at the end. -/
theorem insertField_of_forall_lt {name : String} {value : Json} {fields : List (String × Json)}
    (h : ∀ field ∈ fields, field.1 < name) :
    insertField name value fields = fields ++ [(name, value)] := by
  induction fields with
  | nil => rfl
  | cons field rest ih =>
    have hbefore : field.1 < name := h field List.mem_cons_self
    have hne : name ≠ field.1 := by
      rintro rfl
      exact String.lt_irrefl _ hbefore
    rw [insertField, if_neg hne, if_neg (String.lt_asymm hbefore),
      ih fun other hother => h other (List.mem_cons_of_mem field hother)]
    rfl

/-- A text that begins with neither a blank nor a closing bracket. -/
def Starts (text : List Char) : Prop :=
  ∃ c rest, text = c :: rest ∧ c ∉ [' ', '\t', '\n', '\r', ']', '\x7d']

theorem Starts.skipBlank_append {text : List Char} (h : Starts text) (rest : List Char) :
    skipBlank (text ++ rest) = text ++ rest := by
  obtain ⟨c, more, rfl, hc⟩ := h
  have hblank : ¬ (c = ' ' ∨ c = '\t' ∨ c = '\n' ∨ c = '\r') := by
    intro hblank
    apply hc
    rcases hblank with rfl | rfl | rfl | rfl <;> decide
  rw [skipBlank, List.cons_append, List.dropWhile_cons_of_neg]
  simpa [or_assoc] using hblank

theorem Starts.ne_cons {text : List Char} (h : Starts text) {c : Char}
    (hc : c ∈ [' ', '\t', '\n', '\r', ']', '\x7d']) (rest tail : List Char) :
    text ++ rest ≠ c :: tail := by
  obtain ⟨d, more, rfl, hd⟩ := h
  intro heq
  rw [(List.cons.inj heq).1] at hd
  exact hd hc

theorem Starts.length_pos {text : List Char} (h : Starts text) : 0 < text.length := by
  obtain ⟨c, rest, rfl, -⟩ := h
  simp

/-- A value that is read back wherever it stands, given enough fuel. -/
structure ReadsBack (depth : Nat) (value : Json) : Prop where
  starts : Starts value.write
  reads : ∀ fuel rest, 2 * value.write.length ≤ fuel + 1 → Ends rest →
    readValue .strict fuel depth (value.write ++ rest) = .ok (value, rest)

/-- There is fuel for a first step. -/
theorem readsBack_of_succ {depth : Nat} {value : Json} (hstarts : Starts value.write)
    (h : ∀ fuel rest, 2 * value.write.length ≤ fuel + 2 → Ends rest →
      readValue .strict (fuel + 1) depth (value.write ++ rest) = .ok (value, rest)) :
    ReadsBack depth value where
  starts := hstarts
  reads fuel rest hfuel hrest := by
    have hlength := hstarts.length_pos
    obtain ⟨more, rfl⟩ : ∃ more, fuel = more + 1 := ⟨fuel - 1, by omega⟩
    exact h more rest hfuel hrest

theorem readsBack_null (depth : Nat) : ReadsBack depth null := by
  refine readsBack_of_succ ⟨_, _, rfl, by decide⟩ fun fuel rest _ _ => ?_
  rfl

theorem readsBack_bool (depth : Nat) (value : Bool) : ReadsBack depth (bool value) := by
  cases value
  · refine readsBack_of_succ ⟨_, _, rfl, by decide⟩ fun fuel rest _ _ => ?_
    rfl
  · refine readsBack_of_succ ⟨_, _, rfl, by decide⟩ fun fuel rest _ _ => ?_
    rfl

theorem readsBack_string (depth : Nat) (text : String) : ReadsBack depth (string text) := by
  refine readsBack_of_succ ⟨_, _, rfl, by decide⟩ fun fuel rest _ _ => ?_
  have hread := readString_inner text.toList rest
  have hwrite : (string text).write ++ rest = '\x22' :: (inner text.toList ++ '\x22' :: rest) := by
    simp [write, writeWith, quote_eq_inner]
  rw [hwrite]
  change (readString _).map _ = _
  rw [hread]
  simp [Except.map]

theorem exists_writeInt_eq (value : Int) :
    ∃ c rest, writeInt value = c :: rest ∧ (c = '-' ∨ c.isDigit) := by
  rw [writeInt]
  split
  · exact ⟨_, _, rfl, .inl rfl⟩
  · obtain ⟨c, rest, hdigits⟩ := List.exists_cons_of_ne_nil
      (Nat.toDigits_ne_nil (n := value.natAbs) (b := 10))
    have hc : c ∈ Nat.toDigits 10 value.natAbs := by simp [hdigits]
    rw [hdigits]
    exact ⟨c, rest, rfl, .inr (Nat.isDigit_of_mem_toDigits (by decide) (by decide) hc)⟩

theorem readsBack_integer (depth : Nat) {value : Int} (h : InRange value) :
    ReadsBack depth (integer value) := by
  obtain ⟨c, more, hwrite, hc⟩ := exists_writeInt_eq value
  -- neither a sign nor a digit begins any other value
  have hne {d : Char} (hminus : d ≠ '-') (hdigit : d.isDigit = false) : c ≠ d := by
    rintro rfl
    simp [hminus, hdigit] at hc
  have hstarts : Starts (integer value).write := by
    refine ⟨c, more, hwrite, ?_⟩
    simp only [List.mem_cons, List.not_mem_nil, or_false, not_or]
    exact ⟨hne (by decide) rfl, hne (by decide) rfl, hne (by decide) rfl, hne (by decide) rfl,
      hne (by decide) rfl, hne (by decide) rfl⟩
  refine readsBack_of_succ hstarts fun fuel rest _ hrest => ?_
  have hread : readNumber .strict ((integer value).write ++ rest) = .ok (integer value, rest) :=
    readNumber_writeInt h hrest
  have hhead {d : Char} {tail : List Char} (htext : (integer value).write ++ rest = d :: tail) :
      c = d := by
    rw [show (integer value).write = c :: more from hwrite] at htext
    exact (List.cons.inj htext).1
  rw [readValue, hstarts.skipBlank_append]
  split
  case h_7 => exact hread
  -- the other cases are of texts that begin with a character of their own
  all_goals exact absurd (hhead ‹_›) (hne (by decide) rfl)

/-! Arrays and objects, one item or field after the other -/

theorem starts_writeItems {depth : Nat} {item : Json} (items : List Json)
    (h : ReadsBack depth item) : Starts (writeItems JsonNumber.write (item :: items)) := by
  obtain ⟨c, rest, hwrite, hc⟩ := h.starts
  rw [write] at hwrite
  cases items with
  | nil => exact ⟨c, rest, by rw [writeItems, hwrite], hc⟩
  | cons next more => exact ⟨c, _, by rw [writeItems, hwrite]; rfl, hc⟩

theorem readItems_write {depth : Nat} {items : List Json} (hne : items ≠ [])
    (h : ∀ item ∈ items, ReadsBack depth item) {fuel : Nat} (rest : List Char)
    (hfuel : 2 * (writeItems JsonNumber.write items).length ≤ fuel) :
    readItems .strict fuel depth (writeItems JsonNumber.write items ++ ']' :: rest) =
      .ok (items, rest) := by
  induction items generalizing fuel with
  | nil => contradiction
  | cons item items ih =>
    have hitem := h item List.mem_cons_self
    -- every item takes some text, so the bound leaves fuel for what follows it
    have hlength := (starts_writeItems items hitem).length_pos
    obtain ⟨fuel, rfl⟩ : ∃ more, fuel = more + 1 := ⟨fuel - 1, by omega⟩
    cases items with
    | nil =>
      rw [writeItems] at hfuel ⊢
      have hread := hitem.reads fuel (']' :: rest) hfuel (ends_bracket rest)
      rw [write] at hread
      rw [readItems, hread]
      rfl
    | cons next more =>
      rw [writeItems, List.length_append, List.length_cons] at hfuel
      rw [writeItems, List.append_assoc, List.cons_append]
      have hread := hitem.reads fuel (',' :: (writeItems JsonNumber.write (next :: more) ++
        ']' :: rest)) (by rw [write]; omega) (ends_comma _)
      have hrest : readItems .strict fuel depth (writeItems JsonNumber.write (next :: more) ++
          ']' :: rest) = .ok (next :: more, rest) :=
        ih (List.cons_ne_nil next more)
          (fun other hother => h other (List.mem_cons_of_mem item hother)) (by omega)
      rw [write] at hread
      rw [readItems, hread]
      change (readItems .strict fuel depth _ >>= _) = _
      rw [hrest]
      rfl

theorem readValue_array {fuel depth : Nat} {text : List Char} (h : Starts text) (rest : List Char) :
    readValue .strict (fuel + 1) (depth + 1) ('[' :: (text ++ rest)) =
      (readItems .strict fuel depth (text ++ rest)).map fun (items, rest) => (array items, rest) := by
  have hskip : skipBlank ('[' :: (text ++ rest)) = '[' :: (text ++ rest) := rfl
  simp only [readValue, hskip, h.skipBlank_append]
  split
  · exact absurd ‹_› (h.ne_cons (by decide) _ _)
  · rfl

theorem readsBack_array {depth : Nat} {items : List Json}
    (h : ∀ item ∈ items, ReadsBack depth item) : ReadsBack (depth + 1) (array items) := by
  refine readsBack_of_succ ⟨_, _, by rw [write, writeWith]; rfl, by decide⟩
    fun fuel rest hfuel _ => ?_
  rw [write, writeWith] at hfuel ⊢
  cases items with
  | nil => rfl
  | cons item more =>
    simp only [List.cons_append, List.append_assoc, List.nil_append, List.length_cons,
      List.length_append, List.length_nil] at hfuel ⊢
    have hstarts := starts_writeItems more (h item List.mem_cons_self)
    have hread : readItems .strict fuel depth (writeItems JsonNumber.write (item :: more) ++
        ']' :: rest) = .ok (item :: more, rest) :=
      readItems_write (List.cons_ne_nil item more) h rest (by omega)
    rw [readValue_array hstarts, hread]
    rfl

theorem starts_writeFields (name : String) (value : Json) (fields : List (String × Json)) :
    Starts (writeFields JsonNumber.write ((name, value) :: fields)) := by
  cases fields with
  | nil => exact ⟨'\x22', _, by rw [writeFields, quote_eq_inner]; rfl, by decide⟩
  | cons next more => exact ⟨'\x22', _, by rw [writeFields, quote_eq_inner]; rfl, by decide⟩

/-- One field is read, and then what follows it. -/
theorem readFields_field {depth fuel : Nat} {name : String} {value : Json} {rest : List Char}
    (h : ReadsBack depth value) (done : List (String × Json))
    (hfuel : 2 * value.write.length ≤ fuel + 1) (hrest : Ends rest) :
    readFields .strict (fuel + 1) depth done (quote name.toList ++ ':' :: value.write ++ rest) =
      match rest with
      | '\x7d' :: rest => .ok (insertField name value done, rest)
      | ',' :: rest => readFields .strict fuel depth (insertField name value done) rest
      | _ => .error .malformed := by
  have hname := readString_inner name.toList (':' :: (value.write ++ rest))
  have hvalue := h.reads fuel rest hfuel hrest
  have htext : quote name.toList ++ ':' :: value.write ++ rest =
      '\x22' :: (inner name.toList ++ '\x22' :: ':' :: (value.write ++ rest)) := by
    simp [quote_eq_inner]
  rw [htext]
  change (readString (inner name.toList ++ '\x22' :: ':' :: (value.write ++ rest)) >>= _) = _
  rw [hname]
  change (readValue .strict fuel depth (value.write ++ rest) >>= _) = _
  rw [hvalue, String.ofList_toList]
  rcases hrest.cases with rfl | ⟨c, more, rfl, rfl | rfl | rfl⟩ <;> rfl

theorem readFields_write {depth : Nat} {fields : List (String × Json)} (hne : fields ≠ [])
    (h : ∀ field ∈ fields, ReadsBack depth field.2) {fuel : Nat} (done : List (String × Json))
    (rest : List Char) (hfuel : 2 * (writeFields JsonNumber.write fields).length ≤ fuel) :
    readFields .strict fuel depth done (writeFields JsonNumber.write fields ++ '\x7d' :: rest) =
      .ok (fields.foldl (fun done entry => insertField entry.1 entry.2 done) done, rest) := by
  induction fields generalizing fuel done with
  | nil => contradiction
  | cons field fields ih =>
    obtain ⟨name, value⟩ := field
    have hvalue : ReadsBack depth value := h (name, value) List.mem_cons_self
    -- the fuel is enough for the same reason as with items
    have hlength := (starts_writeFields name value fields).length_pos
    obtain ⟨fuel, rfl⟩ : ∃ more, fuel = more + 1 := ⟨fuel - 1, by omega⟩
    cases fields with
    | nil =>
      rw [writeFields] at hfuel ⊢
      rw [List.length_append, List.length_cons] at hfuel
      rw [← write, readFields_field hvalue done (by rw [write]; omega) (ends_brace rest)]
      rfl
    | cons next more =>
      rw [writeFields] at hfuel ⊢
      simp only [List.length_append, List.length_cons] at hfuel
      have hrest : readFields .strict fuel depth (insertField name value done) _ = _ :=
        ih (List.cons_ne_nil next more) (fun other hother => h other (List.mem_cons_of_mem _ hother))
          (insertField name value done) (by omega)
      have htext : quote name.toList ++ ':' :: value.writeWith JsonNumber.write ++
          ',' :: writeFields JsonNumber.write (next :: more) ++ '\x7d' :: rest =
          quote name.toList ++ ':' :: value.write ++
            (',' :: (writeFields JsonNumber.write (next :: more) ++ '\x7d' :: rest)) := by
        simp [write]
      rw [htext, readFields_field hvalue done (by rw [write]; omega) (ends_comma _)]
      exact hrest

theorem readValue_object {fuel depth : Nat} {text : List Char} (h : Starts text)
    (rest : List Char) : readValue .strict (fuel + 1) (depth + 1) ('\x7b' :: (text ++ rest)) =
      (readFields .strict fuel depth [] (text ++ rest)).map
        fun (fields, rest) => (object fields, rest) := by
  have hskip : skipBlank ('\x7b' :: (text ++ rest)) = '\x7b' :: (text ++ rest) := rfl
  simp only [readValue, hskip, h.skipBlank_append]
  split
  · exact absurd ‹_› (h.ne_cons (by decide) _ _)
  · rfl

/-- Fields in order are put in one behind the other. -/
theorem foldl_insertField {done fields : List (String × Json)}
    (h : (done ++ fields).Pairwise (·.1 < ·.1)) :
    fields.foldl (fun done entry => insertField entry.1 entry.2 done) done = done ++ fields := by
  induction fields generalizing done with
  | nil => simp
  | cons field rest ih =>
    obtain ⟨name, value⟩ := field
    have hlast : ∀ field ∈ done, field.1 < name := by
      intro field hfield
      exact (List.pairwise_append.1 h).2.2 field hfield (name, value) List.mem_cons_self
    rw [List.foldl_cons, insertField_of_forall_lt hlast, ih (by simpa using h)]
    simp

theorem readsBack_object {depth : Nat} {fields : List (String × Json)}
    (h : ∀ field ∈ fields, ReadsBack depth field.2) (hsorted : fields.Pairwise (·.1 < ·.1)) :
    ReadsBack (depth + 1) (object fields) := by
  refine readsBack_of_succ ⟨_, _, by rw [write, writeWith]; rfl, by decide⟩
    fun fuel rest hfuel _ => ?_
  rw [write, writeWith] at hfuel ⊢
  cases fields with
  | nil => rfl
  | cons field more =>
    simp only [List.cons_append, List.append_assoc, List.nil_append, List.length_cons,
      List.length_append, List.length_nil] at hfuel ⊢
    have hread : readFields .strict fuel depth [] (writeFields JsonNumber.write (field :: more) ++
        '\x7d' :: rest) = .ok (_, rest) :=
      readFields_write (List.cons_ne_nil field more) h [] rest (by omega)
    rw [readValue_object (starts_writeFields field.1 field.2 more), hread,
      foldl_insertField (by simpa using hsorted)]
    rfl

theorem Writable.readsBack {depth : Nat} {value : Json} (h : Writable depth value) :
    ReadsBack depth value := by
  induction h with
  | null => exact readsBack_null _
  | bool value => exact readsBack_bool _ value
  | integer hrange => exact readsBack_integer _ hrange
  | string text => exact readsBack_string _ text
  | array _ ih => exact readsBack_array ih
  | object _ hsorted ih => exact readsBack_object ih hsorted

/-- What is printed is read back. -/
theorem parse_print {value : Json} (h : Writable 127 value) : parse value.print = .ok value := by
  have hread := h.readsBack.reads (2 * value.write.length + 2) [] (by omega) ends_nil
  rw [List.append_nil] at hread
  rw [parse, parseText, parseWith, print, String.toList_ofList,
    show ReadPolicy.strict.maxDepth = 127 from rfl, hread]
  rfl

/-! ### Objects made of fields -/

theorem mem_insertField {name : String} {value : Json} {fields : List (String × Json)}
    {field : String × Json} (h : field ∈ insertField name value fields) :
    field = (name, value) ∨ field ∈ fields := by
  induction fields with
  | nil => exact .inl (by simpa [insertField] using h)
  | cons other rest ih =>
    rw [insertField] at h
    split at h
    · rcases List.mem_cons.1 h with h | h
      · exact .inl h
      · exact .inr (List.mem_cons_of_mem other h)
    split at h
    · exact (List.mem_cons.1 h).imp_right id
    · rcases List.mem_cons.1 h with rfl | h
      · exact .inr List.mem_cons_self
      · exact (ih h).imp_right (List.mem_cons_of_mem other)

theorem pairwise_insertField {name : String} {value : Json} {fields : List (String × Json)}
    (h : fields.Pairwise (·.1 < ·.1)) : (insertField name value fields).Pairwise (·.1 < ·.1) := by
  induction fields with
  | nil => exact List.pairwise_singleton _ _
  | cons other rest ih =>
    obtain ⟨hother, hrest⟩ := List.pairwise_cons.1 h
    rw [insertField]
    split
    · subst name
      exact List.pairwise_cons.2 ⟨hother, hrest⟩
    split
    · refine List.pairwise_cons.2 ⟨fun field hfield => ?_, h⟩
      rcases List.mem_cons.1 hfield with rfl | hfield
      · assumption
      · exact String.lt_trans ‹_› (hother field hfield)
    · refine List.pairwise_cons.2 ⟨fun field hfield => ?_, ih hrest⟩
      rcases mem_insertField hfield with rfl | hfield
      · -- names other than this one that do not stand in front of it stand behind it
        grind
      · exact hother field hfield

/-- Fields with values that can be printed make an object that can. -/
theorem writable_ofFields {depth : Nat} {fields : List (String × Json)}
    (h : ∀ field ∈ fields, Writable depth field.2) : Writable (depth + 1) (ofFields fields) := by
  suffices hall : ∀ done : List (String × Json), (∀ field ∈ done, Writable depth field.2) →
      done.Pairwise (·.1 < ·.1) →
      Writable (depth + 1) (object
        (fields.foldl (fun done entry => insertField entry.1 entry.2 done) done)) from
    hall [] (by simp) .nil
  induction fields with
  | nil => exact fun done hdone hsorted => .object hdone hsorted
  | cons field rest ih =>
    obtain ⟨hfield, hrest⟩ := List.forall_mem_cons.1 h
    intro done hdone hsorted
    refine ih hrest _ (fun other hother => ?_) (pairwise_insertField hsorted)
    rcases mem_insertField hother with rfl | hother
    · exact hfield
    · exact hdone other hother

/-! ### Lines -/

/-- A text without controls, and so without line ends. -/
def IsLine (text : List Char) : Prop := ∀ c ∈ text, 0x20 ≤ c.toNat

@[simp]
theorem isLine_cons {c : Char} {text : List Char} :
    IsLine (c :: text) ↔ 0x20 ≤ c.toNat ∧ IsLine text :=
  List.forall_mem_cons

@[simp]
theorem isLine_append {front back : List Char} :
    IsLine (front ++ back) ↔ IsLine front ∧ IsLine back :=
  List.forall_mem_append

theorem isLine_nil : IsLine [] := by
  intro c hc
  cases hc

theorem IsPlain.isLine {text : List Char} (h : IsPlain text) : IsLine text := by
  intro c hc
  exact (h c hc).2.2.2

theorem isLine_escape (c : Char) : IsLine (escape c) := by
  by_cases hback : c = '\\'
  · subst hback
    exact isLine_cons.2 ⟨by decide, isLine_cons.2 ⟨by decide, isLine_nil⟩⟩
  · rcases escape_cases hback with ⟨heq, -, hcontrol⟩ | ⟨-, heq⟩ | ⟨d, tail, heq, hplain, -⟩
    · rw [heq]
      exact isLine_cons.2 ⟨hcontrol, isLine_nil⟩
    · rw [heq]
      exact isLine_cons.2 ⟨by decide, isLine_cons.2 ⟨by decide, isLine_nil⟩⟩
    · rw [heq]
      exact isLine_cons.2 ⟨by decide, hplain.isLine⟩

theorem isLine_quote (text : List Char) : IsLine (quote text) := by
  have hinner : IsLine (inner text) := by
    intro c hc
    obtain ⟨d, -, hd⟩ := List.mem_flatMap.1 hc
    exact isLine_escape d c hd
  rw [quote_eq_inner]
  simp [hinner, isLine_nil]

theorem isLine_writeInt (value : Int) : IsLine (writeInt value) := by
  have hdigits := (isPlain_toDigits (by decide) (by decide) value.natAbs : IsPlain (Nat.toDigits 10 _))
  rw [writeInt]
  split
  · simp [hdigits.isLine]
  · simp [hdigits.isLine]

theorem isLine_writeItems {items : List Json} (h : ∀ item ∈ items, IsLine item.write) :
    IsLine (writeItems JsonNumber.write items) := by
  induction items with
  | nil => exact isLine_nil
  | cons item items ih =>
    obtain ⟨hitem, hitems⟩ := List.forall_mem_cons.1 h
    cases items with
    | nil => exact hitem
    | cons next more =>
      rw [writeItems, isLine_append, isLine_cons]
      exact ⟨hitem, by decide, ih hitems⟩

theorem isLine_writeFields {fields : List (String × Json)}
    (h : ∀ field ∈ fields, IsLine field.2.write) :
    IsLine (writeFields JsonNumber.write fields) := by
  induction fields with
  | nil => exact isLine_nil
  | cons field fields ih =>
    obtain ⟨hfield, hfields⟩ := List.forall_mem_cons.1 h
    cases fields with
    | nil =>
      rw [writeFields, isLine_append, isLine_cons]
      exact ⟨isLine_quote _, by decide, hfield⟩
    | cons next more =>
      rw [writeFields, isLine_append, isLine_append, isLine_cons, isLine_cons]
      exact ⟨⟨isLine_quote _, by decide, hfield⟩, by decide, ih hfields⟩

/-- A value is printed in one line. -/
theorem Writable.isLine_write {depth : Nat} {value : Json} (h : Writable depth value) :
    IsLine value.write := by
  induction h with
  | null => exact IsPlain.isLine (by decide)
  | bool value => cases value <;> exact IsPlain.isLine (by decide)
  | integer _ => exact isLine_writeInt _
  | string text => exact isLine_quote _
  | array _ ih =>
    rw [write, writeWith]
    simp [isLine_writeItems ih, isLine_nil]
  | object _ _ ih =>
    rw [write, writeWith]
    simp [isLine_writeFields ih, isLine_nil]

end SfcBundler.Json
