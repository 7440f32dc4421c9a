import SfcBundler.Proofs.Files.Ways
import SfcBundler.Proofs.Json.RoundTrip

/-!
# Fields in order

A reader puts each field where its name belongs, so the fields of every object that is read stand in
the order of their names, and no two of them have the same name.

## Main definitions

* `Json.Ordered`: a value in which all fields stand in the order of their names
* `Json.ReadsOrdered`: what is said of a reader's steps

## Main results

* `Json.ordered_of_parseText`: a value that is read is ordered
* `Json.Ordered.of_field?`: the fields of an ordered value are ordered
-/

namespace SfcBundler.Json

/-- A value in which the fields of each object stand in the order of their names, each name once. -/
inductive Ordered : Json → Prop
  | null : Ordered null
  | bool (value : Bool) : Ordered (bool value)
  | number (value : JsonNumber) : Ordered (number value)
  | string (text : String) : Ordered (string text)
  | array {items : List Json} : (∀ item ∈ items, Ordered item) → Ordered (array items)
  | object {fields : List (String × Json)} : (∀ field ∈ fields, Ordered field.2) →
    fields.Pairwise (·.1 < ·.1) → Ordered (object fields)

/-- Fields that make an ordered object. -/
structure AreOrdered (fields : List (String × Json)) : Prop where
  values : ∀ field ∈ fields, Ordered field.2
  names : fields.Pairwise (·.1 < ·.1)

theorem areOrdered_nil : AreOrdered [] := ⟨by simp, .nil⟩

theorem AreOrdered.insertField {fields : List (String × Json)} (h : AreOrdered fields)
    {value : Json} (hvalue : Ordered value) (name : String) :
    AreOrdered (insertField name value fields) where
  values field hfield := by
    rcases mem_insertField hfield with rfl | hfield
    · exact hvalue
    · exact h.values field hfield
  names := pairwise_insertField h.names

theorem Ordered.areOrdered {fields : List (String × Json)} (h : Ordered (.object fields)) :
    AreOrdered fields := by
  cases h with
  | object hvalues hnames => exact ⟨hvalues, hnames⟩

/-- A field of an ordered value is ordered. -/
theorem Ordered.of_field? {value found : Json} {name : String} (h : Ordered value)
    (hfield : value.field? name = some found) : Ordered found := by
  cases value with
  | object fields =>
    obtain ⟨front, back, rfl, -⟩ := List.lookup_eq_some_iff.1 hfield
    exact h.areOrdered.values (name, found) (by simp)
  | _ => cases hfield

/-! ### Reading -/

section Read

variable {text rest : List Char} {value : Json}

theorem exists_of_map_eq_ok {α β : Type} {read : Except ReadError α} {make : α → β} {made : β}
    (h : read.map make = .ok made) : ∃ found, read = .ok found ∧ make found = made := by
  cases read with
  | error error => cases h
  | ok found => exact ⟨found, rfl, Except.ok.inj h⟩

/-- What a numeral stands for is a number. -/
theorem ordered_of_numeral {numeral : Numeral} (h : numeralInRange numeral = .ok value) :
    Ordered value := by
  rw [numeralInRange] at h
  split at h
  · cases h
    exact .number _
  · cases h

theorem ordered_of_readNumber (h : readNumber .strict text = .ok (value, rest)) :
    Ordered value := by
  rw [readNumber.eq_def] at h
  obtain ⟨⟨whole, behind⟩, -, h⟩ := exists_of_bind_ok h
  dsimp only at h
  split at h
  · cases h
  -- with a fraction or without
  split at h
  all_goals
    obtain ⟨⟨fraction, behind⟩, -, h⟩ := exists_of_bind_ok h
    obtain ⟨⟨exponent, behind⟩, -, h⟩ := exists_of_bind_ok h
    obtain ⟨number, hnumber, h⟩ := exists_of_bind_ok h
    cases h
    exact ordered_of_numeral hnumber

/-- Whatever is read in a number of steps is ordered: a value, items, and fields if those read
before them are. -/
structure ReadsOrdered (fuel : Nat) : Prop where
  value : ∀ {depth text value rest}, readValue .strict fuel depth text = .ok (value, rest) →
    Ordered value
  items : ∀ {depth text items rest}, readItems .strict fuel depth text = .ok (items, rest) →
    ∀ item ∈ items, Ordered item
  fields : ∀ {depth fields text found rest},
    readFields .strict fuel depth fields text = .ok (found, rest) → AreOrdered fields →
      AreOrdered found

namespace ReadsOrdered

variable {fuel depth : Nat}

theorem readValue (h : ReadsOrdered fuel)
    (hread : Json.readValue .strict (fuel + 1) depth text = .ok (value, rest)) :
    Ordered value := by
  rw [Json.readValue] at hread
  split at hread
  · cases hread
    exact .null
  · cases hread
    exact .bool true
  · cases hread
    exact .bool false
  · obtain ⟨read, -, hmake⟩ := exists_of_map_eq_ok hread
    cases hmake
    exact .string _
  -- an array, empty or not
  · split at hread
    · cases hread
    split at hread
    · cases hread
      exact .array (by simp)
    · obtain ⟨⟨items, rest⟩, hitems, hmake⟩ := exists_of_map_eq_ok hread
      cases hmake
      exact .array (h.items hitems)
  -- an object, empty or not
  · split at hread
    · cases hread
    split at hread
    · cases hread
      exact .object areOrdered_nil.values areOrdered_nil.names
    · obtain ⟨⟨fields, rest⟩, hfields, hmake⟩ := exists_of_map_eq_ok hread
      cases hmake
      have hobject := h.fields hfields areOrdered_nil
      exact .object hobject.values hobject.names
  · exact ordered_of_readNumber hread

theorem readItems (h : ReadsOrdered fuel) {items : List Json}
    (hread : Json.readItems .strict (fuel + 1) depth text = .ok (items, rest)) :
    ∀ item ∈ items, Ordered item := by
  rw [Json.readItems] at hread
  obtain ⟨⟨item, behind⟩, hvalue, hread⟩ := exists_of_bind_ok hread
  have hitem := h.value hvalue
  dsimp only at hread
  split at hread
  · cases hread
    simpa using hitem
  · obtain ⟨⟨items, rest⟩, hitems, hread⟩ := exists_of_bind_ok hread
    cases hread
    exact List.forall_mem_cons.2 ⟨hitem, h.items hitems⟩
  · cases hread

theorem readFields (h : ReadsOrdered fuel) {fields found : List (String × Json)}
    (hread : Json.readFields .strict (fuel + 1) depth fields text = .ok (found, rest))
    (hordered : AreOrdered fields) : AreOrdered found := by
  rw [Json.readFields] at hread
  split at hread
  · obtain ⟨⟨name, behind⟩, -, hread⟩ := exists_of_bind_ok hread
    dsimp only at hread
    split at hread
    · obtain ⟨⟨value, rest⟩, hvalue, hread⟩ := exists_of_bind_ok hread
      have hinsert := hordered.insertField (h.value hvalue) (String.ofList name)
      dsimp only at hread
      split at hread
      · cases hread
        exact hinsert
      · exact h.fields hread hinsert
      · cases hread
    · cases hread
  · cases hread

end ReadsOrdered

theorem readsOrdered (fuel : Nat) : ReadsOrdered fuel := by
  induction fuel with
  | zero => exact ⟨nofun, nofun, nofun⟩
  | succ fuel ih => exact ⟨ih.readValue, ih.readItems, ih.readFields⟩

end Read

/-- A value that is read is ordered. -/
theorem ordered_of_parseText {text : List Char} {value : Json} (h : parseText text = .ok value) :
    Ordered value := by
  rw [parseText, parseWith] at h
  obtain ⟨⟨read, rest⟩, hread, h⟩ := exists_of_bind_ok h
  dsimp only at h
  split at h
  · cases h
    exact (readsOrdered _).value hread
  · cases h

end SfcBundler.Json
