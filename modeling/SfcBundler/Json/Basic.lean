import SfcBundler.Number.Binary64

/-!
# JSON values

The fields of an object stand in the order of their names, each name once, so two objects with
the same fields are the same value.

## Main definitions

* `Json`: the values
* `Json.ofFields`: an object from fields in any order, the last of one name counting
* `Json.field?`, `Json.text?`, `Json.flag?`, `Json.items?`: looking into a value

## Main results

* `Json.lookup_insertField`: what a look-up finds after a field was put in
-/

namespace SfcBundler

/-- A JSON number: an integer from `-2 ^ 63` to `2 ^ 64 - 1`, or a floating point number. -/
inductive JsonNumber where
  | integer (value : Int)
  | float (value : Binary64)
deriving Repr, DecidableEq

/-- A JSON value. -/
inductive Json where
  | null
  | bool (value : Bool)
  | number (value : JsonNumber)
  | string (value : String)
  | array (items : List Json)
  | object (fields : List (String × Json))
deriving Repr, BEq

namespace Json

instance : Inhabited Json := ⟨null⟩

/-- An integer as a value. -/
def integer (value : Int) : Json := number (.integer value)

/-- A natural number as a value. -/
def nat (value : Nat) : Json := integer value

/-- A text, or null where there is none. -/
def ofText? : Option String → Json
  | some text => string text
  | none => null

/-- Texts as an array. -/
def ofTexts (texts : List String) : Json := array (texts.map string)

/-- Fields with one put in, in the order of names; an old field of the name is replaced. -/
def insertField (name : String) (value : Json) : List (String × Json) → List (String × Json)
  | [] => [(name, value)]
  | (other, old) :: rest =>
    if name = other then (name, value) :: rest
    else if name < other then (name, value) :: (other, old) :: rest
    else (other, old) :: insertField name value rest

theorem insertField_nil (name : String) (value : Json) :
    insertField name value [] = [(name, value)] := rfl

theorem insertField_of_lt {name other : String} {value old : Json} {rest : List (String × Json)}
    (hne : name ≠ other) (hlt : name < other) :
    insertField name value ((other, old) :: rest) = (name, value) :: (other, old) :: rest := by
  rw [insertField, if_neg hne, if_pos hlt]

theorem insertField_of_not_lt {name other : String} {value old : Json}
    {rest : List (String × Json)} (hne : name ≠ other) (hlt : ¬ name < other) :
    insertField name value ((other, old) :: rest) =
      (other, old) :: insertField name value rest := by
  rw [insertField, if_neg hne, if_neg hlt]

theorem lookup_insertField (name : String) (value : Json) (fields : List (String × Json))
    (key : String) :
    (insertField name value fields).lookup key =
      if key = name then some value else fields.lookup key := by
  induction fields with
  | nil =>
    by_cases h : key = name
    · simp [insertField, h]
    · simp [insertField, h, List.lookup_cons, beq_false_of_ne h]
  | cons entry rest ih =>
    obtain ⟨other, old⟩ := entry
    by_cases hn : name = other
    · subst hn
      by_cases h : key = name
      · simp [insertField, h]
      · simp [insertField, h, List.lookup_cons, beq_false_of_ne h]
    · by_cases hlt : name < other
      · by_cases h : key = name
        · simp [insertField, hn, hlt, h]
        · simp [insertField, hn, hlt, h, List.lookup_cons, beq_false_of_ne h]
      · by_cases ho : key = other
        · simp [insertField, hn, hlt, ho, Ne.symm hn]
        · simp [insertField, hn, hlt, List.lookup_cons, beq_false_of_ne ho, ih]

/-- An object with the given fields; of several with one name the last counts. -/
def ofFields (fields : List (String × Json)) : Json :=
  object (fields.foldl (fun done entry => insertField entry.1 entry.2 done) [])

/-- The field of an object with a name. -/
def field? (value : Json) (name : String) : Option Json :=
  match value with
  | object fields => fields.lookup name
  | _ => none

/-- The text that a value is. -/
def text? : Json → Option String
  | string text => some text
  | _ => none

/-- The truth value that a value is. -/
def flag? : Json → Option Bool
  | bool value => some value
  | _ => none

/-- The items that a value has. -/
def items? : Json → Option (List Json)
  | array items => some items
  | _ => none

/-- Whether a value is an object. -/
def isObject : Json → Bool
  | object _ => true
  | _ => false

end Json

end SfcBundler
