import SfcBundler.Json.Printer
import SfcBundler.Text.Quoted

/-!
# Reading records out of JSON

A record is read from an object, whose fields may be in any number and whose unknown fields are
passed over, or from an array of its leading fields in their declared order. The first bad value
decides the error; after that comes the first required field that is missing.

## Main definitions

* `ShapeError`, `ShapeError.message`: why a value is not of a shape
* `RecordShape`, `RecordShape.read`: the fields of a record, and a record read from a value
* `Json.expectText`, `Json.expectFlag`, `Json.expectItems`: values of a given kind
* `Json.textsOnly`: the texts of a list
-/

namespace SfcBundler

/-- Why a value is not of a shape. -/
inductive ShapeError where
  | wrongKind (found : Json) (expected : String)
  | missingField (name : String)
  | tooShort (length : Nat) (record : String) (fields : Nat)
  | tooLong (length : Nat)
deriving Repr

/-- What a value is, in the words of an error. -/
def Json.describe : Json → String
  | null => "null"
  | bool value => "boolean `" ++ (if value then "true" else "false") ++ "`"
  | number (.integer value) => "integer `" ++ String.ofList (writeInt value) ++ "`"
  | number (.float value) =>
    "floating point `" ++ String.ofList (value.write JsonNumber.layout) ++ "`"
  | string text => "string " ++ Text.quoted text
  | array _ => "sequence"
  | object _ => "map"

/-- The wording of a shape error. -/
def ShapeError.message : ShapeError → String
  | wrongKind found expected => "invalid type: " ++ found.describe ++ ", expected " ++ expected
  | missingField name => "missing field `" ++ name ++ "`"
  | tooShort length record fields =>
    "invalid length " ++ toString length ++ ", expected struct " ++ record ++ " with " ++
      toString fields ++ " elements"
  | tooLong length =>
    "invalid length " ++ toString length ++ ", expected fewer elements in array"

/-- One field of a record under construction. -/
structure FieldShape (α : Type) where
  name : String
  required : Bool
  /-- Read a value into the record. -/
  read : Json → α → Except ShapeError α

/-- The shape of a record: its name, its fields in declared order, and the record before any
field is read. -/
structure RecordShape (α : Type) where
  name : String
  blank : α
  fields : List (FieldShape α)

namespace RecordShape

variable {α : Type}

/-- Read the fields of an object in their order. -/
def readObject (shape : RecordShape α) : α → List (String × Json) → Except ShapeError α
  | record, [] => .ok record
  | record, (name, value) :: rest =>
    match shape.fields.find? fun field => field.name == name with
    | none => shape.readObject record rest
    | some field => do shape.readObject (← field.read value record) rest

/-- Read items into fields one by one; `position` fields came before. -/
def readArray (shape : RecordShape α) (position : Nat) :
    α → List (FieldShape α) → List Json → Except ShapeError α
  | record, [], [] => .ok record
  | _, [], items => .error (.tooLong (position + items.length))
  | record, field :: fields, [] =>
    if field.required then .error (.tooShort position shape.name shape.fields.length)
    else shape.readArray (position + 1) record fields []
  | record, field :: fields, item :: items => do
    shape.readArray (position + 1) (← field.read item record) fields items

/-- A record read from a value. -/
def read (shape : RecordShape α) : Json → Except ShapeError α
  | .object fields => do
    let record ← shape.readObject shape.blank fields
    match shape.fields.find? fun field => field.required && !fields.any (·.1 == field.name) with
    | some field => .error (.missingField field.name)
    | none => .ok record
  | .array items => shape.readArray 0 shape.blank shape.fields items
  | value => .error (.wrongKind value ("struct " ++ shape.name))

end RecordShape

namespace Json

/-- A value that must be a text. -/
def expectText : Json → Except ShapeError String
  | string text => .ok text
  | value => .error (.wrongKind value "a string")

/-- A value that must be a truth value. -/
def expectFlag : Json → Except ShapeError Bool
  | bool value => .ok value
  | value => .error (.wrongKind value "a boolean")

/-- A value that must be an array. -/
def expectItems : Json → Except ShapeError (List Json)
  | array items => .ok items
  | value => .error (.wrongKind value "a sequence")

/-- A value that may be null, or else is read by `read`. -/
def nullOr {α : Type} (read : Json → Except ShapeError α) : Json → Except ShapeError (Option α)
  | null => .ok none
  | value => (read value).map some

/-- The texts of a list that may be null; what is no text is passed over. -/
def textsOnly (value : Json) : Except ShapeError (List String) := do
  return ((← nullOr expectItems value).getD []).filterMap text?

end Json

end SfcBundler
