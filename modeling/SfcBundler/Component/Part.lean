import SfcBundler.Text.Cut
import SfcBundler.Text.Numeral

/-!
# Addresses of component parts

A part of a component has the path of its owner with a query behind it:
`/src/App.vue?type=script`, `/src/App.vue?type=style&index=1`. The part's kind gives the
namespace it is loaded in.

## Main definitions

* `PartKind`, `Part`: the parts a component can have
* `Part.query`, `Part.path`: the address of a part
* `Part.parse`: owner and part of an address
* `Query.split`, `Query.param?`: the query of a path and its parameters
-/

namespace SfcBundler

namespace Query

/-- A path as the text before its first question mark and the query behind it. -/
def split (path : String) : String × Option String :=
  match Text.cut '?' path.toList with
  | some (before, after) => (String.ofList before, some (String.ofList after))
  | none => (path, none)

/-- Key and value of one parameter; one without an equals sign has the empty value. -/
def pair (text : List Char) : List Char × List Char := (Text.cut '=' text).getD (text, [])

/-- The value of the first parameter with a key. -/
def param? (query key : String) : Option String :=
  (((Text.fields '&' query.toList).map pair).lookup key.toList).map String.ofList

end Query

/-- The kinds of parts. -/
inductive PartKind where
  | script
  | template
  | style
deriving Repr, DecidableEq

namespace PartKind

/-- The name of a kind, as in a query. -/
def name : PartKind → String
  | script => "script"
  | template => "template"
  | style => "style"

/-- The kind with a name. -/
def ofName? : String → Option PartKind
  | "script" => some script
  | "template" => some template
  | "style" => some style
  | _ => none

/-- The namespace that parts of a kind are loaded in. -/
def space (kind : PartKind) : String := "sfc-" ++ kind.name

@[simp]
theorem ofName?_name (kind : PartKind) : ofName? kind.name = some kind := by cases kind <;> rfl

end PartKind

/-- A part of a component. Style blocks are counted from zero. -/
inductive Part where
  | script
  | template
  | style (index : Nat)
deriving Repr, DecidableEq

/-- Why an address names no part. -/
inductive PartError where
  | unknownKind (name : String)
  | indexMissing
  | badIndex (text : String)
deriving Repr, DecidableEq

/-- The wording of a part error. -/
def PartError.message : PartError → String
  | unknownKind name => "unknown part type `" ++ name ++ "`"
  | indexMissing => "style parts need an `index`"
  | badIndex text => "`" ++ text ++ "` is not a style index"

namespace Part

/-- The kind of a part. -/
def kind : Part → PartKind
  | script => .script
  | template => .template
  | style _ => .style

/-- The position of a style block. -/
def index? : Part → Option Nat
  | style index => some index
  | _ => none

/-- The query that selects a part. -/
def query : Part → String
  | style index => "?type=style&index=" ++ Text.decimal index
  | part => "?type=" ++ part.kind.name

/-- The path of a part of `owner`. -/
def path (part : Part) (owner : String) : String := owner ++ part.query

/-- A part in words. -/
def describe : Part → String
  | style index => "style block " ++ Text.decimal index
  | part => part.kind.name ++ " block"

/-- An index is below this bound. -/
def indexBound : Nat := Nat.pow 2 64

/-- The part that a query selects; none when it names no kind. -/
def ofQuery (query : String) : Except PartError (Option Part) :=
  match Query.param? query "type" with
  | none => .ok none
  | some name =>
    if name = "" then .ok none
    else match PartKind.ofName? name with
      | none => .error (.unknownKind name)
      | some .script => .ok (some script)
      | some .template => .ok (some template)
      | some .style =>
        match Query.param? query "index" with
        | none => .error .indexMissing
        | some text =>
          match Text.readUnsigned? indexBound text with
          | some index => .ok (some (style index))
          | none => .error (.badIndex text)

/-- Owner and part of an address; none when the path addresses the component itself. -/
def parse (path : String) : Except PartError (Option (String × Part)) :=
  match Query.split path with
  | (_, none) => .ok none
  | (owner, some query) => (ofQuery query).map fun part => part.map fun part => (owner, part)

end Part

end SfcBundler
