import SfcBundler.Guest.Script
import SfcBundler.Json.Basic

/-!
# What a script's global scope holds

A call names a service by a dotted path that is followed from the global scope, member by member.

## Main definitions

* `Service`, `GuestValue`: the functions that can be called, and all values
* `Member`, `Scope`: what a name stands for, and names with what they stand for
* `Scope.resolve`: the service at the end of a path
* `Scope.lendFiles`, `Scope.defineDispatch`, `Scope.run`: what is put into a scope before a script,
  and the scope that a script leaves behind
-/

namespace SfcBundler

/-- Functions that a script offers. -/
inductive Service where
  /-- Gives its arguments. -/
  | echo
  /-- Gives its first argument. -/
  | first
  /-- Gives a constant. -/
  | constant (value : Json)
  /-- Adds its argument to a count that the engine keeps. -/
  | bump
  /-- Throws an error with its argument as the message. -/
  | throwError
  /-- Throws its argument itself. -/
  | throwValue
  /-- Gives what cannot become JSON. -/
  | unwritable
  /-- Gives a promise that nobody keeps. -/
  | never
  /-- Compiles a component. -/
  | compileComponent
  /-- Renders a style sheet. -/
  | renderStyle
  /-- Looks whether a file exists. -/
  | fileExists
  /-- Reads a file. -/
  | readFile
  /-- Follows the links of a path. -/
  | realPath
  /-- Calls the service that its arguments name. -/
  | dispatch
deriving Repr

/-- A value of the guest. -/
inductive GuestValue where
  /-- A value as JSON has it. -/
  | plain (value : Json)
  /-- A function. -/
  | function (service : Service)
  /-- A promise that nobody keeps. -/
  | unkept
  /-- A value that cannot become JSON. -/
  | unwritable

/-- What a name stands for: a service, a value without members, or a value with members. -/
inductive Member where
  | service (service : Service)
  | value
  | scope (members : List (String × Member))

/-- Names with what they stand for. -/
abbrev Scope := List (String × Member)

/-- Why a path leads to no service. -/
inductive PathError where
  | notFound (path : String)
  | notCallable (path : String)
deriving Repr, DecidableEq

/-- The wording of a path error. -/
def PathError.message : PathError → String
  | notFound path => "service not found: " ++ path
  | notCallable path => "service is not callable: " ++ path

namespace Member

/-- The member with a name. -/
def child? (member : Member) (name : String) : Option Member :=
  match member with
  | scope members => members.lookup name
  | _ => none

/-- The member at the end of a path. -/
def follow (member : Member) : List String → Option Member
  | [] => some member
  | name :: rest => (member.child? name).bind fun child => child.follow rest

/-- A text, which can be asked for itself. -/
def text (value : String) : Member :=
  scope [("toString", service (.constant (.string value)))]

end Member

namespace Scope

/-- The scope with one name set; one that is there is set anew. -/
def set (scope : Scope) (name : String) (member : Member) : Scope :=
  (name, member) :: scope.filter fun entry => entry.1 != name

/-- The service at the end of a dotted path. -/
def resolve (scope : Scope) (path : String) : Except PathError Service :=
  let names := (Text.fields '.' path.toList).map String.ofList
  match (Member.scope scope).follow names with
  | none => .error (.notFound path)
  | some (.service service) => .ok service
  | some _ => .error (.notCallable path)

/-- The functions lent to scripts for looking at files. -/
def bridge : Member := .scope [
  ("fileExists", .service .fileExists),
  ("readFile", .service .readFile),
  ("realpath", .service .realPath)]

/-- The compiler, with functions for trying an engine out. -/
def compiler : Member := .scope [
  ("vue", .scope [("compileSFC", .service .compileComponent)]),
  ("sass", .scope [("renderSync", .service .renderStyle)]),
  ("echo", .service .echo),
  ("first", .service .first),
  ("later", .service .first),
  ("never", .service .never),
  ("nothing", .service (.constant .null)),
  ("fn", .service (.constant .null)),
  ("nan", .service (.constant (.array [.null, .null, .null, .nat 0]))),
  ("holes", .service (.constant (Json.ofFields [
    ("b", .array [.null, .null]), ("c", .null), ("d", .string "1970-01-01T00:00:00.000Z")]))),
  ("request", .service (.constant (.string "bound"))),
  ("bump", .service .bump),
  ("throwError", .service .throwError),
  ("reject", .service .throwError),
  ("throwValue", .service .throwValue),
  ("lone", .service .unwritable),
  ("circular", .service .unwritable),
  ("big", .service .unwritable),
  ("nil", .value),
  ("undef", .value),
  ("version", .value),
  ("count", .value)]

/-- The scope with the functions for looking at files. -/
def lendFiles (scope : Scope) : Scope := scope.set "compilerFs" bridge

/-- The scope with the function that calls others. -/
def defineDispatch (scope : Scope) : Scope := scope.set "__sfcDispatch" (.service .dispatch)

/-- The scope that a program leaves behind, or what it throws. -/
def run (scope : Scope) : Program → Except String Scope
  | [] => .ok scope
  | .loadCompiler :: rest => run (scope.set "sfc" compiler) rest
  | .setNumber name :: rest => run (scope.set name .value) rest
  | .define name result :: rest =>
    run (scope.set name (.service (.constant (.nat result)))) rest
  | .throw text :: _ => .error text
  | .other :: rest => run scope rest

end Scope

end SfcBundler
