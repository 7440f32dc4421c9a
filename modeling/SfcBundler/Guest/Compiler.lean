import SfcBundler.Engine.Bridge
import SfcBundler.Engine.Runtime
import SfcBundler.Guest.Marshal
import SfcBundler.Guest.Scope

/-!
# The compiler of the guest

The compiler takes a component in its compiled form, written as JSON, and a style sheet as CSS. A
source may also ask for a failure, for the request itself or for a file.

## Main definitions

* `BundledCompiler.compile`: a component
* `BundledCompiler.render`: a style sheet
-/

namespace SfcBundler

/-- An error object with a message. -/
def Thrown.ofMessage (message : String) : Thrown :=
  .exception (some message) ("Error: " ++ message) ("Error: " ++ message)

namespace BundledCompiler

/-- A JSON text as a value, or an error with the given message. A text with half a character in it
has a value, but one that no JSON text stands for. -/
def parse (failure : String) (text : List Char) : Except Thrown GuestValue :=
  match Marshal.parse text with
  | .ok value => .ok (.plain value)
  | .error .loneSurrogate => .ok .unwritable
  | .error _ => .error (.ofMessage failure)

/-- The script text that stands for the request. -/
def requestMark : String := "@request"

/-- A component whose script asks for the request gets its JSON text in place. -/
def fillRequest (request : List Json) (component : Json) : Json :=
  match component, component.field? "script" with
  | .object fields, some (.object script) =>
    if script.lookup "content" == some (.string requestMark) then
      let text := Json.string (Marshal.jsonText (.array request))
      .object (Json.insertField "script" (.object (Json.insertField "content" text script)) fields)
    else component
  | _, _ => component

/-- Compile a component. The arguments are an id, a file name, the source and options. -/
def compile (args : List Json) : Except Thrown GuestValue :=
  let argument (index : Nat) : Json := args.getD index .null
  match Marshal.textOf (argument 2) with
  | '!' :: message => .error (.ofMessage (String.ofList message))
  | source =>
    (parse "unparsable component" source).map fun
      | .plain component => .plain (fillRequest [argument 0, argument 1, argument 3] component)
      | value => value

/-- A rendered style sheet as an answer. -/
def styleAnswer (css : List Char) (stats : List (String × Json)) : GuestValue :=
  .plain (Json.ofFields [("css", .string (String.ofList css)), ("map", .null),
    ("stats", Json.ofFields stats)])

/-- Render a style sheet. The argument holds the source as `data`, the directory that files are
looked for in as `sasslocation`, and the wanted layout as `style`. -/
def render {m : Type → Type} [Monad m] [MonadFiles m] (args : List Json) :
    m (Except Thrown GuestValue) := do
  let options := args.headD .null
  let data := ((options.field? "data").map Marshal.textOf).getD []
  match data with
  | '!' :: message => return .error (.ofMessage (String.ofList message))
  | '=' :: answer => return parse "unparsable style sheet" answer
  | '<' :: name =>
    let location := ((options.field? "sasslocation").map Marshal.textOf).getD "undefined".toList
    let path := String.ofList (location ++ '/' :: name)
    if ← Bridge.fileExists path then
      match ← Bridge.readText path with
      | .ok text => return .ok (styleAnswer text.toList [])
      | .error cause => return .error (.ofMessage (BridgeFailure.message ⟨"readFile", path, cause⟩))
    else
      return .error (.ofMessage ("Can't find stylesheet to import: " ++ String.ofList name))
  | css =>
    let stats := match options.field? "style" with
      | some style => [("style", style)]
      | none => []
    return .ok (styleAnswer css stats)

end BundledCompiler

end SfcBundler
