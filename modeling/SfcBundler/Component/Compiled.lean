import SfcBundler.Json.Shape
import SfcBundler.Loader

/-!
# Compiled components

What the compiler makes of a component: code for each of its blocks, with the diagnostics found
on the way.

## Main definitions

* `ScriptPart`, `TemplatePart`, `StylePart`, `Component`
* `Component.decode`: a component read from the compiler's answer
* `ScriptPart.loader`: how the script is read
-/

namespace SfcBundler

/-- A compiled script block. -/
structure ScriptPart where
  content : String
  lang : Option String := none
  sourceMap : Option Json := none
  warnings : List String := []
  isSetup : Bool := false
deriving Repr, BEq

/-- A compiled template block. -/
structure TemplatePart where
  code : String
  tips : List String := []
  errors : List String := []
  isScoped : Bool := false
deriving Repr, DecidableEq

/-- A compiled style block. -/
structure StylePart where
  code : String
  isScoped : Bool := false
  errors : List String := []
deriving Repr, DecidableEq

/-- A compiled component. Styles stand in source order. -/
structure Component where
  script : Option ScriptPart := none
  template : Option TemplatePart := none
  styles : List StylePart := []
deriving Repr, BEq

/-- The loader of a script in a language; other languages are read as plain scripts. -/
def loaderOfLang : Option String → Loader
  | some "ts" => .ts
  | some "tsx" => .tsx
  | some "jsx" => .jsx
  | _ => .js

/-- The loader of a script block. -/
def ScriptPart.loader (script : ScriptPart) : Loader := loaderOfLang script.lang

/-- The shape of a script block. -/
def ScriptPart.shape : RecordShape ScriptPart where
  name := "ScriptPart"
  blank := { content := "" }
  fields := [
    { name := "content", required := true
      read := fun value part => do return { part with content := ← value.expectText } },
    { name := "lang", required := false
      read := fun value part => do return { part with lang := ← value.nullOr Json.expectText } },
    { name := "map", required := false
      read := fun value part => do return { part with sourceMap := ← value.nullOr .ok } },
    { name := "warnings", required := false
      read := fun value part => do return { part with warnings := ← value.textsOnly } },
    { name := "setup", required := false
      read := fun value part => do return { part with isSetup := ← value.expectFlag } }]

/-- The shape of a template block. -/
def TemplatePart.shape : RecordShape TemplatePart where
  name := "TemplatePart"
  blank := { code := "" }
  fields := [
    { name := "code", required := true
      read := fun value part => do return { part with code := ← value.expectText } },
    { name := "tips", required := false
      read := fun value part => do return { part with tips := ← value.textsOnly } },
    { name := "errors", required := false
      read := fun value part => do return { part with errors := ← value.textsOnly } },
    { name := "scoped", required := false
      read := fun value part => do return { part with isScoped := ← value.expectFlag } }]

/-- The shape of a style block. -/
def StylePart.shape : RecordShape StylePart where
  name := "StylePart"
  blank := { code := "" }
  fields := [
    { name := "code", required := true
      read := fun value part => do return { part with code := ← value.expectText } },
    { name := "scoped", required := false
      read := fun value part => do return { part with isScoped := ← value.expectFlag } },
    { name := "errors", required := false
      read := fun value part => do return { part with errors := ← value.textsOnly } }]

namespace Component

/-- The shape of a component. -/
def shape : RecordShape Component where
  name := "Component"
  blank := {}
  fields := [
    { name := "script", required := false
      read := fun value part => do
        return { part with script := ← value.nullOr ScriptPart.shape.read } },
    { name := "template", required := false
      read := fun value part => do
        return { part with template := ← value.nullOr TemplatePart.shape.read } },
    { name := "styles", required := false
      read := fun value part => do
        let items := (← value.nullOr Json.expectItems).getD []
        return { part with styles := ← items.mapM StylePart.shape.read } }]

/-- Why an answer of the compiler is no component. -/
inductive DecodeError where
  | notAnObject (answer : Json)
  | shape (error : ShapeError)
deriving Repr

/-- The wording of a decoding error. -/
def DecodeError.message (error : DecodeError) : String :=
  "invalid Vue SFC compilation result: " ++ match error with
    | notAnObject answer => answer.print
    | shape error => error.message

/-- The component of a compiler's answer. -/
def decode (answer : Json) : Except DecodeError Component :=
  if answer.isObject then (shape.read answer).mapError .shape else .error (.notAnObject answer)

/-- Whether some style block is scoped. -/
def hasScopedStyle (component : Component) : Bool := component.styles.any (·.isScoped)

end Component

end SfcBundler
