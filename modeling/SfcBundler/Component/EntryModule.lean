import SfcBundler.Component.Compiled
import SfcBundler.Component.Identity
import SfcBundler.Component.Part

/-!
# Entry modules

The module that stands for a component as a whole. It imports the parts that the component has,
puts them together and exports the result:

- `import script from "/src/App.vue?type=script";`
- `import "/src/App.vue?type=style&index=0";`
- `import { render } from "/src/App.vue?type=template";`
- `script.render = render;`
- `script.__file = "src/App.vue";`
- `script.__scopeId = "data-v-1a2b3c";`
- `export * from "/src/App.vue?type=script";`
- `export default script;`

## Main definitions

* `EntryModule`: what an entry module is made from
* `EntryModule.lines`, `EntryModule.contents`: its statements, one a line
-/

namespace SfcBundler

/-- What an entry module is made from. `owner` is the path that parts are imported under, `file`
the path recorded in the module. -/
structure EntryModule where
  owner : String
  file : String
  identity : Identity
  serverRender : Bool
  component : Component

namespace EntryModule

/-- The name of the render function, for a server or a client. -/
def renderName (serverRender : Bool) : String := if serverRender then "ssrRender" else "render"

/-- The quoted path of a part. -/
def source (entry : EntryModule) (part : Part) : String := Json.printText (part.path entry.owner)

/-- The statement that binds the script, or an empty object in its place. -/
def scriptLine (entry : EntryModule) : String :=
  if entry.component.script.isSome then "import script from " ++ entry.source .script ++ ";"
  else "const script = \x7b\x7d;"

/-- The imports of the style blocks. -/
def styleLines (entry : EntryModule) : List String :=
  (List.range entry.component.styles.length).map fun index =>
    "import " ++ entry.source (.style index) ++ ";"

/-- The import of the render function and its place in the script. -/
def templateLines (entry : EntryModule) : List String :=
  if entry.component.template.isSome then
    let render := renderName entry.serverRender
    ["import \x7b " ++ render ++ " \x7d from " ++ entry.source .template ++ ";",
      "script." ++ render ++ " = " ++ render ++ ";"]
  else []

/-- What is recorded of the component itself. -/
def recordLines (entry : EntryModule) : List String :=
  ["script.__file = " ++ Json.printText entry.file ++ ";"] ++
  (if entry.component.hasScopedStyle then
    ["script.__scopeId = " ++ Json.printText entry.identity.scopeId ++ ";"] else []) ++
  (if entry.serverRender then ["script.__ssrInlineRender = true;"] else [])

/-- The exports. -/
def exportLines (entry : EntryModule) : List String :=
  (if entry.component.script.isSome then ["export * from " ++ entry.source .script ++ ";"]
    else []) ++
  ["export default script;"]

/-- The statements of an entry module. -/
def lines (entry : EntryModule) : List String :=
  entry.scriptLine :: entry.styleLines ++ entry.templateLines ++ entry.recordLines ++
    entry.exportLines

/-- The text of an entry module: its statements, each on a line of its own. -/
def contents (entry : EntryModule) : String := String.join (entry.lines.map (· ++ "\n"))

end EntryModule

end SfcBundler
