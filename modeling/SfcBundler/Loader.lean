import SfcBundler.Path

/-!
# Loaders

How the contents of a module are read.

## Main definitions

* `Loader`, with its `name`
* `Loader.ofExtension?`, `Loader.ofPath?`: the loader of a file
* `Loader.isScript`: the loaders of scripts
-/

namespace SfcBundler

/-- How the contents of a module are read. -/
inductive Loader where
  | js
  | jsx
  | ts
  | tsx
  | css
  | json
  | text
deriving Repr, DecidableEq

namespace Loader

/-- The name of a loader. -/
def name : Loader → String
  | js => "js"
  | jsx => "jsx"
  | ts => "ts"
  | tsx => "tsx"
  | css => "css"
  | json => "json"
  | text => "text"

/-- All loaders. -/
def all : List Loader := [js, jsx, ts, tsx, css, json, text]

/-- The loader with a name. -/
def ofName? (name : String) : Option Loader := all.find? fun loader => loader.name == name

/-- The loader of files with an extension. -/
def ofExtension? : String → Option Loader
  | "js" | "mjs" | "cjs" => some js
  | "jsx" => some jsx
  | "ts" | "mts" | "cts" => some ts
  | "tsx" => some tsx
  | "css" => some css
  | "json" => some json
  | "txt" => some text
  | _ => none

/-- The loader of a file. -/
def ofPath? (path : String) : Option Loader := (Path.extension? path).bind ofExtension?

/-- Whether contents are a script. -/
def isScript : Loader → Bool
  | js | jsx | ts | tsx => true
  | _ => false

end Loader

end SfcBundler
