import SfcBundler.Build.Options
import SfcBundler.Json.Reader

/-!
# The environment of a build

Code reads its environment from `import.meta.env`. A variable is set either by a replacement of
its own, `import.meta.env.MODE`, or as a member of the object that replaces `import.meta.env`.

## Main definitions

* `Environment.lookup?`: the value of a variable
* `BuildOptions.normalize`: the options with all variables and feature flags set
* `BuildMode`: what the environment says about the kind of build
-/

namespace SfcBundler

namespace Environment

/-- The identifier of the whole environment. -/
def object : String := "import.meta.env"

/-- The identifier of a variable. -/
def identifier (name : String) : String := object ++ "." ++ name

/-- The value of a variable. Its own replacement counts before a member of the object, and one
that is not JSON counts as null. -/
def lookup? (define : Define) (name : String) : Option Json :=
  match define.get? (identifier name) with
  | some text => some ((Json.parse? text).getD .null)
  | none => ((define.get? object).bind Json.parse?).bind (·.field? name)

/-- The variables that every build has, with their defaults. -/
def standardVariables : List (String × String) := [
  ("MODE", "'production'"), ("PROD", "true"), ("DEV", "false"), ("SSR", "false"),
  ("BASE_URL", "'/'")]

/-- The feature flags that every build has, with their defaults. -/
def featureFlags : List (String × String) := [
  ("__VUE_OPTIONS_API__", "true"), ("__VUE_PROD_DEVTOOLS__", "false"),
  ("__VUE_PROD_HYDRATION_MISMATCH_DETAILS__", "false")]

/-- The replacements with a variable set, unless it has a value. -/
def withVariable (define : Define) (entry : String × String) : Define :=
  if (lookup? define entry.1).isNone then define.set (identifier entry.1) entry.2 else define

/-- The replacements with the object, all variables and all feature flags set; what has a value
keeps it. -/
def complete (define : Define) : Define :=
  let withVariables := standardVariables.foldl withVariable (define.setDefault object "\x7b\x7d")
  featureFlags.foldl (fun define flag => define.setDefault flag.1 flag.2) withVariables

/-- The truth value of a variable, or a default where it has none. -/
def flag (define : Define) (name : String) (default : Bool) : Bool :=
  ((lookup? define name).bind Json.flag?).getD default

end Environment

/-- The options as a build with components needs them: a complete environment and a metafile. -/
def BuildOptions.normalize (options : BuildOptions) : BuildOptions :=
  { options with define := Environment.complete options.define, metafile := true }

/-- The kind of a build. -/
structure BuildMode where
  production : Bool := true
  serverRender : Bool := false
deriving Repr, DecidableEq

/-- The kind of build that the environment asks for. -/
def BuildMode.ofDefine (define : Define) : BuildMode where
  production := Environment.flag define "PROD" true
  serverRender := Environment.flag define "SSR" false

end SfcBundler
