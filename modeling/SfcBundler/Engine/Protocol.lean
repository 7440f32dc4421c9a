import SfcBundler.Engine.Failure
import SfcBundler.Json.Shape

/-!
# Requests and responses

## Main definitions

* `Request`, `Response`: a call of a service and its answer, which carries the id of the request
* `Executor`: whatever answers requests
* `ServiceName.compileComponent`, `ServiceName.renderStyle`: the services of the compiler
-/

namespace SfcBundler

/-- A call of a service. Its path is dotted and starts at the global scope of the script. -/
structure Request where
  id : String
  service : String
  args : List Json
deriving Repr, BEq

/-- The answer to the request with the same id. -/
structure Response where
  id : String
  result : Json
deriving Repr, BEq

/-- Whatever answers requests. -/
abbrev Executor (m : Type → Type) := Request → m (Except EngineError Response)

namespace ServiceName

/-- Compiles a component. -/
def compileComponent : String := "sfc.vue.compileSFC"

/-- Renders a style sheet. -/
def renderStyle : String := "sfc.sass.renderSync"

end ServiceName

namespace Request

/-- A request of a service, told from others by the service alone. -/
def ofService (service : String) (args : List Json) : Request := ⟨service, service, args⟩

/-- The shape of a request. -/
def shape : RecordShape Request where
  name := "JsRequest"
  blank := ⟨"", "", []⟩
  fields := [
    { name := "id", required := true
      read := fun value request => do return { request with id := ← value.expectText } },
    { name := "service", required := true
      read := fun value request => do return { request with service := ← value.expectText } },
    { name := "args", required := true
      read := fun value request => do return { request with args := ← value.expectItems } }]

/-- A request as data. -/
def toJson (request : Request) : Json :=
  Json.ofFields [("id", .string request.id), ("service", .string request.service),
    ("args", .array request.args)]

end Request

namespace Response

/-- The shape of a response. -/
def shape : RecordShape Response where
  name := "JsResponse"
  blank := ⟨"", .null⟩
  fields := [
    { name := "id", required := true
      read := fun value response => do return { response with id := ← value.expectText } },
    { name := "result", required := true
      read := fun value response => .ok { response with result := value } }]

/-- A response as data. -/
def toJson (response : Response) : Json :=
  Json.ofFields [("id", .string response.id), ("result", response.result)]

end Response

end SfcBundler
