import TypedClient.Document.Basic
import TypedClient.Schema.Keywords

/-!
Contract: how a document is written.

Owns:
- the decoders of `Document` and its parts;
- which keys of a path are operations, and the failures of an operation and of the parameters of
  a path.

Does not own: members that no client is generated from, which are passed over.
-/

namespace TypedClient

open Json (Decoder)
open Json.Decoder (Field)

/-- An item or a reference to one. A reference is an object with a pointer, whatever stands
beside it. -/
def OrReference.ofJson? {α : Type} (item? : Json → Option α) (tree : Json) :
    Option (OrReference α) :=
  let pointer? :=
    match tree with
    | .object _ => do
        let members ← Json.knownMembers? ["$ref"] 1 tree
        Json.text? (← members.lookup? "$ref")
    | _ => none
  match pointer? with
  | some pointer => some (.reference pointer)
  | none => (item? tree).map .inline

/-- Reading an item or a reference looks at the whole tree. -/
def OrReference.decoder {α : Type} (item? : Json → Option α) : Decoder (OrReference α) :=
  .alternatives "RefOr" (OrReference.ofJson? item?)

def Parameter.ofJson? (tree : Json) : Option Parameter := do
  let members ← Json.knownMembers? ["name", "in", "required", "schema", "type"] 5 tree
  let name ← Json.text? (← members.lookup? "name")
  let location ← Json.text? (← members.lookup? "in")
  let required ← Json.orElse? members "required" Json.flag? false
  let schema ← Json.maybe? members "schema" Schema.ofJson?
  let typeName ← Json.maybe? members "type" Json.text?
  return { name, location, required, schema, typeName }

def MediaType.ofJson? (tree : Json) : Option MediaType := do
  let members ← Json.knownMembers? ["schema"] 0 tree
  let schema ← Json.maybe? members "schema" Schema.ofJson?
  return { schema }

def RequestBody.ofJson? (tree : Json) : Option RequestBody := do
  let members ← Json.knownMembers? ["content"] 0 tree
  let content ← Json.orElse? members "content" (Json.mapping? MediaType.ofJson?) []
  return { content }

def Response.ofJson? (tree : Json) : Option Response := do
  let members ← Json.knownMembers? ["content", "schema"] 0 tree
  let content ← Json.orElse? members "content" (Json.mapping? MediaType.ofJson?) []
  let schema ← Json.maybe? members "schema" Schema.ofJson?
  return { content, schema }

def Parameter.listDecoder : Decoder (List (OrReference Parameter)) :=
  .list (OrReference.decoder Parameter.ofJson?)

/-- The responses by status. -/
def Response.mapDecoder : Decoder (Ordered (OrReference Response)) :=
  .mapping (OrReference.decoder Response.ofJson?)

def Operation.decoder : Decoder Operation :=
  .record "struct Operation" {} [
    .of "operationId" (.optional .text) (fun operationId operation =>
      { operation with operationId }),
    .of "summary" (.optional .text) (fun summary operation => { operation with summary }),
    .of "deprecated" .flag (fun deprecated operation => { operation with deprecated }),
    .of "parameters" Parameter.listDecoder (fun parameters operation =>
      { operation with parameters }),
    .of "requestBody" (.optional (OrReference.decoder RequestBody.ofJson?))
      (fun requestBody operation => { operation with requestBody }),
    .of "responses" Response.mapDecoder (fun responses operation =>
      { operation with responses })]

/-- The keys of a path that hold an operation. -/
def operationKeys : List String :=
  ["get", "put", "post", "delete", "options", "head", "patch", "trace"]

/-- Take one member of a path into account. -/
def PathItem.withMember (item : PathItem) (member : String × Json) :
    Except Json.Fault PathItem :=
  if member.1 = "parameters" then
    match Parameter.listDecoder.fromTree member.2 with
    | .ok parameters => .ok { item with parameters }
    | .error fault => .error (.invalidPathParameters fault)
  else if operationKeys.contains member.1 then
    match Operation.decoder.fromTree member.2 with
    | .ok operation =>
        .ok { item with operations := item.operations.insert member.1 operation }
    | .error fault => .error (.invalidOperation member.1 fault)
  else .ok item

/-- A path. Its members are looked at when all of them were read. -/
def PathItem.decoder : Decoder PathItem :=
  .checked (fun members => members.foldlM PathItem.withMember {}) (.mapping .value)

/-- A text, or the compact text of any other value but null. -/
def scalarText : Json → Option String
  | .null => none
  | .string text => some text
  | other => some other.compact

/-- What a document says about itself. -/
def Info.decoder : Decoder Info :=
  .record "struct Info" {} [
    .needed "title" (.optional .text) (fun title info => { info with title }),
    .of "version" (.map (Option.bind · scalarText) (.optional .value)) (fun version info =>
      { info with version })]

/-- The schemas by name. -/
def Schema.mapDecoder : Decoder (Ordered Schema) :=
  .mapping Schema.decoder

/-- The reusable parameters by name. -/
def Parameter.mapDecoder : Decoder (Ordered (OrReference Parameter)) :=
  .mapping (OrReference.decoder Parameter.ofJson?)

/-- The reusable parts. -/
def Components.decoder : Decoder Components :=
  .record "struct Components" {} [
    .of "schemas" Schema.mapDecoder (fun schemas components => { components with schemas }),
    .of "parameters" Parameter.mapDecoder (fun parameters components =>
      { components with parameters }),
    .of "requestBodies" (.mapping (OrReference.decoder RequestBody.ofJson?))
      (fun requestBodies components => { components with requestBodies }),
    .of "responses" Response.mapDecoder (fun responses components =>
      { components with responses })]

def Document.decoder : Decoder Document :=
  .record "struct SpecDocument" {} [
    .of "info" Info.decoder (fun info document => { document with info }),
    .of "paths" (.mapping PathItem.decoder) (fun paths document => { document with paths }),
    .of "components" Components.decoder (fun components document =>
      { document with components }),
    .of "definitions" Schema.mapDecoder (fun definitions document =>
      { document with definitions }),
    .of "parameters" Parameter.mapDecoder (fun parameters document =>
      { document with parameters }),
    .of "responses" Response.mapDecoder (fun responses document =>
      { document with responses })]

end TypedClient
