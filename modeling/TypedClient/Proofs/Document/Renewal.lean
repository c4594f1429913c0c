import TypedClient.Proofs.Endpoint.UsedSchemas
import TypedClient.Proofs.Schema.Pointers
import TypedClient.Schema.Keywords

/-!
Contract: documents in the older form, written in the newer one.

Owns:
- `Pointer.renewed`, a pointer into the older sections of a document, led into the newer ones;
- `Document.renewed`, the document with its reusable parts under `components`, with a schema for each
  bare type name, and with content for the bodies and responses;
- `Document.OlderForm`, that a document uses nothing but the older forms.

Does not own: what is extracted from either document.
-/

namespace TypedClient

/-! ## Pointers -/

namespace Pointer

/-- The older sections of reusable parts, with the newer ones in their stead. -/
def renewals : List (String × String) :=
  [("#/definitions/", "#/components/schemas/"), ("#/parameters/", "#/components/parameters/"),
    ("#/responses/", "#/components/responses/")]

/-- A pointer into an older section, led into the newer one. Any other pointer stays. -/
def renewed (pointer : String) : String :=
  (renewals.findSome? (fun (older, newer) =>
    (older.toList.isPrefixOf? pointer.toList).map (fun name =>
      String.ofList (newer.toList ++ name)))).getD pointer

end Pointer

/-! ## Parts of a document -/

/-- An item with its pointer led into the newer section, or renewed in its place. -/
def OrReference.renewed {α : Type} (renew : α → α) : OrReference α → OrReference α
  | .reference pointer => .reference (Pointer.renewed pointer)
  | .inline item => .inline (renew item)

/-- The schema with its pointers led into the newer sections. -/
def Schema.renewed (schema : Schema) : Schema :=
  schema.mapPointers Pointer.renewed

/-- The schema that says nothing but a type. -/
def Schema.ofType (typeName : String) : Schema :=
  (Schema.ofJson? (.object [("type", .string typeName)])).getD .unknown

/-- JSON content with a schema. -/
def jsonContent (schema : Schema) : Ordered MediaType :=
  [("application/json", { schema := some schema })]

/-- A parameter with a schema for its bare type name. -/
def Parameter.renewed (parameter : Parameter) : Parameter :=
  { parameter with
    schema := (parameter.schema.map Schema.renewed).or (parameter.typeName.map Schema.ofType)
    typeName := none }

/-- A response whose schema is that of its content. -/
def Response.renewed (response : Response) : Response where
  content := (response.schema.map (fun schema => jsonContent schema.renewed)).getD []
  schema := none

namespace Document

open Extraction (Entry operations located parametersOf mergedParameters)

/-- Whether a parameter, where it stands or behind references, is a body. -/
def isBody (document : Document) (item : OrReference Parameter) : Bool :=
  match document.parameter item with
  | .ok parameter => parameter.location = "body"
  | .error _ => false

/-- The parameters but for the body. -/
def renewedParameters (document : Document) (parameters : List (OrReference Parameter)) :
    List (OrReference Parameter) :=
  (parameters.filter (fun item => !document.isBody item)).map
    (OrReference.renewed Parameter.renewed)

/-- An operation whose body parameter, if it has a schema, has become a body with JSON content. -/
def renewedOperation (document : Document) (item : PathItem) (operation : Operation) : Operation :=
  let parameters := (mergedParameters document item operation).value
  { operation with
    parameters := document.renewedParameters operation.parameters
    requestBody := ((located "body" parameters).head?.bind Parameter.schema).map (fun schema =>
      .inline { content := jsonContent schema.renewed })
    responses := operation.responses.mapValues (OrReference.renewed Response.renewed) }

def renewedItem (document : Document) (item : PathItem) : PathItem where
  parameters := document.renewedParameters item.parameters
  operations := item.operations.mapValues (document.renewedOperation item)

/-- A document in the older form, written in the newer one: definitions, parameters and responses
stand under `components`, and every pointer to them is led there. -/
def renewed (document : Document) : Document where
  info := document.info
  paths := document.paths.mapValues document.renewedItem
  components := {
    schemas := document.definitions.mapValues Schema.renewed
    parameters := document.parameters.mapValues (OrReference.renewed Parameter.renewed)
    responses := document.responses.mapValues (OrReference.renewed Response.renewed) }

/-- The parameters of the operations, and the reusable ones, where they stand. -/
def parameterItems (document : Document) : List (OrReference Parameter) :=
  (operations document).flatMap (fun entry => entry.2.1.parameters ++ entry.2.2.2.parameters) ++
    document.parameters.map Prod.snd

/-- The responses of the operations, and the reusable ones, where they stand. -/
def responseItems (document : Document) : List (OrReference Response) :=
  (operations document).flatMap (fun entry => entry.2.2.2.responses.map Prod.snd) ++
    document.responses.map Prod.snd

/-- A document uses nothing but the older forms. -/
structure OlderForm (document : Document) : Prop where
  noComponents : document.components = {}
  noRequestBody : ∀ entry ∈ operations document, entry.2.2.2.requestBody = none
  noContent : ∀ response, .inline response ∈ document.responseItems → response.content = []
  /-- No parameter is said to stand under `components`, where there is none. -/
  olderParameters : ∀ pointer, .reference pointer ∈ document.parameterItems →
    Pointer.target? ["#/components/parameters/"] pointer = none
  /-- No response is said to stand under `components`, where there is none. -/
  olderResponses : ∀ pointer, .reference pointer ∈ document.responseItems →
    Pointer.target? ["#/components/responses/"] pointer = none
  /-- With the parameters of its path, an operation has one body at most. -/
  oneBody : ∀ entry ∈ operations document,
    (located "body" (parametersOf document entry)).length ≤ 1

end Document

end TypedClient
