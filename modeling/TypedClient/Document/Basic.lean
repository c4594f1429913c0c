import TypedClient.Schema.Basic
import TypedClient.Ordered

/-!
Contract: an interface description, reduced to what a client is generated from.

Owns:
- `Document` and its parts, maps in the order of the text;
- the schema that a body or a response gives for JSON content;
- the title and the version, with the words that stand for missing ones.

Does not own: how a document is written, or where a reference leads.
-/

namespace TypedClient

/-- An item in its place, or a pointer to where it stands. -/
inductive OrReference (α : Type) where
  | reference (pointer : String)
  | inline (item : α)
deriving Repr, Inhabited

/-- A parameter of an operation. -/
structure Parameter where
  name : String
  /-- Where the parameter travels: `query`, `path`, `body`, … -/
  location : String
  required : Bool
  schema : Option Schema
  /-- The bare type name of a parameter without a schema. -/
  typeName : Option String
deriving Repr, Inhabited

/-- The content of one media type. -/
structure MediaType where
  schema : Option Schema
deriving Repr, Inhabited

/-- The body of a request, by media type. -/
structure RequestBody where
  content : Ordered MediaType
deriving Repr, Inhabited

/-- A response, by media type or with one schema of its own. -/
structure Response where
  content : Ordered MediaType
  schema : Option Schema
deriving Repr, Inhabited

/-- An operation of a path. -/
structure Operation where
  operationId : Option String := none
  summary : Option String := none
  deprecated : Bool := false
  parameters : List (OrReference Parameter) := []
  requestBody : Option (OrReference RequestBody) := none
  responses : Ordered (OrReference Response) := []
deriving Repr, Inhabited

/-- A path: the parameters of all its operations, and the operations by method key. -/
structure PathItem where
  parameters : List (OrReference Parameter) := []
  operations : Ordered Operation := []
deriving Repr, Inhabited

/-- What a document says about itself. -/
structure Info where
  title : Option String := none
  version : Option String := none
deriving Repr, Inhabited

/-- The reusable parts of a document. -/
structure Components where
  schemas : Ordered Schema := []
  parameters : Ordered (OrReference Parameter) := []
  requestBodies : Ordered (OrReference RequestBody) := []
  responses : Ordered (OrReference Response) := []
deriving Repr, Inhabited

/-- An interface description. The reusable parts may stand under `components` or, in the older
form, at the top. -/
structure Document where
  info : Info := {}
  paths : Ordered PathItem := []
  components : Components := {}
  definitions : Ordered Schema := []
  parameters : Ordered (OrReference Parameter) := []
  responses : Ordered (OrReference Response) := []
deriving Repr, Inhabited

def isVendorJson (mediaType : String) : Bool :=
  "+json".toList.isSuffixOf mediaType.toList

/-- The schema of the JSON content: of plain JSON, else of any media type, else of the first
vendor's JSON that has one. -/
def jsonSchema? (content : Ordered MediaType) : Option Schema :=
  let schemaOf (mediaType : String) := (content.lookup? mediaType).bind MediaType.schema
  (schemaOf "application/json").or <| (schemaOf "*/*").or <|
    (content.filter (fun entry => isVendorJson entry.1)).findSome? (fun entry => entry.2.schema)

def RequestBody.jsonSchema? (body : RequestBody) : Option Schema :=
  TypedClient.jsonSchema? body.content

/-- The schema of a JSON response: of its content, else its own. -/
def Response.jsonSchema? (response : Response) : Option Schema :=
  (TypedClient.jsonSchema? response.content).or response.schema

namespace Document

/-- The title, or the words for a missing one. -/
def title (document : Document) : String :=
  document.info.title.getD "Untitled API"

/-- The version, or the word for a missing one. -/
def version (document : Document) : String :=
  document.info.version.getD "unversioned"

end Document

end TypedClient
