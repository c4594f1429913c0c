import TypedClient.Endpoint.Basic
import TypedClient.Reference.Resolver

/-!
Contract: the endpoints of a document.

Owns:
- which parameters an operation has, and in which order;
- the bodies and responses that count;
- `Extraction`, the endpoints of a document with the declarations they mention and what was
  noticed on the way.

Does not own: names across documents.
-/

namespace TypedClient

/-- A value, and what was noticed on the way to it. -/
structure Noticed (α : Type) where
  value : α
  notices : List Notice := []

namespace Noticed

variable {α β : Type}

/-- A value without notices. -/
protected def pure (value : α) : Noticed α := ⟨value, []⟩

/-- Go on with a value; the later notices follow the earlier ones. -/
protected def bind (first : Noticed α) (next : α → Noticed β) : Noticed β :=
  let second := next first.value
  ⟨second.value, first.notices ++ second.notices⟩

instance : Monad Noticed where
  pure := Noticed.pure
  bind := Noticed.bind

/-- Take a step for every item, in order. -/
def each (step : α → Noticed β) (items : List α) : Noticed (List β) :=
  ⟨items.map (fun item => (step item).value), items.flatMap (fun item => (step item).notices)⟩

def warn (warning : Warning) : Noticed Unit := ⟨(), [.warning warning]⟩

/-- The value, or nothing and the warning that says why. -/
def ofExcept : Except Warning α → Noticed (Option α)
  | .ok value => ⟨some value, []⟩
  | .error warning => ⟨none, [.warning warning]⟩

end Noticed

namespace Extraction

/-- The shape of a schema. Its declared names are still names of components. -/
def shape (document : Document) (schema : Schema) : Noticed Shape :=
  ⟨document.expand [] schema, document.notices [] schema⟩

/-- The parameter in a list, an earlier one with its name and location removed. -/
def withParameter (parameters : List Parameter) (parameter : Parameter) : List Parameter :=
  parameters.filter (fun earlier =>
    !(earlier.name = parameter.name && earlier.location = parameter.location)) ++ [parameter]

/-- The parameters of an operation: those of its path, then its own. A parameter replaces an
earlier one with the same name and location, and takes a place at the end. -/
def mergedParameters (document : Document) (item : PathItem) (operation : Operation) :
    Noticed (List Parameter) := do
  let found ← Noticed.each (fun parameter => Noticed.ofExcept (document.parameter parameter))
    (item.parameters ++ operation.parameters)
  return (found.filterMap id).foldl withParameter []

def located (location : String) (parameters : List Parameter) : List Parameter :=
  parameters.filter (fun parameter => parameter.location = location)

/-- The shape of a parameter: of its schema, else of its bare type name, else a string. -/
def parameterShape (document : Document) (parameter : Parameter) : Noticed Shape :=
  match parameter.schema, parameter.typeName with
  | some schema, _ => shape document schema
  | none, some name => shape document (Schema.ofTypeName name)
  | none, none => pure (.primitive .string)

def queryParameter (document : Document) (parameter : Parameter) : Noticed EndpointParameter := do
  let shape ← parameterShape document parameter
  return ⟨parameter.name, Script.identifier parameter.name, shape, parameter.required⟩

/-- The names of the arguments that are no path parameters. -/
def argumentNames : List String := ["params", "body", "options"]

/-- The identifier of a path parameter, kept apart from the names of the other arguments. -/
def pathIdentifier (name : String) : String :=
  let identifier := Script.identifier name
  if argumentNames.contains identifier then identifier ++ "Param" else identifier

def pathParameter (name : String) (shape : Shape) : EndpointParameter :=
  ⟨name, pathIdentifier name, shape, true⟩

/-- The parameter for a placeholder: as declared, else a string. -/
def placeholderParameter (document : Document) (declared : List Parameter) (name : String) :
    Noticed EndpointParameter := do
  match declared.find? (fun parameter => parameter.name = name) with
  | some parameter => return pathParameter name (← parameterShape document parameter)
  | none => return pathParameter name (.primitive .string)

/-- The parameter for a declaration without a placeholder. -/
def unplacedParameter (document : Document) (path : String) (parameter : Parameter) :
    Noticed EndpointParameter := do
  Noticed.warn (.unplacedPathParameter parameter.name path)
  return pathParameter parameter.name (← parameterShape document parameter)

/-- The path parameters: those of the placeholders in the order of the path, then those declared
without a placeholder. -/
def pathParameters (document : Document) (path : String) (declared : List Parameter) :
    Noticed (List EndpointParameter) := do
  let placeholders := pathPlaceholders path
  let placed ← Noticed.each (placeholderParameter document declared) placeholders
  let unplaced ← Noticed.each (unplacedParameter document path)
    (declared.filter (fun parameter => !placeholders.contains parameter.name))
  return placed ++ unplaced

def ownBodySchema (document : Document) (operation : Operation) : Noticed (Option Schema) := do
  match operation.requestBody with
  | none => return none
  | some body =>
      let found ← Noticed.ofExcept (document.requestBody body)
      return found.bind RequestBody.jsonSchema?

def bodyParameterSchema? (parameters : List Parameter) : Option Schema :=
  (located "body" parameters).getLast?.bind Parameter.schema

/-- The statuses whose response counts, the preferred one first. -/
def successStatuses : List String := ["200", "201"]

def responseSchema (document : Document) (operation : Operation) : Noticed (Option Schema) := do
  match successStatuses.findSome? operation.responses.lookup? with
  | none => return none
  | some response =>
      let found ← Noticed.ofExcept (document.response response)
      return found.bind Response.jsonSchema?

/-- The shape of a schema that may be missing. -/
def optionalShape (document : Document) : Option Schema → Noticed (Option Shape)
  | none => return none
  | some schema => return some (← shape document schema)

def endpoint (document : Document) (qualifier path : String) (method : Method) (item : PathItem)
    (operation : Operation) : Noticed Endpoint := do
  let camelName := Naming.qualify qualifier (Naming.ofPath path)
  let parameters ← mergedParameters document item operation
  let queryParameters ← Noticed.each (queryParameter document) (located "query" parameters)
  let pathParameters ← pathParameters document path (located "path" parameters)
  let body ← ownBodySchema document operation
  let requestBody ← optionalShape document (body.or (bodyParameterSchema? parameters))
  let success ← responseSchema document operation
  let response ← optionalShape document success
  return {
    method, path, camelName, queryParameters, pathParameters, requestBody, response
    operationId := operation.operationId
    summary := operation.summary
    deprecated := operation.deprecated
    typeName := Naming.typeName method.key camelName }

/-- The operations for which code is generated, in the order of the document. -/
def operations (document : Document) : List (String × PathItem × Method × Operation) :=
  document.paths.flatMap (fun (path, item) =>
    item.operations.filterMap (fun (key, operation) =>
      (Method.ofKey? key).map (fun method => (path, item, method, operation))))

/-- Take the endpoint of one operation into account. Its components get their symbols before the
next endpoint is looked at. -/
def withOperation (state : Resolver × List Endpoint)
    (entry : String × PathItem × Method × Operation) : Resolver × List Endpoint :=
  let (path, item, method, operation) := entry
  let noticed :=
    endpoint state.1.document state.1.qualifier path method item operation
  let after := state.1.absorbAll noticed.notices
  (after, state.2 ++ [noticed.value.renameSymbols after.symbolOf])

end Extraction

/-- What a document contributes. -/
structure Extraction where
  endpoints : List Endpoint
  declarations : List Declaration
  warnings : List Warning

/-- The endpoints of a document, and the declarations they mention. -/
def Document.extract (document : Document) (qualifier : String) : Extraction :=
  let (resolver, endpoints) :=
    (Extraction.operations document).foldl Extraction.withOperation ({ document, qualifier }, [])
  let (declarations, final) := resolver.declarations
  ⟨endpoints, declarations, final.warnings⟩

end TypedClient
