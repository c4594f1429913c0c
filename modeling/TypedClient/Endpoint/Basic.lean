import TypedClient.Naming
import TypedClient.Shape.Render

/-!
Contract: endpoints, the units of generation.

Owns:
- `Method` and `Endpoint`, with the names that several generated files have to agree on;
- the arguments of the request function of an endpoint, in their order;
- renaming an endpoint, and the declarations that its shapes mention.

Does not own: where an endpoint comes from, and how its code is written.
-/

namespace TypedClient

/-- The methods for which code is generated. -/
inductive Method where
  | get
  | post
  | put
  | patch
  | delete
deriving DecidableEq, Repr, Inhabited

namespace Method

def all : List Method := [.get, .post, .put, .patch, .delete]

/-- The method in lower case, as it stands in keys and names. -/
def key : Method → String
  | .get => "get"
  | .post => "post"
  | .put => "put"
  | .patch => "patch"
  | .delete => "delete"

/-- The method in upper case, as it stands in labels. -/
def label : Method → String
  | .get => "GET"
  | .post => "POST"
  | .put => "PUT"
  | .patch => "PATCH"
  | .delete => "DELETE"

def ofKey? (key : String) : Option Method :=
  all.find? (fun method => method.key = key)

/-- Whether the endpoints of a method only query. -/
def isQuery : Method → Bool
  | .get => true
  | _ => false

/-- Whether a request takes its body along with its options. -/
def bodyInOptions : Method → Bool
  | .get | .delete => true
  | _ => false

theorem ofKey?_key (method : Method) : ofKey? method.key = some method := by
  cases method <;> rfl

end Method

/-- A parameter of the path or the query of an endpoint. -/
structure EndpointParameter where
  /-- The name in the document. -/
  name : String
  identifier : String
  shape : Shape
  required : Bool
deriving Repr, Inhabited

/-- One operation of one path. -/
structure Endpoint where
  method : Method
  path : String
  operationId : Option String
  summary : Option String
  deprecated : Bool
  /-- The name of the path, under the qualifier of its document. -/
  camelName : String
  /-- The stem of the names of its types. -/
  typeName : String
  queryParameters : List EndpointParameter
  pathParameters : List EndpointParameter
  requestBody : Option Shape
  response : Option Shape
deriving Repr, Inhabited

/-- What an argument of a request function is. -/
inductive ArgumentKind where
  | path
  | query
  | body
deriving DecidableEq, Repr

/-- An argument of a request function. -/
structure Argument where
  name : String
  type : String
  kind : ArgumentKind
deriving DecidableEq, Repr

/-- The parameter with every declared name replaced. -/
def EndpointParameter.renameSymbols (newName : String → String) (parameter : EndpointParameter) :
    EndpointParameter :=
  { parameter with shape := parameter.shape.rename newName }

namespace Endpoint

def withName (endpoint : Endpoint) (camelName : String) : Endpoint :=
  { endpoint with camelName, typeName := Naming.typeName endpoint.method.key camelName }

/-- The endpoint with every declared name replaced in all its shapes. -/
def renameSymbols (newName : String → String) (endpoint : Endpoint) : Endpoint :=
  { endpoint with
    queryParameters := endpoint.queryParameters.map (EndpointParameter.renameSymbols newName)
    pathParameters := endpoint.pathParameters.map (EndpointParameter.renameSymbols newName)
    requestBody := endpoint.requestBody.map (Shape.rename newName)
    response := endpoint.response.map (Shape.rename newName) }

def functionName (endpoint : Endpoint) : String :=
  Naming.functionName endpoint.method.key endpoint.camelName

def hookName (endpoint : Endpoint) : String :=
  Naming.hookName endpoint.functionName

/-- The identifier of the operation: the one of the document, else the name of the function. -/
def identifier (endpoint : Endpoint) : String :=
  endpoint.operationId.getD endpoint.functionName

/-- The method and the path. -/
def label (endpoint : Endpoint) : String :=
  endpoint.method.label ++ " " ++ endpoint.path

def responseType? (endpoint : Endpoint) : Option String :=
  endpoint.response.map (fun _ => endpoint.typeName ++ "Response")

/-- The name of the type of the body, if there is one. -/
def requestType? (endpoint : Endpoint) : Option String :=
  endpoint.requestBody.map (fun _ => endpoint.typeName ++ "Request")

/-- The name of the type of the query parameters, if there are any. -/
def parametersType? (endpoint : Endpoint) : Option String :=
  if endpoint.queryParameters.isEmpty then none else some (endpoint.typeName ++ "Params")

/-- The names of the types that are declared for the endpoint, in the order of declaration. -/
def declaredTypes (endpoint : Endpoint) : List String :=
  endpoint.responseType?.toList ++ endpoint.requestType?.toList ++ endpoint.parametersType?.toList

/-- The argument for a path parameter, whose type is written out. -/
def pathArgument (parameter : EndpointParameter) : Argument :=
  ⟨parameter.identifier, parameter.shape.render 0, .path⟩

/-- The arguments of the request function: the path parameters, then the query parameters
together, then the body. -/
def arguments (endpoint : Endpoint) : List Argument :=
  endpoint.pathParameters.map pathArgument ++
    (endpoint.parametersType?.map (fun type => ⟨"params", type, .query⟩)).toList ++
    (endpoint.requestType?.map (fun type => ⟨"body", type, .body⟩)).toList

end Endpoint

end TypedClient
