import TypedClient.Client.Artifact
import TypedClient.Model
import TypedClient.Script.File

/-!
Contract: the file of types.

Owns: one type for each declaration, and for each endpoint one for its response, its body and its
query parameters, as far as it has them.

Does not own: the text of structural types.
-/

namespace TypedClient.Client

open TypedClient.Script (TypeAlias File indentation key)

def declarationType (declaration : Declaration) : TypeAlias where
  name := declaration.symbol
  type := declaration.shape.render 0
  comment := some "Recursive schema component"

def queryParameterLine (parameter : EndpointParameter) : String :=
  indentation 1 ++ key parameter.name ++ (if parameter.required then "" else "?") ++ ": " ++
    parameter.shape.render 1 ++ ";\n"

def queryParametersType (parameters : List EndpointParameter) : String :=
  "\x7b\n" ++ String.join (parameters.map queryParameterLine) ++ "\x7d"

def endpointTypes (endpoint : Endpoint) : List TypeAlias :=
  let type (name role text : String) : TypeAlias :=
    ⟨name, text, some (endpoint.label ++ ": " ++ role)⟩
  let ofShape (name? : Option String) (role : String) (shape? : Option Shape) :=
    match name?, shape? with
    | some name, some shape => [type name role (shape.render 0)]
    | _, _ => []
  ofShape endpoint.responseType? "response" endpoint.response ++
    ofShape endpoint.requestType? "request body" endpoint.requestBody ++
    endpoint.parametersType?.toList.map (fun name =>
      type name "query parameters" (queryParametersType endpoint.queryParameters))

def modelTypes (model : Model) : List TypeAlias :=
  model.declarations.map declarationType ++ model.endpoints.flatMap endpointTypes

def typesFile (model : Model) : File where
  header := banner "Auto-generated API types"
  items := (modelTypes model).map TypeAlias.render

end TypedClient.Client
