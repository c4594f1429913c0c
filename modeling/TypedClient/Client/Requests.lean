import TypedClient.Client.Artifact
import TypedClient.Model
import TypedClient.Script.File
import TypedClient.Text.Blank

/-!
Contract: the file of request functions.

Owns:
- one function for each endpoint, which sends the request and returns the data of the response;
- the expression for the path of a request;
- the types that the functions mention.

Does not own: the types themselves, and the instance that sends requests.
-/

namespace TypedClient.Client

open TypedClient.Script

/-- The types that some endpoints mention, each once. -/
def mentionedTypes (endpoints : List Endpoint) : List String :=
  withoutRepeats (endpoints.flatMap Endpoint.declaredTypes)

/-- The comment of a request function: the lines of the summary that are not blank, and whether
the operation is deprecated. -/
def commentLines (endpoint : Endpoint) : List String :=
  let summary := (endpoint.summary.getD "").toList
  let lines := (Text.splitWhere (· = '\n') summary).map Text.trim
  (lines.filter (fun line => !line.isEmpty)).map String.ofList ++
    if endpoint.deprecated then ["@deprecated"] else []

/-- The parameter that a piece of a path stands for. -/
def parameterOf? (parameters : List EndpointParameter) : PathPiece → Option EndpointParameter
  | .placeholder name => parameters.find? (fun parameter => parameter.name = String.ofList name)
  | _ => none

/-- The template for the pieces of a path behind some text: a placeholder with a parameter becomes
its value, and everything else stands as it is written. A placeholder without a parameter ends a
text, and what follows it is a text of its own. -/
def pathTemplate (parameters : List EndpointParameter) (text : List Char) :
    List PathPiece → List TemplatePart
  | [] => plainPart text
  | .placeholder name :: rest =>
      match parameterOf? parameters (.placeholder name) with
      | some parameter =>
          plainPart text ++ .substitution parameter.identifier :: pathTemplate parameters [] rest
      | none =>
          plainPart (text ++ (PathPiece.placeholder name).written) ++
            pathTemplate parameters [] rest
  | .plain more :: rest => pathTemplate parameters (text ++ more) rest
  | .unclosed more :: rest =>
      pathTemplate parameters (text ++ (PathPiece.unclosed more).written) rest

/-- The expression for the path of a request: a plain text if there is no brace in it. -/
def pathExpression (endpoint : Endpoint) : Expression :=
  if endpoint.path.toList.contains '{' then
    .template (pathTemplate endpoint.pathParameters [] (PathPiece.ofPath endpoint.path.toList))
  else .text endpoint.path

/-- What follows the path in a request that takes its body along with its options. -/
def optionArguments (hasQuery hasBody : Bool) : List Expression :=
  let members :=
    (if hasQuery then [("params", none)] else []) ++
      if hasBody then [("data", some (.name "body"))] else []
  if members.isEmpty then [] else [.object .inline members]

/-- What follows the path in a request whose body is an argument of its own. -/
def bodyArguments (hasQuery hasBody : Bool) : List Expression :=
  (if hasBody then [.name "body"] else if hasQuery then [.name "undefined"] else []) ++
    if hasQuery then [.object .inline [("params", none)]] else []

def requestCall (endpoint : Endpoint) : Expression :=
  let hasQuery := !endpoint.queryParameters.isEmpty
  let hasBody := endpoint.requestBody.isSome
  let rest :=
    if endpoint.method.bodyInOptions then optionArguments hasQuery hasBody
    else bodyArguments hasQuery hasBody
  .call (.member (.name "axiosInstance") endpoint.method.key)
    [endpoint.responseType?.getD "unknown"] (pathExpression endpoint :: rest)

def requestFunction (endpoint : Endpoint) : Function where
  name := endpoint.functionName
  comment := commentLines endpoint
  isAsync := true
  parameters := endpoint.arguments.map (fun argument =>
    Binder.typed argument.name argument.type)
  body := [
    .constant "response" (.await (requestCall endpoint)),
    .return (.member (.name "response") "data")]

/-- The imports of the file of request functions. -/
def requestImports (model : Model) : List Import :=
  let types := mentionedTypes model.endpoints
  { items := ["axiosInstance"], source := ArtifactKind.bootstrap.specifier } ::
    if types.isEmpty then []
    else [{ items := types, source := ArtifactKind.types.specifier, typesOnly := true }]

def requestsFile (model : Model) : File where
  header := banner "Auto-generated API request functions"
  imports := requestImports model
  items := model.endpoints.map (fun endpoint => (requestFunction endpoint).render)

end TypedClient.Client
