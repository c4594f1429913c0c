import TypedClient.Client.Artifact
import TypedClient.Model
import TypedClient.Script.File

/-!
Contract: the file of hooks.

Owns:
- a query hook for each endpoint that only queries: the arguments of its request function, and a
  key made of its name and these arguments;
- a mutation hook for every other endpoint, with one input that holds all arguments.

Does not own: the request functions that the hooks call.
-/

namespace TypedClient.Client

open TypedClient.Script

/-- The type of an argument of a hook: written out for a path parameter, else read off the request
function at the position of the argument. -/
def argumentType (function : String) (position : Nat) (argument : Argument) : String :=
  match argument.kind with
  | .path => argument.type
  | .query | .body => "Parameters<typeof " ++ function ++ ">[" ++ toString position ++ "]"

def typedArguments (function : String) (arguments : List Argument) : List (String × String) :=
  arguments.zipIdx.map (fun (argument, position) =>
    (argument.name, argumentType function position argument))

def callWith (function : String) (arguments : List Argument) : Expression :=
  .call (.name function) [] (arguments.map (fun argument => .name argument.name))

/-- The key under which the answer to a query is kept. -/
def queryKey (endpoint : Endpoint) : List Expression :=
  .text endpoint.camelName :: endpoint.arguments.map (fun argument => .name argument.name)

def queryHook (endpoint : Endpoint) : Function where
  name := endpoint.hookName
  parameters :=
    (typedArguments endpoint.functionName endpoint.arguments).map (fun (name, type) =>
      Binder.typed name type) ++
    [⟨"options", some "\x7b enabled?: boolean \x7d", true⟩]
  body :=
    let query :=
      if endpoint.arguments.isEmpty then .name endpoint.functionName
      else .arrow [] (callWith endpoint.functionName endpoint.arguments)
    [.return (.call (.name "useQuery") [] [.object .lines [
      ("queryKey", some (.list (queryKey endpoint))),
      ("queryFn", some query),
      ("enabled", some (.code "options?.enabled ?? true"))]])]

/-- The one input of a mutation: an object with a field for each argument, taken apart. -/
def mutationInput (endpoint : Endpoint) : Binder :=
  let arguments := typedArguments endpoint.functionName endpoint.arguments
  Binder.typed
    ("\x7b " ++ ", ".intercalate (arguments.map Prod.fst) ++ " \x7d")
    ("\x7b " ++ "; ".intercalate (arguments.map (fun (name, type) => name ++ ": " ++ type)) ++
      " \x7d")

/-- The function that a mutation calls: the request function itself if it has at most one argument
that is not part of the path. -/
def mutationFunction (endpoint : Endpoint) : Expression :=
  if endpoint.arguments.length ≤ 1 && endpoint.pathParameters.isEmpty then
    .name endpoint.functionName
  else .arrow [mutationInput endpoint] (callWith endpoint.functionName endpoint.arguments)

/-- The hook of an endpoint that changes something. -/
def mutationHook (fallbackMessage : String) (endpoint : Endpoint) : Function where
  name := endpoint.hookName
  body :=
    let notify := "toast.error(error.response?.data?.errors?.[0]?.msg || " ++
      literal fallbackMessage ++ ")"
    [.return (.call (.name "useMutation") [] [.object .lines [
      ("mutationFn", some (mutationFunction endpoint)),
      ("onError", some (.function [Binder.typed "error" "any"] [.evaluate (.code notify)]))]])]

def hook (fallbackMessage : String) (endpoint : Endpoint) : Function :=
  if endpoint.method.isQuery then queryHook endpoint else mutationHook fallbackMessage endpoint

def hookImports (model : Model) : List Import :=
  let queries := if model.queries.isEmpty then [] else ["useQuery"]
  let mutations := if model.mutations.isEmpty then [] else ["useMutation"]
  let framework := queries ++ mutations
  (if framework.isEmpty then [] else [⟨none, framework, "@tanstack/react-query", false⟩]) ++
    (if model.mutations.isEmpty then [] else [⟨none, ["toast"], "sonner", false⟩]) ++
    if model.endpoints.isEmpty then []
    else
      [⟨none, model.endpoints.map Endpoint.functionName, ArtifactKind.requests.specifier, false⟩]

def hooksFile (fallbackMessage : String) (model : Model) : File where
  header := banner "Auto-generated React Query hooks"
  imports := hookImports model
  items := model.endpoints.map (fun endpoint => (hook fallbackMessage endpoint).render)

end TypedClient.Client
