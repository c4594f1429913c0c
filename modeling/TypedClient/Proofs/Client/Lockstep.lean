import TypedClient.Client.Hooks
import TypedClient.Client.Requests
import TypedClient.Proofs.Client.TypeNames
import TypedClient.Proofs.Endpoint.PathParameters
import TypedClient.Proofs.Model.EndpointNames
import TypedClient.Proofs.Script.Callees

/-!
Contract: the generated files agree on the names they share.

Owns:
- what one hook calls, and that it wraps the request function of its endpoint;
- which names the files of requests and of hooks import, against what the other files export;
- `InLockstep`, all of this for one model, and that every model of documents has it.

Does not own: names that types mention inside.
-/

namespace TypedClient

namespace Client

open Script
open TypeText (Exact Token IsWord)

/-! ## One hook -/

/-- The names that hooks take from elsewhere than the file of requests. -/
def frameworkNames : List String := ["useQuery", "useMutation", "toast"]

/-- An expression is a function, or calls it with the names of its parameters. -/
def Calls (function : Function) (expression : Expression) : Prop :=
  expression = .name function.name ∨ ∃ parameters,
    expression = .arrow parameters (.call (.name function.name) []
      (function.parameters.map (fun parameter => .name parameter.name)))

/-- All that a hook does is to hand a request function to the framework. -/
structure Wraps (hook function : Function) (framework key : String) : Prop where
  body : ∃ members value,
    hook.body = [.return (.call (.name framework) [] [.object .lines members])] ∧
      (key, some value) ∈ members ∧ Calls function value
  /-- No other function is called. -/
  only : ∀ name ∈ hook.callees, name ∈ frameworkNames ∨ name = function.name

theorem calls_arrow (endpoint : Endpoint) (parameters : List Binder) :
    Calls (requestFunction endpoint)
      (.arrow parameters (callWith endpoint.functionName endpoint.arguments)) := by
  refine Or.inr ⟨parameters, ?_⟩
  rw [callWith, requestFunction, List.map_map]
  rfl

/-- A function, or a call of it with names, calls nothing else. -/
theorem callees_of_calls {function : Function} {expression : Expression}
    (calls : Calls function expression) :
    callees expression = [] ∨ callees expression = [function.name] := by
  rcases calls with rfl | ⟨parameters, rfl⟩
  · exact Or.inl rfl
  · right
    rw [callees, callees, calleesOfItems_map_name]
    rfl

theorem eq_name_of_calls {function : Function} {expression : Expression} {name : String}
    (calls : Calls function expression) (member : name ∈ callees expression) :
    name = function.name := by
  rcases callees_of_calls calls with none | one
  · rw [none] at member
    exact absurd member List.not_mem_nil
  · rw [one] at member
    exact List.mem_singleton.1 member

/-- What a query hands to the framework. -/
def queryFunction (endpoint : Endpoint) : Expression :=
  if endpoint.arguments.isEmpty then .name endpoint.functionName
  else .arrow [] (callWith endpoint.functionName endpoint.arguments)

theorem calls_queryFunction (endpoint : Endpoint) :
    Calls (requestFunction endpoint) (queryFunction endpoint) := by
  unfold queryFunction
  split
  · exact Or.inl rfl
  · exact calls_arrow endpoint []

theorem calls_mutationFunction (endpoint : Endpoint) :
    Calls (requestFunction endpoint) (mutationFunction endpoint) := by
  unfold mutationFunction
  split
  · exact Or.inl rfl
  · exact calls_arrow endpoint _

theorem callees_queryHook (endpoint : Endpoint) :
    (queryHook endpoint).callees = "useQuery" :: callees (queryFunction endpoint) := by
  have inKey : calleesOfItems (queryKey endpoint) = [] :=
    calleesOfItems_map_name endpoint.arguments Argument.name
  have inOptions : calledIn "options?.enabled ?? true" = [] := by decide
  simp only [Function.callees, queryHook, calleesOfStatements, calleesOfStatement, callees,
    calledName, calleesOfItems, calleesOfMembers, inKey, inOptions, List.append_nil,
    List.nil_append, List.singleton_append]
  rfl

theorem calledIn_notify (message : String) :
    calledIn ("toast.error(error.response?.data?.errors?.[0]?.msg || " ++ literal message ++ ")") =
      ["toast"] := by
  have called : Exact ("toast.error" ++ "(") [.word "toast.error", .openGroup] :=
    .word _ (.of_head rfl) (.of_marks rfl rfl)
  have response : Exact ("error.response" ++ "?") [.word "error.response", .question] :=
    .word _ (.of_head rfl) (.of_marks rfl rfl)
  have data : Exact (".data" ++ "?") [.word ".data", .question] :=
    .word _ (.of_head rfl) (.of_marks rfl rfl)
  have errors : Exact (".errors" ++ "?") [.word ".errors", .question] :=
    .word _ (.of_head rfl) (.of_marks rfl rfl)
  have first : Exact ("." ++ "[") [.word ".", .openBracket] :=
    .word _ (.of_head rfl) (.of_marks rfl rfl)
  have index : Exact ("0" ++ "]?") [.word "0", .closeBracket, .question] :=
    .word _ (.of_head rfl) (.of_marks rfl rfl)
  have text : Exact (".msg" ++ " || ") [.word ".msg", .bar, .bar] :=
    .word _ (.of_head rfl) (.of_marks rfl rfl)
  have behind := (Exact.quotedKey message).append (.of_marks rfl rfl : Exact ")" [.closeGroup])
  have whole := ((((((called.append response).append data).append errors).append first).append
    index).append text).append behind
  have scanned := whole.writes.spelled.scan (by
    intro word member
    simp at member
    rcases member with rfl | rfl | rfl | rfl | rfl | rfl | rfl <;> decide)
  have sameText : "toast.error(error.response?.data?.errors?.[0]?.msg || " ++ literal message ++
      ")" = "toast.error" ++ "(" ++ ("error.response" ++ "?") ++ (".data" ++ "?") ++
        (".errors" ++ "?") ++ ("." ++ "[") ++ ("0" ++ "]?") ++ (".msg" ++ " || ") ++
        (literal message ++ ")") := by
    rw [← String.append_assoc]
    rfl
  rw [calledIn, TypeText.scan, sameText, scanned]
  rfl

theorem callees_mutationHook (message : String) (endpoint : Endpoint) :
    (mutationHook message endpoint).callees =
      "useMutation" :: callees (mutationFunction endpoint) ++ ["toast"] := by
  rw [← calledIn_notify message]
  simp [Function.callees, mutationHook, calleesOfStatements, calleesOfStatement, callees,
    calledName, calleesOfItems, calleesOfMembers]

theorem functionName_not_mem_frameworkNames (endpoint : Endpoint) :
    endpoint.functionName ∉ frameworkNames := by
  intro member
  have heads : endpoint.functionName.toList.head? ∈
      frameworkNames.map (fun name => name.toList.head?) := List.mem_map_of_mem member
  rw [Endpoint.functionName, Naming.functionName, String.toList_append] at heads
  revert heads
  cases endpoint.method <;> simp [Method.key, frameworkNames]

theorem wraps_hook (message : String) (endpoint : Endpoint) :
    Wraps (hook message endpoint) (requestFunction endpoint)
      (if endpoint.method.isQuery then "useQuery" else "useMutation")
      (if endpoint.method.isQuery then "queryFn" else "mutationFn") := by
  unfold hook
  cases endpoint.method.isQuery with
  | true =>
      refine ⟨⟨_, queryFunction endpoint, rfl, ?_, calls_queryFunction endpoint⟩, ?_⟩
      · exact List.mem_cons_of_mem _ List.mem_cons_self
      · intro name member
        rw [if_pos rfl, callees_queryHook, List.mem_cons] at member
        rcases member with rfl | member
        · exact Or.inl (by simp [frameworkNames])
        · exact Or.inr (eq_name_of_calls (calls_queryFunction endpoint) member)
  | false =>
      refine ⟨⟨_, mutationFunction endpoint, rfl, ?_, calls_mutationFunction endpoint⟩, ?_⟩
      · exact List.mem_cons_self
      · intro name member
        rw [if_neg nofun, callees_mutationHook, List.cons_append, List.mem_cons, List.mem_append,
          List.mem_singleton] at member
        rcases member with rfl | member | rfl
        · exact Or.inl (by simp [frameworkNames])
        · exact Or.inr (eq_name_of_calls (calls_mutationFunction endpoint) member)
        · exact Or.inl (by simp [frameworkNames])

/-- The name that the framework has for what a hook does is called by that kind of hook alone. -/
theorem framework_mem_callees_hook_iff (message : String) (endpoint : Endpoint) :
    ("useQuery" ∈ (hook message endpoint).callees ↔ endpoint.method.isQuery = true) ∧
      ("useMutation" ∈ (hook message endpoint).callees ↔ endpoint.method.isQuery = false) ∧
      ("toast" ∈ (hook message endpoint).callees ↔ endpoint.method.isQuery = false) := by
  have apart : ∀ expression, Calls (requestFunction endpoint) expression →
      ∀ name ∈ frameworkNames, name ∉ callees expression := by
    intro expression calls name isFramework member
    rw [eq_name_of_calls calls member] at isFramework
    exact functionName_not_mem_frameworkNames endpoint isFramework
  have ofQuery := apart _ (calls_queryFunction endpoint)
  have ofMutation := apart _ (calls_mutationFunction endpoint)
  simp only [frameworkNames, List.forall_mem_cons, List.not_mem_nil, false_implies, implies_true,
    and_true] at ofQuery ofMutation
  unfold hook
  cases endpoint.method.isQuery with
  | true =>
      rw [if_pos rfl, callees_queryHook]
      simp [ofQuery]
  | false =>
      rw [if_neg nofun, callees_mutationHook]
      simp [ofMutation]

/-! ## What a model imports and exports -/

/-- A function mentions a type: as the type of a parameter, or as what the answer to its request
is. -/
def Mentions (function : Function) (name : String) : Prop :=
  (∃ parameter ∈ function.parameters, parameter.type = some name) ∨
    ∃ answer callee types arguments,
      .constant answer (.await (.call callee types arguments)) ∈ function.body ∧ name ∈ types

theorem mentions_of_mem_declaredTypes {endpoint : Endpoint} {name : String}
    (member : name ∈ endpoint.declaredTypes) : Mentions (requestFunction endpoint) name := by
  have ofArgument : ∀ argument ∈ endpoint.arguments, argument.type = name →
      Mentions (requestFunction endpoint) name := by
    rintro argument isArgument rfl
    exact Or.inl ⟨Binder.typed argument.name argument.type, List.mem_map_of_mem isArgument, rfl⟩
  rw [Endpoint.declaredTypes, List.mem_append, List.mem_append, Option.mem_toList,
    Option.mem_toList, Option.mem_toList] at member
  rcases member with (isResponse | isRequest) | isParameters
  · refine Or.inr ⟨"response", _, _, _, List.mem_cons_self, ?_⟩
    rw [isResponse]
    exact List.mem_cons_self
  · apply ofArgument ⟨"body", name, .body⟩ _ rfl
    simp [Endpoint.arguments, Option.mem_def.1 isRequest]
  · apply ofArgument ⟨"params", name, .query⟩ _ rfl
    simp [Endpoint.arguments, Option.mem_def.1 isParameters]

/-- The file from which a hook takes what it does not take from the file of requests. -/
def frameworkSource (name : String) : String :=
  if name = "toast" then "sonner" else "@tanstack/react-query"

/-- The files of a model agree on the names that they share. -/
structure InLockstep (message : String) (model : Model) : Prop where
  /-- The file of types declares the types of the endpoints behind the hoisted ones. -/
  types : (typesFile model).items =
    (model.declarations.map declarationType ++ model.endpoints.flatMap endpointTypes).map
      TypeAlias.render
  /-- The file of requests imports these types, each once. -/
  aliases : importedFrom ArtifactKind.types.specifier (requestsFile model).imports =
    (model.endpoints.flatMap endpointTypes).map TypeAlias.name
  aliasesOnce : ((model.endpoints.flatMap endpointTypes).map TypeAlias.name).Nodup
  owner : ∀ name ∈ (model.endpoints.flatMap endpointTypes).map TypeAlias.name,
    ∃! endpoint, endpoint ∈ model.endpoints ∧ name ∈ (endpointTypes endpoint).map TypeAlias.name
  mentioned : ∀ endpoint ∈ model.endpoints, ∀ declared ∈ endpointTypes endpoint,
    Mentions (requestFunction endpoint) declared.name
  /-- The file of hooks imports the functions of the file of requests, each once. -/
  requests : (requestsFile model).items =
    (model.endpoints.map requestFunction).map Function.render
  functions : importedFrom ArtifactKind.requests.specifier (hooksFile message model).imports =
    (model.endpoints.map requestFunction).map Function.name
  functionsOnce : ((model.endpoints.map requestFunction).map Function.name).Nodup
  hooks : (hooksFile message model).items =
    (model.endpoints.map (hook message)).map Function.render
  wraps : ∀ endpoint ∈ model.endpoints,
    Wraps (hook message endpoint) (requestFunction endpoint)
      (if endpoint.method.isQuery then "useQuery" else "useMutation")
      (if endpoint.method.isQuery then "queryFn" else "mutationFn")
  framework : ∀ name ∈ frameworkNames,
    name ∈ importedFrom (frameworkSource name) (hooksFile message model).imports ↔
      ∃ endpoint ∈ model.endpoints, name ∈ (hook message endpoint).callees

/-- One import gives its names to those who look for its source. -/
theorem importedFrom_unless (empty : Bool) (names : List String) (origin source : String)
    (typesOnly : Bool) :
    importedFrom source (if empty then [] else [⟨none, names, origin, typesOnly⟩]) =
      if origin = source ∧ empty = false then names else [] := by
  cases empty with
  | true => simp [importedFrom]
  | false => by_cases same : origin = source <;> simp [importedFrom, same]

theorem importedFrom_hookImports (source : String) (model : Model) :
    importedFrom source (hookImports model) =
      (if "@tanstack/react-query" = source then
        (if model.queries.isEmpty then [] else ["useQuery"]) ++
          (if model.mutations.isEmpty then [] else ["useMutation"]) else []) ++
      ((if "sonner" = source ∧ model.mutations.isEmpty = false then ["toast"] else []) ++
        if ArtifactKind.requests.specifier = source then
          model.endpoints.map Endpoint.functionName else []) := by
  rw [hookImports]
  simp only [importedFrom_append, importedFrom_unless, List.append_assoc]
  congr 1
  · cases model.queries.isEmpty <;> cases model.mutations.isEmpty <;> simp
  · congr 1
    cases isEmpty : model.endpoints with
    | nil => simp
    | cons endpoint rest => simp

theorem framework_imported_iff (message : String) (model : Model) {name : String}
    (isFramework : name ∈ frameworkNames) :
    name ∈ importedFrom (frameworkSource name) (hooksFile message model).imports ↔
      ∃ endpoint ∈ model.endpoints, name ∈ (hook message endpoint).callees := by
  have ofQueries : model.queries.isEmpty = false ↔
      ∃ endpoint ∈ model.endpoints, endpoint.method.isQuery = true := by
    rw [Model.queries, List.isEmpty_eq_false_iff_exists_mem]
    simp
  have ofMutations : model.mutations.isEmpty = false ↔
      ∃ endpoint ∈ model.endpoints, endpoint.method.isQuery = false := by
    rw [Model.mutations, List.isEmpty_eq_false_iff_exists_mem]
    simp
  have imports : (hooksFile message model).imports = hookImports model := rfl
  have apart : ArtifactKind.requests.specifier ≠ "sonner" ∧
      ArtifactKind.requests.specifier ≠ "@tanstack/react-query" := by
    simp [ArtifactKind.specifier, ArtifactKind.moduleName]
  rw [imports, importedFrom_hookImports]
  simp only [frameworkNames, List.mem_cons, List.not_mem_nil, or_false] at isFramework
  rcases isFramework with rfl | rfl | rfl
  · have calls := fun endpoint => (framework_mem_callees_hook_iff message endpoint).1
    simp only [frameworkSource, calls, ← ofQueries]
    cases model.queries.isEmpty <;> simp [apart]
  · have calls := fun endpoint => (framework_mem_callees_hook_iff message endpoint).2.1
    simp only [frameworkSource, calls, ← ofMutations]
    cases model.mutations.isEmpty <;> simp [apart]
  · have calls := fun endpoint => (framework_mem_callees_hook_iff message endpoint).2.2
    simp only [frameworkSource, calls, ← ofMutations]
    cases model.mutations.isEmpty <;> simp [apart]

/-- A model whose endpoints are named apart has its files in lockstep. -/
theorem inLockstep_of_distinct (message : String) {model : Model}
    (distinct : (model.endpoints.map Endpoint.typeName).Nodup)
    (derived : ∀ endpoint ∈ model.endpoints, endpoint.Derived) : InLockstep message model := by
  have names : (model.endpoints.flatMap endpointTypes).map TypeAlias.name =
      model.endpoints.flatMap Endpoint.declaredTypes := by
    rw [List.map_flatMap]
    exact List.flatMap_congr (fun endpoint _ => name_endpointTypes endpoint)
  have aliasesOnce := Endpoint.flatMap_declaredTypes_nodup distinct
  have functions : (model.endpoints.map requestFunction).map Function.name =
      model.endpoints.map Endpoint.functionName := by
    rw [List.map_map]
    rfl
  constructor
  case types => rfl
  case aliases =>
    have mentioned : mentionedTypes model.endpoints =
        model.endpoints.flatMap Endpoint.declaredTypes := withoutRepeats_of_nodup aliasesOnce
    have imports : (requestsFile model).imports = requestImports model := rfl
    rw [imports, names, requestImports, mentioned, ← List.singleton_append, importedFrom_append,
      importedFrom_unless]
    cases isEmpty : model.endpoints.flatMap Endpoint.declaredTypes <;>
      simp [importedFrom, ArtifactKind.specifier, ArtifactKind.moduleName]
  case aliasesOnce => rwa [names]
  case owner =>
    intro name member
    rw [names, List.mem_flatMap] at member
    obtain ⟨endpoint, isEndpoint, declared⟩ := member
    refine ⟨endpoint, ⟨isEndpoint, by rwa [name_endpointTypes]⟩, ?_⟩
    rintro other ⟨isOther, otherDeclared⟩
    rw [name_endpointTypes] at otherDeclared
    exact List.inj_on_of_nodup_map distinct isOther isEndpoint
      (Endpoint.typeName_eq_of_mem_declaredTypes otherDeclared declared)
  case mentioned =>
    intro endpoint _ declared member
    apply mentions_of_mem_declaredTypes
    rw [← name_endpointTypes]
    exact List.mem_map_of_mem member
  case requests =>
    rw [List.map_map]
    rfl
  case functions =>
    have imports : (hooksFile message model).imports = hookImports model := rfl
    rw [imports, importedFrom_hookImports, functions]
    simp [ArtifactKind.specifier, ArtifactKind.moduleName]
  case functionsOnce =>
    rw [functions]
    exact Model.functionName_nodup derived distinct
  case hooks =>
    rw [List.map_map]
    rfl
  case wraps => exact fun endpoint _ => wraps_hook message endpoint
  case framework => exact fun name isFramework => framework_imported_iff message model isFramework

/-- **The files of every run are in lockstep.** -/
theorem files_in_lockstep (documents : List LoadedDocument) (message : String) :
    InLockstep message (Model.merge documents).1 := by
  obtain ⟨shares, _, merged⟩ := Model.merged_merge documents
  exact inLockstep_of_distinct message merged.typeName_nodup merged.derived

end Client

end TypedClient
