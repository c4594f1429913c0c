import TypedClient.Client.Hooks
import TypedClient.Client.Requests
import TypedClient.Proofs.Client.TypeNames
import TypedClient.Proofs.Model.Names
import TypedClient.Proofs.Script.TypeTexts
import TypedClient.Proofs.Shape.TypeNames

/-!
Contract: the names of types in the files of requests and of hooks.

Owns:
- the names of types in a request function: the symbols of its path parameters, and the types
  declared for its endpoint;
- the names of types in a hook: the symbols of its path parameters alone;
- that all of them are imported exactly if these symbols are.

Does not own: the file of types, which declares them all.
-/

namespace TypedClient.Client

open Script
open TypeText (Cites IsWord isTypeName isWord_of_isName typeNamesOf?)

variable {endpoint : Endpoint}

/-! ## The words of an endpoint -/

theorem isWord_functionName (names : endpoint.GivesNames) :
    IsWord endpoint.functionName.toList := by
  rw [Endpoint.functionName, Naming.functionName, String.toList_append]
  have isKey : IsName endpoint.method.key.toList := by
    cases endpoint.method <;> exact ⟨by decide, by decide⟩
  exact isWord_of_isName (isKey.append (Naming.inName_capital names.camelName))

theorem inName_typeName (names : endpoint.GivesNames) :
    ∃ rest, endpoint.typeName.toList = 'I' :: rest ∧ InName rest := by
  refine ⟨endpoint.method.key.toList ++ (Naming.capital endpoint.camelName).toList, ?_, ?_⟩
  · rw [names.derived, Naming.typeName, String.toList_append, String.toList_append]
    rfl
  · refine inName_append.2 ⟨?_, Naming.inName_capital names.camelName⟩
    cases endpoint.method <;> decide

/-- The types declared for an endpoint have names that are not built in. -/
theorem isTypeName_of_mem_declaredTypes (names : endpoint.GivesNames) {name : String}
    (member : name ∈ endpoint.declaredTypes) : isTypeName name = true := by
  obtain ⟨role, isRole, rfl⟩ := List.mem_map.1 (endpoint.declaredTypes_sublist.subset member)
  obtain ⟨rest, written, inRest⟩ := inName_typeName names
  have inRole : ∀ role ∈ typeRoles, InName role.toList := by decide
  have whole : (endpoint.typeName ++ role).toList = 'I' :: (rest ++ role.toList) := by
    rw [String.toList_append, written]
    rfl
  have notBuiltIn : endpoint.typeName ++ role ∉ TypeText.builtInTypes := by
    intro isBuiltIn
    have heads : (endpoint.typeName ++ role).toList.head? ∈
        TypeText.builtInTypes.map (fun name => name.toList.head?) := List.mem_map_of_mem isBuiltIn
    rw [whole, List.head?_cons] at heads
    exact absurd heads (by decide)
  rw [isTypeName, whole, isPlainName_cons rfl (inName_append.2 ⟨inRest, inRole role isRole⟩)]
  simpa using notBuiltIn

/-- The name of a type is a type with that name alone. -/
theorem cites_of_mem_declaredTypes (names : endpoint.GivesNames) {name : String}
    (member : name ∈ endpoint.declaredTypes) : Cites name [name] := by
  have named := isTypeName_of_mem_declaredTypes names member
  have isPlain : isPlainName name.toList = true := by
    rw [isTypeName, Bool.and_eq_true] at named
    exact named.1
  have cites := Cites.word (TypeText.isWord_of_isPlainName isPlain)
  rwa [if_pos named] at cites

theorem cites_pathArgument (names : endpoint.GivesNames) {parameter : EndpointParameter}
    (member : parameter ∈ endpoint.pathParameters) :
    Cites (parameter.shape.render 0) (parameter.shape.symbols.filter isTypeName) := by
  apply Shape.cites_render
  intro symbol mentioned
  have inEndpoint : symbol ∈ endpoint.symbols :=
    List.mem_append_right _ (List.mem_append_left _ (List.mem_flatMap_of_mem member mentioned))
  exact isWord_of_isName (names.symbols symbol inEndpoint).toIsName

/-! ## Request functions -/

/-- The names of types that the path parameters of an endpoint have. -/
def pathTypeNames (endpoint : Endpoint) : List String :=
  (EndpointParameter.symbolsOf endpoint.pathParameters).filter isTypeName

theorem typeTexts_pathExpression (endpoint : Endpoint) :
    typeTexts (pathExpression endpoint) = [] := by
  unfold pathExpression
  split <;> rfl

theorem typeTexts_optionArguments (hasQuery hasBody : Bool) :
    typeTextsOfItems (optionArguments hasQuery hasBody) = [] := by
  cases hasQuery <;> cases hasBody <;> rfl

theorem typeTexts_bodyArguments (hasQuery hasBody : Bool) :
    typeTextsOfItems (bodyArguments hasQuery hasBody) = [] := by
  cases hasQuery <;> cases hasBody <;> rfl

theorem typeTexts_requestCall (endpoint : Endpoint) :
    typeTexts (requestCall endpoint) = [endpoint.responseType?.getD "unknown"] := by
  simp only [requestCall, typeTexts, typeTextsOfItems, typeTexts_pathExpression,
    List.nil_append, List.singleton_append, List.cons.injEq, true_and]
  split
  · exact typeTexts_optionArguments _ _
  · exact typeTexts_bodyArguments _ _

theorem typeTexts_requestFunction (endpoint : Endpoint) :
    (requestFunction endpoint).typeTexts =
      endpoint.arguments.map Argument.type ++ [endpoint.responseType?.getD "unknown"] := by
  have ofParameters : parameterTypes (requestFunction endpoint).parameters =
      endpoint.arguments.map Argument.type := by
    simp [parameterTypes, requestFunction, Binder.typed]
  rw [Function.typeTexts, ofParameters]
  congr 1
  simp [requestFunction, typeTextsOfStatements, typeTextsOfStatement, typeTexts,
    typeTexts_requestCall]

theorem map_type_arguments (endpoint : Endpoint) :
    endpoint.arguments.map Argument.type =
      endpoint.pathParameters.map (fun parameter => parameter.shape.render 0) ++
        (endpoint.parametersType?.toList ++ endpoint.requestType?.toList) := by
  rw [Endpoint.arguments, List.map_append, List.map_append, List.map_map, List.append_assoc]
  congr 2
  · cases endpoint.parametersType? <;> rfl
  · cases endpoint.requestType? <;> rfl

theorem typeNamesOf?_pathParameters (names : endpoint.GivesNames) :
    typeNamesOf? (endpoint.pathParameters.map (fun parameter => parameter.shape.render 0)) =
      some (pathTypeNames endpoint) := by
  rw [Cites.typeNamesOf?_map (fun _ member => cites_pathArgument names member), pathTypeNames,
    EndpointParameter.symbolsOf, List.filter_flatMap]

theorem typeNamesOf?_declaredTypes (names : endpoint.GivesNames) {types : List String}
    (declared : ∀ name ∈ types, name ∈ endpoint.declaredTypes) :
    typeNamesOf? types = some types := by
  have cited := @Cites.typeNamesOf?_map _ types id (fun name => [name])
    (fun name member => cites_of_mem_declaredTypes names (declared name member))
  simpa using cited

/-- The names of types in a request function. -/
theorem typeNames?_requestFunction (names : endpoint.GivesNames) :
    (requestFunction endpoint).typeNames? = some (pathTypeNames endpoint ++
      (endpoint.parametersType?.toList ++ endpoint.requestType?.toList) ++
        endpoint.responseType?.toList) := by
  have ofAnswer : typeNamesOf? [endpoint.responseType?.getD "unknown"] =
      some endpoint.responseType?.toList := by
    cases isResponse : endpoint.responseType? with
    | none =>
        have cites : Cites "unknown" [] := Cites.word (TypeText.isWord_of_isPlainName (by decide))
        exact TypeText.typeNamesOf?_cons [] cites.typeNames?
    | some name =>
        apply typeNamesOf?_declaredTypes names
        simp [Endpoint.declaredTypes, isResponse]
  have ofOthers : typeNamesOf? (endpoint.parametersType?.toList ++ endpoint.requestType?.toList) =
      some (endpoint.parametersType?.toList ++ endpoint.requestType?.toList) := by
    apply typeNamesOf?_declaredTypes names
    intro name member
    rw [Endpoint.declaredTypes]
    simp only [List.mem_append] at member ⊢
    tauto
  rw [Function.typeNames?, typeTexts_requestFunction, map_type_arguments]
  exact TypeText.typeNamesOf?_append
    (TypeText.typeNamesOf?_append (typeNamesOf?_pathParameters names) ofOthers) ofAnswer

/-! ## Hooks -/

/-- The names of types in the type that a hook gives to an argument. -/
def argumentNames (argument : Argument) : List String :=
  match argument.kind with
  | .path => (TypeText.typeNames? argument.type).getD []
  | .query | .body => []

theorem mem_arguments_cases {argument : Argument} (member : argument ∈ endpoint.arguments) :
    (∃ parameter ∈ endpoint.pathParameters, argument = Endpoint.pathArgument parameter) ∨
      (∃ type, argument = ⟨"params", type, .query⟩) ∨ ∃ type, argument = ⟨"body", type, .body⟩ := by
  rw [Endpoint.arguments, List.mem_append, List.mem_append] at member
  rcases member with (inPath | isQuery) | isBody
  · obtain ⟨parameter, isParameter, rfl⟩ := List.mem_map.1 inPath
    exact Or.inl ⟨parameter, isParameter, rfl⟩
  · obtain ⟨type, _, rfl⟩ := Option.map_eq_some_iff.1 (Option.mem_toList.1 isQuery)
    exact Or.inr (Or.inl ⟨type, rfl⟩)
  · obtain ⟨type, _, rfl⟩ := Option.map_eq_some_iff.1 (Option.mem_toList.1 isBody)
    exact Or.inr (Or.inr ⟨type, rfl⟩)

theorem isWord_argument
    (identifiers : ∀ parameter ∈ endpoint.pathParameters, IsName parameter.identifier.toList)
    {argument : Argument} (member : argument ∈ endpoint.arguments) :
    IsWord argument.name.toList := by
  rcases mem_arguments_cases member with ⟨parameter, isParameter, rfl⟩ | ⟨type, rfl⟩ | ⟨type, rfl⟩
  · exact isWord_of_isName (identifiers parameter isParameter)
  · exact (TypeText.isWord_of_isPlainName (by decide) : IsWord "params".toList)
  · exact (TypeText.isWord_of_isPlainName (by decide) : IsWord "body".toList)

theorem argumentNames_pathArgument (names : endpoint.GivesNames) {parameter : EndpointParameter}
    (member : parameter ∈ endpoint.pathParameters) :
    argumentNames (Endpoint.pathArgument parameter) =
      parameter.shape.symbols.filter isTypeName := by
  change (TypeText.typeNames? (parameter.shape.render 0)).getD [] = _
  rw [(cites_pathArgument names member).typeNames?, Option.getD_some]

theorem cites_argumentType (names : endpoint.GivesNames) {argument : Argument}
    (member : argument ∈ endpoint.arguments) (position : Nat) :
    Cites (argumentType endpoint.functionName position argument) (argumentNames argument) := by
  rcases mem_arguments_cases member with ⟨parameter, isParameter, rfl⟩ | ⟨type, rfl⟩ | ⟨type, rfl⟩
  · rw [argumentNames_pathArgument names isParameter]
    exact cites_pathArgument names isParameter
  · exact .parameter (isWord_functionName names) position
  · exact .parameter (isWord_functionName names) position

theorem flatMap_argumentNames (names : endpoint.GivesNames) :
    endpoint.arguments.flatMap argumentNames = pathTypeNames endpoint := by
  have ofPath : (endpoint.pathParameters.map Endpoint.pathArgument).flatMap argumentNames =
      pathTypeNames endpoint := by
    rw [List.flatMap_map, pathTypeNames, EndpointParameter.symbolsOf, List.filter_flatMap]
    exact List.flatMap_congr (fun parameter member => argumentNames_pathArgument names member)
  rw [Endpoint.arguments, List.flatMap_append, List.flatMap_append, ofPath]
  cases endpoint.parametersType? <;> cases endpoint.requestType? <;> simp [argumentNames]

/-- The arguments with their positions have the same names. -/
theorem flatMap_zipIdx_argumentNames (names : endpoint.GivesNames) :
    endpoint.arguments.zipIdx.flatMap (fun item => argumentNames item.1) =
      pathTypeNames endpoint := by
  rw [← flatMap_argumentNames names, ← List.flatMap_map, List.zipIdx_map_fst]

theorem cites_argumentType_zipIdx (names : endpoint.GivesNames) :
    ∀ item ∈ endpoint.arguments.zipIdx,
      Cites (argumentType endpoint.functionName item.2 item.1) (argumentNames item.1) :=
  fun _ member => cites_argumentType names (List.fst_mem_of_mem_zipIdx member) _

theorem typeTexts_callWith (endpoint : Endpoint) :
    typeTexts (callWith endpoint.functionName endpoint.arguments) = [] :=
  typeTextsOfItems_map_name endpoint.arguments Argument.name

theorem typeTexts_queryHook (endpoint : Endpoint) :
    (queryHook endpoint).typeTexts =
      endpoint.arguments.zipIdx.map (fun item =>
        argumentType endpoint.functionName item.2 item.1) ++
          ["\x7b enabled?: boolean \x7d"] := by
  have inKey : typeTextsOfItems (queryKey endpoint) = [] :=
    typeTextsOfItems_map_name endpoint.arguments Argument.name
  have inFunction : typeTexts (if endpoint.arguments.isEmpty then .name endpoint.functionName
      else .arrow [] (callWith endpoint.functionName endpoint.arguments)) = [] := by
    split
    · rfl
    · exact typeTexts_callWith endpoint
  have inBody : typeTextsOfStatements (queryHook endpoint).body = [] := by
    simp only [queryHook, typeTextsOfStatements, typeTextsOfStatement, typeTexts, typeTextsOfItems,
      typeTextsOfMembers, inKey, inFunction, List.append_nil]
  have inParameters : parameterTypes (queryHook endpoint).parameters =
      endpoint.arguments.zipIdx.map (fun item =>
        argumentType endpoint.functionName item.2 item.1) ++
          ["\x7b enabled?: boolean \x7d"] := by
    simp [queryHook, parameterTypes, typedArguments, Binder.typed]
  rw [Function.typeTexts, inBody, inParameters, List.append_nil]

theorem typeNames?_queryHook (names : endpoint.GivesNames) :
    (queryHook endpoint).typeNames? = some (pathTypeNames endpoint) := by
  have ofOptions : typeNamesOf? ["\x7b enabled?: boolean \x7d"] = some [] := by decide
  have ofArguments := Cites.typeNamesOf?_map (cites_argumentType_zipIdx names)
  rw [flatMap_zipIdx_argumentNames names] at ofArguments
  rw [Function.typeNames?, typeTexts_queryHook, TypeText.typeNamesOf?_append ofArguments ofOptions,
    List.append_nil]

theorem typeTexts_mutationHook (message : String) (endpoint : Endpoint) :
    (mutationHook message endpoint).typeTexts =
      typeTexts (mutationFunction endpoint) ++ ["any"] := by
  simp [mutationHook, Function.typeTexts, parameterTypes, typeTextsOfStatements,
    typeTextsOfStatement, typeTexts, typeTextsOfItems, typeTextsOfMembers, Binder.typed]

/-- A mutation whose input is a record has an argument to put there. -/
theorem zipIdx_arguments_ne_nil
    (isRecord : ¬ (endpoint.arguments.length ≤ 1 && endpoint.pathParameters.isEmpty)) :
    endpoint.arguments.zipIdx ≠ [] := by
  intro isEmpty
  have noArguments : endpoint.arguments = [] := by simpa using isEmpty
  have noPath : endpoint.pathParameters = [] := by
    rw [Endpoint.arguments, List.append_eq_nil_iff, List.append_eq_nil_iff] at noArguments
    exact List.map_eq_nil_iff.1 noArguments.1.1
  exact isRecord (by rw [noArguments, noPath]; rfl)

theorem typeNamesOf?_mutationFunction (names : endpoint.GivesNames) :
    typeNamesOf? (typeTexts (mutationFunction endpoint)) = some (pathTypeNames endpoint) := by
  unfold mutationFunction
  split
  · rename_i alone
    have noPath : endpoint.pathParameters = [] := by
      rw [Bool.and_eq_true, List.isEmpty_iff] at alone
      exact alone.2
    rw [pathTypeNames, noPath]
    rfl
  · rename_i several
    have cites := Cites.object (zipIdx_arguments_ne_nil several)
      (fun item member => isWord_argument names.identifiers (List.fst_mem_of_mem_zipIdx member))
      (cites_argumentType_zipIdx names)
    rw [flatMap_zipIdx_argumentNames names] at cites
    have text : typeTexts (.arrow [mutationInput endpoint]
        (callWith endpoint.functionName endpoint.arguments)) =
          ["\x7b " ++ "; ".intercalate (endpoint.arguments.zipIdx.map (fun item =>
            item.1.name ++ ": " ++ argumentType endpoint.functionName item.2 item.1)) ++
              " \x7d"] := by
      rw [typeTexts, typeTexts_callWith, mutationInput, typedArguments, List.map_map, List.map_map]
      rfl
    rw [text, TypeText.typeNamesOf?_cons [] cites.typeNames?]
    exact congrArg some (List.append_nil _)

theorem typeNames?_mutationHook (message : String) (names : endpoint.GivesNames) :
    (mutationHook message endpoint).typeNames? = some (pathTypeNames endpoint) := by
  have ofError : typeNamesOf? ["any"] = some [] := by decide
  rw [Function.typeNames?, typeTexts_mutationHook,
    TypeText.typeNamesOf?_append (typeNamesOf?_mutationFunction names) ofError, List.append_nil]

/-- The names of types in a hook. -/
theorem typeNames?_hook (message : String) (names : endpoint.GivesNames) :
    (hook message endpoint).typeNames? = some (pathTypeNames endpoint) := by
  unfold hook
  split
  · exact typeNames?_queryHook names
  · exact typeNames?_mutationHook message names

/-! ## What is imported -/

theorem mem_importedNames_requestImports {model : Model} {name : String} :
    name ∈ importedNames (requestImports model) ↔
      name = "axiosInstance" ∨ ∃ endpoint ∈ model.endpoints, name ∈ endpoint.declaredTypes := by
  have isMentioned : name ∈ mentionedTypes model.endpoints ↔
      ∃ endpoint ∈ model.endpoints, name ∈ endpoint.declaredTypes := by
    rw [mentionedTypes, mem_withoutRepeats, List.mem_flatMap]
  rw [← isMentioned, requestImports, importedNames, List.flatMap_cons]
  cases isEmpty : mentionedTypes model.endpoints <;> simp

/-- Symbols are told apart by their first characters from whatever is no type. -/
theorem not_notLower_functionName (endpoint : Endpoint) :
    ¬ NotLower endpoint.functionName.toList := by
  rw [Endpoint.functionName, Naming.functionName, String.toList_append, notLower_append]
  · cases endpoint.method <;> decide
  · cases endpoint.method <;> decide

theorem not_notLower_of_mem_hookImports {model : Model} {name : String}
    (member : name ∈ importedNames (hookImports model)) : ¬ NotLower name.toList := by
  have origin : name = "useQuery" ∨ name = "useMutation" ∨ name = "toast" ∨
      ∃ endpoint ∈ model.endpoints, endpoint.functionName = name := by
    rw [hookImports, importedNames, List.flatMap_append, List.flatMap_append, List.mem_append,
      List.mem_append] at member
    rcases member with (framework | toast) | functions
    · cases model.queries.isEmpty <;> cases model.mutations.isEmpty <;>
        simp at framework <;> tauto
    · have isToast : ¬ model.mutations = [] ∧ name = "toast" := by simpa using toast
      exact Or.inr (Or.inr (Or.inl isToast.2))
    · by_cases isEmpty : model.endpoints = []
      · simp [isEmpty] at functions
      · exact Or.inr (Or.inr (Or.inr (by simpa [isEmpty] using functions)))
  rcases origin with rfl | rfl | rfl | ⟨endpoint, _, rfl⟩
  · decide
  · decide
  · decide
  · exact not_notLower_functionName endpoint

theorem notLower_of_mem_pathTypeNames (names : endpoint.GivesNames) {symbol : String}
    (member : symbol ∈ pathTypeNames endpoint) : NotLower symbol.toList := by
  have inPath := (List.mem_filter.1 member).1
  exact (names.symbols symbol (List.mem_append_right _ (List.mem_append_left _ inPath))).notLower

/-- The types in a request function and in a hook can be read. The names in a request function are
those of the types declared for its endpoint and the symbols of its path parameters; all of them
are imported exactly if each of these symbols is also the name of a type declared for an endpoint.
A hook has the symbols alone, and imports none. -/
theorem type_names_imported_iff {documents : List LoadedDocument}
    (qualified : ∀ loaded ∈ documents, InName loaded.qualifier.toList) (message : String)
    {endpoint : Endpoint} (member : endpoint ∈ (Model.merge documents).1.endpoints) :
    let model := (Model.merge documents).1
    let requestNames := importedNames (requestsFile model).imports
    let hookNames := importedNames (hooksFile message model).imports
    (∃ names, (requestFunction endpoint).typeNames? = some names ∧
      (∀ name, name ∈ names ↔ name ∈ endpoint.declaredTypes ∨ name ∈ pathTypeNames endpoint) ∧
      ((∀ name ∈ names, name ∈ requestNames) ↔ ∀ symbol ∈ pathTypeNames endpoint,
        ∃ other ∈ model.endpoints, symbol ∈ other.declaredTypes)) ∧
    ∃ names, (hook message endpoint).typeNames? = some names ∧
      (∀ name, name ∈ names ↔ name ∈ pathTypeNames endpoint) ∧
      ((∀ name ∈ names, name ∈ hookNames) ↔ pathTypeNames endpoint = []) := by
  intro model requestNames hookNames
  have names := Model.givesNames_of_mem_merge qualified member
  have requestImported : ∀ name, name ∈ requestNames ↔
      name = "axiosInstance" ∨ ∃ other ∈ model.endpoints, name ∈ other.declaredTypes :=
    fun _ => mem_importedNames_requestImports
  have inRequest : ∀ name, name ∈ pathTypeNames endpoint ++
      (endpoint.parametersType?.toList ++ endpoint.requestType?.toList) ++
        endpoint.responseType?.toList ↔
      name ∈ endpoint.declaredTypes ∨ name ∈ pathTypeNames endpoint := by
    intro name
    rw [Endpoint.declaredTypes]
    simp only [List.mem_append]
    tauto
  refine ⟨⟨_, typeNames?_requestFunction names, inRequest, ?_⟩,
    ⟨_, typeNames?_hook message names, fun _ => Iff.rfl, ?_⟩⟩
  · constructor
    · intro imported symbol isSymbol
      have isImported := imported symbol ((inRequest symbol).2 (Or.inr isSymbol))
      rcases (requestImported symbol).1 isImported with rfl | declared
      · exact absurd (notLower_of_mem_pathTypeNames names isSymbol) (by decide)
      · exact declared
    · intro declared name isName
      rw [requestImported]
      rcases (inRequest name).1 isName with isDeclared | isSymbol
      · exact Or.inr ⟨endpoint, member, isDeclared⟩
      · exact Or.inr (declared name isSymbol)
  · constructor
    · intro imported
      rw [List.eq_nil_iff_forall_not_mem]
      intro symbol isSymbol
      exact not_notLower_of_mem_hookImports (imported symbol isSymbol)
        (notLower_of_mem_pathTypeNames names isSymbol)
    · intro none name isSymbol
      rw [none] at isSymbol
      exact absurd isSymbol List.not_mem_nil

/-- A document with one query that has a path parameter. -/
def queryDocuments (parameter : Schema) (responses : Ordered (OrReference Response))
    (components : Ordered Schema) : List LoadedDocument :=
  [{
    document := {
      paths := [("/nodes/\x7bnode\x7d", {
        operations := [("get", {
          parameters := [.inline ⟨"node", "path", true, some parameter, none⟩]
          responses })] })]
      components := { schemas := components } }
    qualifier := ""
    origin := "nodes.json" }]

/-- A response with some text. -/
def textResponses : Ordered (OrReference Response) :=
  [("200", .inline ⟨[], some (.primitive .string)⟩)]

theorem primitive_parameter_imported :
    let model := (Model.merge (queryDocuments (.primitive .string) textResponses [])).1
    ∃ endpoint ∈ model.endpoints, ∃ names, (requestFunction endpoint).typeNames? = some names ∧
      "IgetNodesByNodeResponse" ∈ names ∧
        ∀ name ∈ names, name ∈ importedNames (requestsFile model).imports := by
  refine ⟨_, List.mem_cons_self, ?_⟩
  obtain ⟨⟨names, areNames, members, imported⟩, _⟩ :=
    @type_names_imported_iff (queryDocuments (.primitive .string) textResponses [])
      (by decide) "failed" _ List.mem_cons_self
  exact ⟨names, areNames, (members _).2 (Or.inl (by decide +kernel)),
    imported.2 (by decide +kernel)⟩

/-- The schema of a node that leads to another node. -/
def nodeSchema : Schema := .object [("next", .reference "#/components/schemas/Node")] [] .closed

/-- A path parameter that is a node brings a symbol into the request function and into the hook, and
neither file imports it. -/
theorem path_symbol_not_imported :
    let model := (Model.merge
      (queryDocuments (.reference "#/components/schemas/Node") [] [("Node", nodeSchema)])).1
    ∃ endpoint ∈ model.endpoints,
      ((requestFunction endpoint).typeNames? = some ["Node"] ∧
        "Node" ∉ importedNames (requestsFile model).imports) ∧
      (hook "failed" endpoint).typeNames? = some ["Node"] ∧
        "Node" ∉ importedNames (hooksFile "failed" model).imports := by
  refine ⟨_, List.mem_cons_self, ⟨?_, ?_⟩, ?_, ?_⟩ <;> decide +kernel

end TypedClient.Client
