import TypedClient.Proofs.Endpoint.UsedSchemas
import TypedClient.Proofs.Reference.Correspondence

/-!
Contract: operations of two documents that have the same endpoint.

Owns:
- that the endpoint of an operation depends on nothing but what is described about it: its path,
  method and texts, the described parameters, and the shapes of its body and its response;
- that documents whose operations have the same endpoints, one by one, and whose components have the
  same expansions, have the same extracted endpoints and declarations.

Does not own: which documents have the same endpoints.
-/

namespace TypedClient.Extraction

variable {document second : Document} {qualifier : String}

/-- A bare type name means the same in every document. -/
theorem expand_ofTypeName (document second : Document) (typeName : String) :
    second.expand [] (Schema.ofTypeName typeName) =
      document.expand [] (Schema.ofTypeName typeName) :=
  Schema.expandWith_congr (by simp)

/-- The shape of a parameter depends on nothing of the document but the expansion of its schema. -/
theorem value_parameterShape_congr {parameter : Parameter}
    (same : ∀ schema ∈ parameter.schema, second.expand [] schema = document.expand [] schema) :
    (parameterShape second parameter).value = (parameterShape document parameter).value := by
  unfold parameterShape
  split
  · rename_i schema found
    exact same schema found
  · rename_i typeName found _
    exact expand_ofTypeName document second typeName
  · rfl

/-- What an endpoint takes from its parameters at one location. -/
def described (document : Document) (parameters : List Parameter) : List EndpointParameter :=
  parameters.map (fun parameter => (queryParameter document parameter).value)

/-- The path parameters from what is described: those of the placeholders, then the others. -/
def placed (path : String) (parameters : List EndpointParameter) : List EndpointParameter :=
  (pathPlaceholders path).map (fun name =>
      pathParameter name (((parameters.find? (fun parameter => parameter.name = name)).map
        EndpointParameter.shape).getD (.primitive .string))) ++
    (parameters.filter (fun parameter => !(pathPlaceholders path).contains parameter.name)).map
      (fun parameter => pathParameter parameter.name parameter.shape)

theorem value_pathParameters_eq_placed (path : String) (declared : List Parameter) :
    (pathParameters document path declared).value = placed path (described document declared) := by
  rw [value_pathParameters, placed, described, List.filter_map, List.map_map]
  congr 1
  apply List.map_congr_left
  intro name _
  have sameName : ((fun parameter : EndpointParameter => decide (parameter.name = name)) ∘
      fun parameter => (queryParameter document parameter).value) =
        fun parameter : Parameter => decide (parameter.name = name) := rfl
  rw [List.find?_map, value_placeholderParameter_eq, sameName]
  cases declared.find? (fun parameter => parameter.name = name) <;> rfl

/-- The endpoint of an operation depends on nothing but what is described about it. -/
theorem value_source_congr {entry other : Entry} (samePath : other.1 = entry.1)
    (sameMethod : other.2.2.1 = entry.2.2.1)
    (sameIdentifier : other.2.2.2.operationId = entry.2.2.2.operationId)
    (sameSummary : other.2.2.2.summary = entry.2.2.2.summary)
    (sameDeprecation : other.2.2.2.deprecated = entry.2.2.2.deprecated)
    (sameParameters : ∀ location ∈ ["query", "path"],
      described second (located location (parametersOf second other)) =
        described document (located location (parametersOf document entry)))
    (sameBody : (bodySchema? second other).map (second.expand []) =
      (bodySchema? document entry).map (document.expand []))
    (sameResponse : (responseSchema second other.2.2.2).value.map (second.expand []) =
      (responseSchema document entry.2.2.2).value.map (document.expand [])) :
    (source second qualifier other).value = (source document qualifier entry).value := by
  have sameQuery := sameParameters "query" (by simp)
  have samePlaced := sameParameters "path" (by simp)
  rw [value_source, value_source]
  simp only [value_pathParameters_eq_placed, value_optionalShape, samePath, sameMethod,
    sameIdentifier, sameSummary, sameDeprecation, samePlaced, sameBody, sameResponse]
  congr 1

/-! ## The whole document -/

/-- The notices of all operations are taken into account in their order. -/
theorem resolver_foldl_withOperation (entries : List Entry) (state : Resolver × List Endpoint) :
    (entries.foldl withOperation state).1 =
      state.1.absorbAll (entries.flatMap (fun entry =>
        (source state.1.document state.1.qualifier entry).notices)) := by
  induction entries generalizing state with
  | nil => rfl
  | cons entry rest inductionHypothesis =>
      have extended := Resolver.absorbAll_extends state.1
        (source state.1.document state.1.qualifier entry).notices
      rw [List.foldl_cons, inductionHypothesis, withOperation_eq, List.flatMap_cons]
      simp only [extended.document, extended.qualifier]
      exact (List.foldl_append ..).symm

/-- The cycles that the operations of a document meet are the names in its endpoints. -/
theorem component?_notices_operations (document : Document) (qualifier : String) :
    ((operations document).flatMap (fun entry =>
        (source document qualifier entry).notices)).filterMap Notice.component? =
      (sources document qualifier).flatMap Endpoint.symbols := by
  rw [sources, List.filterMap_flatMap, List.flatMap_map]
  exact List.flatMap_congr (fun entry _ =>
    (records_endpoint qualifier entry.1 entry.2.2.1 entry.2.1 entry.2.2.2).cycles)

/-- Documents with the same endpoints, before components have symbols, give the components the same
symbols. -/
theorem agrees_afterOperations (same : sources second qualifier = sources document qualifier) :
    (afterOperations document qualifier).1.Agrees (afterOperations second qualifier).1 := by
  rw [afterOperations, afterOperations, resolver_foldl_withOperation, resolver_foldl_withOperation]
  apply (Resolver.Agrees.initial document second qualifier).absorbAll
  rw [component?_notices_operations, component?_notices_operations, same]

/-- Documents with the same endpoints, before components have symbols, and with the same expansions
of their components have the same extracted endpoints and declarations. -/
theorem extract_eq (same : sources second qualifier = sources document qualifier)
    (sameComponents : ∀ component,
      (second.schema? component).map (second.expand [component]) =
        (document.schema? component).map (document.expand [component]))
    (sameLength : second.schemaNames.length = document.schemaNames.length) :
    (second.extract qualifier).endpoints = (document.extract qualifier).endpoints ∧
      (second.extract qualifier).declarations = (document.extract qualifier).declarations := by
  have agrees := agrees_afterOperations same
  have taken := taken_afterOperations document qualifier
  have takenSecond := taken_afterOperations second qualifier
  constructor
  · change (afterOperations second qualifier).2 = (afterOperations document qualifier).2
    rw [taken.endpoints, takenSecond.endpoints, agrees.symbolOf_eq]
    exact congrArg (List.map _) same
  · change (afterOperations second qualifier).1.declarations.1 =
      (afterOperations document qualifier).1.declarations.1
    rw [Resolver.declarations, Resolver.declarations, takenSecond.sameDocument, taken.sameDocument,
      sameLength]
    apply agrees.declarationsFrom_eq
    rw [takenSecond.sameDocument, taken.sameDocument]
    exact sameComponents

end TypedClient.Extraction
