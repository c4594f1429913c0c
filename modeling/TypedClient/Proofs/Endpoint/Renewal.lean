import TypedClient.Proofs.Document.RenewedReferences
import TypedClient.Proofs.Endpoint.Agreement

/-!
Contract: the older and the newer form of a document give the same client.

Owns:
- the operations of a renewed document, with their parameters, bodies and responses;
- that a document in the older form and the renewed one have the same extracted endpoints and
  declarations.

Does not own: where the references of a renewed document lead.
-/

namespace TypedClient

namespace Extraction

variable {document : Document} {qualifier : String} {entry : Entry}

/-- An operation of a document, as the renewed document has it. -/
def renewedEntry (document : Document) (entry : Entry) : Entry :=
  (entry.1, document.renewedItem entry.2.1, entry.2.2.1,
    document.renewedOperation entry.2.1 entry.2.2.2)

theorem operations_renewed (document : Document) :
    operations document.renewed = (operations document).map (renewedEntry document) := by
  rw [operations, operations, List.map_flatMap]
  change (document.paths.map (fun entry => (entry.1, document.renewedItem entry.2))).flatMap _ = _
  rw [List.flatMap_map]
  apply List.flatMap_congr
  rintro ⟨path, item⟩ _
  change ((item.operations.map (fun entry =>
    (entry.1, document.renewedOperation item entry.2))).filterMap _) = _
  rw [List.filterMap_map, List.map_filterMap]
  apply List.filterMap_congr
  rintro ⟨key, operation⟩ _
  simp only [Function.comp_apply, Option.map_map]
  rfl

/-! ## Parameters -/

/-- The parameters but for the body, each with a schema for its bare type name. -/
def renewedList (parameters : List Parameter) : List Parameter :=
  (parameters.filter (fun parameter => parameter.location ≠ "body")).map Parameter.renewed

theorem renewedList_withParameter_body {parameters : List Parameter} {parameter : Parameter}
    (isBody : parameter.location = "body") :
    renewedList (withParameter parameters parameter) = renewedList parameters := by
  rw [renewedList, renewedList, withParameter, List.filter_append, List.filter_filter]
  simp only [isBody, List.filter_singleton]
  rw [decide_eq_false (not_not_intro rfl), cond_false, List.append_nil]
  congr 1
  apply List.filter_congr
  intro earlier _
  by_cases isEarlierBody : earlier.location = "body" <;> simp [isEarlierBody]

theorem renewedList_withParameter {parameters : List Parameter} {parameter : Parameter}
    (notBody : parameter.location ≠ "body") :
    renewedList (withParameter parameters parameter) =
      withParameter (renewedList parameters) parameter.renewed := by
  rw [renewedList, renewedList, withParameter, withParameter, List.filter_append, List.map_append,
    List.filter_map, List.filter_filter, List.filter_filter, List.filter_singleton,
    decide_eq_true notBody]
  congr 2
  apply List.filter_congr
  intro earlier _
  exact Bool.and_comm ..

theorem foldl_withParameter_renewedList (found earlier : List Parameter) :
    (renewedList found).foldl withParameter (renewedList earlier) =
      renewedList (found.foldl withParameter earlier) := by
  induction found generalizing earlier with
  | nil => rfl
  | cons parameter rest inductionHypothesis =>
      rw [List.foldl_cons, ← inductionHypothesis]
      by_cases isBody : parameter.location = "body"
      · rw [renewedList_withParameter_body isBody]
        simp [renewedList, isBody]
      · rw [renewedList_withParameter isBody]
        simp [renewedList, isBody]

/-- The parameters found in a list, when it is renewed: those found before, but for the body. -/
theorem filterMap_renewedParameters (older : document.OlderForm)
    {items : List (OrReference Parameter)} (areItems : items ⊆ document.parameterItems) :
    (document.renewedParameters items).filterMap (fun item =>
        (document.renewed.parameter item).toOption) =
      renewedList (items.filterMap (fun item => (document.parameter item).toOption)) := by
  rw [Document.renewedParameters, renewedList, List.filterMap_map, List.filterMap_filter,
    List.filter_filterMap, List.map_filterMap]
  apply List.filterMap_congr
  intro item isItem
  rw [Function.comp_apply, Document.toOption_parameter_renewed older (areItems isItem)]
  cases found : document.parameter item with
  | error warning => simp [Except.toOption]
  | ok parameter =>
      by_cases isBody : parameter.location = "body" <;>
        simp [Document.isBody, found, isBody, Except.toOption]

/-- The parameters of an operation of the renewed document. -/
theorem parametersOf_renewed (older : document.OlderForm) (isEntry : entry ∈ operations document) :
    parametersOf document.renewed (renewedEntry document entry) =
      renewedList (parametersOf document entry) := by
  have areItems : entry.2.1.parameters ++ entry.2.2.2.parameters ⊆ document.parameterItems :=
    fun item isItem => List.mem_append_left _ (List.mem_flatMap_of_mem isEntry isItem)
  rw [parametersOf, parametersOf, value_mergedParameters, value_mergedParameters,
    ← foldl_withParameter_renewedList, ← filterMap_renewedParameters older areItems,
    Document.renewedParameters, List.filter_append, List.map_append]
  rfl

theorem located_renewedList {location : String} (notBody : location ≠ "body")
    (parameters : List Parameter) :
    located location (renewedList parameters) = (located location parameters).map Parameter.renewed := by
  rw [located, located, renewedList, List.filter_map, List.filter_filter]
  congr 1
  apply List.filter_congr
  intro parameter _
  by_cases isThere : parameter.location = location
  · simp [Parameter.renewed, isThere, notBody]
  · simp [Parameter.renewed, isThere]

theorem located_body_renewedList (parameters : List Parameter) :
    located "body" (renewedList parameters) = [] := by
  rw [located, renewedList, List.filter_map, List.filter_filter, List.map_eq_nil_iff,
    List.filter_eq_nil_iff]
  intro parameter _
  by_cases isBody : parameter.location = "body" <;> simp [Parameter.renewed, isBody]

theorem value_parameterShape_renewed (older : document.OlderForm) (parameter : Parameter) :
    (parameterShape document.renewed parameter.renewed).value =
      (parameterShape document parameter).value := by
  obtain ⟨name, location, required, schema?, typeName?⟩ := parameter
  cases schema? with
  | some schema => exact Document.expand_renewed older [] schema
  | none =>
      cases typeName? with
      | none => rfl
      | some typeName =>
          change document.renewed.expand [] (Schema.ofType typeName) = _
          rw [Schema.ofType_eq]
          exact expand_ofTypeName document document.renewed typeName

/-! ## Bodies and responses -/

theorem bodyParameterSchema?_eq {parameters : List Parameter}
    (oneBody : (located "body" parameters).length ≤ 1) :
    bodyParameterSchema? parameters = (located "body" parameters).head?.bind Parameter.schema := by
  rw [bodyParameterSchema?]
  match located "body" parameters, oneBody with
  | [], _ => rfl
  | [_], _ => rfl

/-- The body of an operation of the renewed document: that of its body parameter, renewed. -/
theorem bodySchema?_renewed (older : document.OlderForm) (isEntry : entry ∈ operations document) :
    bodySchema? document.renewed (renewedEntry document entry) =
      (bodySchema? document entry).map Schema.renewed := by
  have noBody : (ownBodySchema document entry.2.2.2).value = none := by
    rw [ownBodySchema, older.noRequestBody entry isEntry]
    rfl
  have noParameter : bodyParameterSchema?
      (parametersOf document.renewed (renewedEntry document entry)) = none := by
    rw [parametersOf_renewed older isEntry, bodyParameterSchema?, located_body_renewedList]
    rfl
  rw [bodySchema?, bodySchema?, noBody, noParameter, Option.or_none, Option.none_or,
    bodyParameterSchema?_eq (older.oneBody entry isEntry)]
  have isBody : (renewedEntry document entry).2.2.2.requestBody =
      ((located "body" (parametersOf document entry)).head?.bind Parameter.schema).map
        (fun schema => .inline { content := jsonContent schema.renewed }) := rfl
  rw [ownBodySchema, isBody]
  cases (located "body" (parametersOf document entry)).head?.bind Parameter.schema <;> rfl

theorem value_responseSchema (document : Document) (operation : Operation) :
    (responseSchema document operation).value =
      (successStatuses.findSome? operation.responses.lookup?).bind (fun item =>
        (document.response item).toOption.bind Response.jsonSchema?) := by
  rw [responseSchema]
  cases successStatuses.findSome? operation.responses.lookup? with
  | none => rfl
  | some item =>
      change (Noticed.ofExcept (document.response item)).value.bind _ = _
      rw [value_ofExcept]
      rfl

/-- The response of an operation of the renewed document has the same schema, renewed. -/
theorem responseSchema_renewed (older : document.OlderForm) (isEntry : entry ∈ operations document) :
    (responseSchema document.renewed (renewedEntry document entry).2.2.2).value =
      (responseSchema document entry.2.2.2).value.map Schema.renewed := by
  have sameStatus : successStatuses.findSome?
      (renewedEntry document entry).2.2.2.responses.lookup? =
        (successStatuses.findSome? entry.2.2.2.responses.lookup?).map
          (OrReference.renewed Response.renewed) := by
    rw [List.map_findSome?]
    congr 1
    funext status
    exact Ordered.lookup?_mapValues _ _ status
  rw [value_responseSchema, value_responseSchema, sameStatus]
  cases found : successStatuses.findSome? entry.2.2.2.responses.lookup? with
  | none => rfl
  | some item =>
      obtain ⟨status, _, isResponse⟩ := List.exists_of_findSome?_eq_some found
      have isItem : item ∈ document.responseItems :=
        List.mem_append_left _ (List.mem_flatMap_of_mem isEntry
          (List.mem_map_of_mem (Ordered.mem_of_lookup? isResponse)))
      rw [Option.map_some, Option.bind_some, Option.bind_some,
        Document.toOption_response_renewed older isItem]
      cases followed : document.response item with
      | error warning => rfl
      | ok response =>
          have noContent := Document.content_eq_nil older isItem followed
          obtain ⟨content, schema?⟩ := response
          subst noContent
          cases schema? <;> rfl

/-! ## Endpoints -/

/-- An operation has the same endpoint in the renewed document, before components have symbols. -/
theorem value_source_renewed (older : document.OlderForm) (isEntry : entry ∈ operations document) :
    (source document.renewed qualifier (renewedEntry document entry)).value =
      (source document qualifier entry).value := by
  have sameExpansion : document.renewed.expand [] ∘ Schema.renewed = document.expand [] :=
    funext (Document.expand_renewed older [])
  refine value_source_congr rfl rfl rfl rfl rfl ?_ ?_ ?_
  · intro location isLocation
    have notBody : location ≠ "body" := by
      rintro rfl
      revert isLocation
      decide
    rw [parametersOf_renewed older isEntry, located_renewedList notBody, described, described,
      List.map_map]
    apply List.map_congr_left
    intro parameter _
    rw [Function.comp_apply, value_queryParameter, value_queryParameter,
      value_parameterShape_renewed older]
    rfl
  · rw [bodySchema?_renewed older isEntry, Option.map_map, sameExpansion]
  · rw [responseSchema_renewed older isEntry, Option.map_map, sameExpansion]

theorem sources_renewed (older : document.OlderForm) (qualifier : String) :
    sources document.renewed qualifier = sources document qualifier := by
  rw [sources, sources, operations_renewed, List.map_map]
  exact List.map_congr_left (fun entry isEntry => value_source_renewed older isEntry)

end Extraction

namespace Document

/-- **The older and the newer form give the same client.** A document in the older form, and the
document that results from writing it in the newer form, have the same endpoints and the same
declarations, under every qualifier. -/
theorem extract_renewed (document : Document) (older : document.OlderForm) (qualifier : String) :
    (document.renewed.extract qualifier).endpoints = (document.extract qualifier).endpoints ∧
      (document.renewed.extract qualifier).declarations =
        (document.extract qualifier).declarations := by
  apply Extraction.extract_eq (Extraction.sources_renewed older qualifier)
  · intro component
    rw [schema?_renewed older, Option.map_map]
    congr 1
    exact funext (expand_renewed older [component])
  · rw [schemaNames, schemaNames, older.noComponents]
    change ((document.definitions.mapValues Schema.renewed).keys ++ []).length = _
    rw [List.append_nil, Ordered.keys_mapValues]
    rfl

/-- A document in the older form: an operation with a bare type, a parameter and a response that
stand elsewhere, and a body whose schema refers to itself. -/
def olderDocument : Document where
  paths := [("/nodes", {
    parameters := [.inline ⟨"limit", "query", false, none, some "integer"⟩]
    operations := [("post", {
      parameters := [.reference "#/parameters/depth",
        .inline ⟨"node", "body", true, some (.reference "#/definitions/Node"), none⟩]
      responses := [("200", .reference "#/responses/Nodes")] })] })]
  definitions := [("Node", .object [("next", .reference "#/definitions/Node")] [] .closed)]
  parameters := [("depth", .inline ⟨"depth", "query", true, none, some "number"⟩)]
  responses := [("Nodes", .inline ⟨[], some (.array (.reference "#/definitions/Node"))⟩)]

theorem olderDocument_renewed_alike :
    (olderDocument.renewed.extract "").endpoints = (olderDocument.extract "").endpoints ∧
      (olderDocument.renewed.extract "").declarations = (olderDocument.extract "").declarations := by
  apply extract_renewed olderDocument
  refine ⟨rfl, ?_, ?_, ?_, ?_, ?_⟩
  · intro entry isEntry
    rw [List.mem_singleton.1 isEntry]
  · intro response isItem
    have isNodes : OrReference.inline response ∈ ([.reference "#/responses/Nodes",
        .inline ⟨[], some (.array (.reference "#/definitions/Node"))⟩] :
          List (OrReference Response)) := isItem
    simp only [List.mem_cons, reduceCtorEq, OrReference.inline.injEq, List.not_mem_nil, or_false,
      false_or] at isNodes
    rw [isNodes]
  · intro pointer isItem
    have isDepth : OrReference.reference pointer ∈ ([
        .inline ⟨"limit", "query", false, none, some "integer"⟩,
        .reference "#/parameters/depth",
        .inline ⟨"node", "body", true, some (.reference "#/definitions/Node"), none⟩,
        .inline ⟨"depth", "query", true, none, some "number"⟩] :
          List (OrReference Parameter)) := isItem
    simp only [List.mem_cons, reduceCtorEq, OrReference.reference.injEq, List.not_mem_nil, or_false,
      false_or] at isDepth
    rw [isDepth]
    decide +kernel
  · intro pointer isItem
    have isNodes : OrReference.reference pointer ∈ ([.reference "#/responses/Nodes",
        .inline ⟨[], some (.array (.reference "#/definitions/Node"))⟩] :
          List (OrReference Response)) := isItem
    simp only [List.mem_cons, reduceCtorEq, OrReference.reference.injEq, List.not_mem_nil, or_false]
      at isNodes
    rw [isNodes]
    decide +kernel
  · intro entry isEntry
    rw [List.mem_singleton.1 isEntry]
    decide +kernel

end Document

end TypedClient
