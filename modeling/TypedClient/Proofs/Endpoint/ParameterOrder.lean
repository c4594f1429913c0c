import TypedClient.Proofs.Endpoint.UsedSchemas

/-!
Contract: which parameters an endpoint has, and in which order.

Owns:
- `Extraction.withoutReplaced`, the parameters that no later one replaces;
- that merging the parameters of a path and of an operation leaves these, in their order;
- the query parameters and the path parameters of an endpoint, one by one, from these and from the
  pieces of its path.

Does not own: the shapes of the parameters.
-/

namespace TypedClient.Extraction

variable {document : Document}

/-- The parameters but for those that a later one replaces, with the same name and location. -/
def withoutReplaced : List Parameter → List Parameter
  | [] => []
  | parameter :: later =>
      if later.any (fun other => other.place = parameter.place) then withoutReplaced later
      else parameter :: withoutReplaced later

/-- Merging on top of earlier parameters removes those of them that are replaced. -/
theorem foldl_withParameter (found earlier : List Parameter) :
    found.foldl withParameter earlier =
      earlier.filter (fun parameter => !found.any (fun other => other.place = parameter.place)) ++
        withoutReplaced found := by
  induction found generalizing earlier with
  | nil => simp [withoutReplaced]
  | cons parameter rest inductionHypothesis =>
      rw [List.foldl_cons, inductionHypothesis, withParameter, List.filter_append,
        List.filter_filter, List.append_assoc]
      congr 1
      -- An earlier parameter stays if neither the next one nor a later one replaces it.
      · apply List.filter_congr
        intro other _
        have samePlace : decide (parameter.place = other.place) =
            (decide (other.name = parameter.name) &&
              decide (other.location = parameter.location)) := by
          rw [← Bool.decide_and]
          exact decide_eq_decide.2 (eq_comm.trans Parameter.place_eq_iff)
        rw [List.any_cons, Bool.not_or, samePlace, Bool.and_comm]
      -- The next one itself stays if no later one replaces it.
      · rw [withoutReplaced]
        cases isReplaced : rest.any (fun other => other.place = parameter.place) <;>
          simp [isReplaced]

/-- The parameters of an operation are those that are found and that no later one replaces. -/
theorem value_mergedParameters_eq (document : Document) (item : PathItem) (operation : Operation) :
    (mergedParameters document item operation).value =
      withoutReplaced ((item.parameters ++ operation.parameters).filterMap (fun parameter =>
        (document.parameter parameter).toOption)) := by
  rw [value_mergedParameters, foldl_withParameter, List.filter_nil, List.nil_append]

/-- The path parameters one by one, with the declared names replaced. -/
theorem map_renameSymbols_pathParameters (newName : String → String) (path : String)
    (declared : List Parameter) :
    (pathParameters document path declared).value.map (EndpointParameter.renameSymbols newName) =
      (pathPlaceholders path).map (fun name =>
        pathParameter name (((declared.find? (fun parameter => parameter.name = name)).map
          (fun parameter => (parameterShape document parameter).value.rename newName)).getD
            (.primitive .string))) ++
      (declared.filter (fun parameter => parameter.name ∉ pathPlaceholders path)).map
        (fun parameter => pathParameter parameter.name
          ((parameterShape document parameter).value.rename newName)) := by
  rw [value_pathParameters, List.map_append, List.map_map, List.map_map]
  congr 1
  · apply List.map_congr_left
    intro name _
    rw [Function.comp_apply, value_placeholderParameter_eq]
    cases declared.find? (fun parameter => parameter.name = name) <;> rfl
  · congr 1
    apply List.filter_congr
    simp

theorem required_of_mem_pathParameters {path : String} {declared : List Parameter}
    {parameter : EndpointParameter}
    (member : parameter ∈ (pathParameters document path declared).value) :
    parameter.required = true := by
  obtain ⟨name, shape, rfl⟩ := exists_of_mem_pathParameters member
  rfl

/-- **The parameters of an endpoint, in their order.** The parameters of an operation are those of
its path and then its own, as far as they can be found and without those that a later one replaces.
The query parameters of its endpoint are the ones among them that are in the query. The path
parameters are one for each name in braces, where the name appears first in the path, with the type
of the declared path parameter of this name or else a string, and then the declared ones without a
place in the path. All path parameters are required. No name appears twice in either list. -/
theorem operation_parameters_in_order (state : Resolver × List Endpoint) (path : String)
    (item : PathItem) (method : Method) (operation : Operation) :
    let document := state.1.document
    let merged := withoutReplaced ((item.parameters ++ operation.parameters).filterMap
      (fun parameter => (document.parameter parameter).toOption))
    let declared := located "path" merged
    let after := withOperation state (path, item, method, operation)
    let typeOf := fun parameter : Parameter =>
      (parameterShape document parameter).value.rename after.1.symbolOf
    (mergedParameters document item operation).value = merged ∧
      ∃ endpoint pieces placeholders, after.2 = state.2 ++ [endpoint] ∧
        endpoint.queryParameters = (located "query" merged).map (fun parameter =>
          ⟨parameter.name, Script.identifier parameter.name, typeOf parameter,
            parameter.required⟩) ∧
        (endpoint.queryParameters.map EndpointParameter.name).Nodup ∧
        (∀ other, PathPiece.Segmented path.toList other ↔ other = pieces) ∧
        placeholders = (pieces.filterMap PathPiece.name?).eraseDups ∧
        endpoint.pathParameters =
          placeholders.map (fun name => ⟨name, pathIdentifier name,
            ((declared.find? (fun parameter => parameter.name = name)).map typeOf).getD
              (.primitive .string), true⟩) ++
          (declared.filter (fun parameter => parameter.name ∉ placeholders)).map
            (fun parameter => ⟨parameter.name, pathIdentifier parameter.name, typeOf parameter,
              true⟩) ∧
        (endpoint.pathParameters.map EndpointParameter.name).Nodup ∧
        ∀ parameter ∈ endpoint.pathParameters, parameter.required = true := by
  intro document merged declared after typeOf
  have isMerged : (mergedParameters document item operation).value = merged :=
    value_mergedParameters_eq document item operation
  have places : (merged.map Parameter.place).Nodup :=
    isMerged ▸ nodup_mergedParameters item operation
  let source := (source document state.1.qualifier (path, item, method, operation)).value
  let rename := EndpointParameter.renameSymbols after.1.symbolOf
  have ofQuery : source.queryParameters = (located "query" merged).map (fun parameter =>
      (queryParameter document parameter).value) := by
    rw [← isMerged]
    rfl
  have ofPath : source.pathParameters = (pathParameters document path declared).value := by
    change (pathParameters document path (located "path"
      (mergedParameters document item operation).value)).value = _
    rw [isMerged]
  have query : (source.renameSymbols after.1.symbolOf).queryParameters =
      source.queryParameters.map rename := rfl
  have inPath : (source.renameSymbols after.1.symbolOf).pathParameters =
      source.pathParameters.map rename := rfl
  refine ⟨isMerged, source.renameSymbols after.1.symbolOf, PathPiece.ofPath path.toList,
    pathPlaceholders path, rfl, ?_, ?_, fun other => PathPiece.segmented_iff,
    withoutRepeats_eq_eraseDups _, ?_, ?_, ?_⟩
  · rw [query, ofQuery, List.map_map]
    rfl
  · rw [query, ofQuery, List.map_map, List.map_map]
    exact nodup_name_located places "query"
  · rw [inPath, ofPath]
    exact map_renameSymbols_pathParameters after.1.symbolOf path declared
  · rw [inPath, ofPath, List.map_map]
    exact nodup_name_pathParameters path (nodup_name_located places "path")
  · intro parameter isParameter
    rw [inPath, ofPath] at isParameter
    obtain ⟨unnamed, isUnnamed, rfl⟩ := List.mem_map.1 isParameter
    have isRequired : unnamed.required = true := required_of_mem_pathParameters isUnnamed
    exact isRequired

end TypedClient.Extraction
