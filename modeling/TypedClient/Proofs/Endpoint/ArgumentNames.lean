import TypedClient.Proofs.Endpoint.PathIdentifiers

/-!
Contract: the names of the arguments of a request function.

Owns:
- that the path parameters of an endpoint have different names;
- when the arguments of an endpoint and the options of its hook have different names.

Does not own: what the generated code does with its arguments.
-/

namespace TypedClient

/-! ## The names of path parameters -/

/-- What tells parameters apart. -/
def Parameter.place (parameter : Parameter) : String × String :=
  (parameter.name, parameter.location)

theorem Parameter.place_eq_iff {first second : Parameter} :
    first.place = second.place ↔ first.name = second.name ∧ first.location = second.location :=
  Iff.of_eq (Prod.mk.injEq ..)

namespace Extraction

variable {document : Document}

theorem nodup_withParameter {parameters : List Parameter}
    (distinct : (parameters.map Parameter.place).Nodup) (parameter : Parameter) :
    ((withParameter parameters parameter).map Parameter.place).Nodup := by
  rw [withParameter, List.map_append, List.map_singleton, ← List.concat_eq_append]
  apply List.Nodup.concat
  · intro member
    obtain ⟨earlier, isEarlier, same⟩ := List.mem_map.1 member
    have kept := (List.mem_filter.1 isEarlier).2
    rw [Parameter.place_eq_iff] at same
    simp [same] at kept
  · exact distinct.sublist (List.filter_sublist.map _)

/-- The parameters of an operation differ by name or by location. -/
theorem nodup_mergedParameters (item : PathItem) (operation : Operation) :
    ((mergedParameters document item operation).value.map Parameter.place).Nodup := by
  have ofAll : ∀ found earlier : List Parameter, (earlier.map Parameter.place).Nodup →
      ((found.foldl withParameter earlier).map Parameter.place).Nodup := by
    intro found
    induction found with
    | nil => exact fun _ distinct => distinct
    | cons parameter rest inductionHypothesis =>
        exact fun earlier distinct =>
          inductionHypothesis _ (nodup_withParameter distinct parameter)
  exact ofAll _ [] List.nodup_nil

theorem nodup_name_located {parameters : List Parameter}
    (distinct : (parameters.map Parameter.place).Nodup) (location : String) :
    ((located location parameters).map Parameter.name).Nodup := by
  have ofPlaces : ((located location parameters).map Parameter.place).Nodup :=
    distinct.sublist (List.filter_sublist.map Parameter.place)
  refine ofPlaces.of_map.map_on (fun first firstIn second secondIn same => ?_)
  have inFirst : first.location = location := by simpa using (List.mem_filter.1 firstIn).2
  have inSecond : second.location = location := by simpa using (List.mem_filter.1 secondIn).2
  exact List.inj_on_of_nodup_map ofPlaces firstIn secondIn
    (Prod.ext same (inFirst.trans inSecond.symm))

theorem map_name_pathParameters (path : String) (declared : List Parameter) :
    (pathParameters document path declared).value.map EndpointParameter.name =
      pathPlaceholders path ++
        (declared.filter (fun parameter =>
          !(pathPlaceholders path).contains parameter.name)).map Parameter.name := by
  rw [value_pathParameters, List.map_append, List.map_map, List.map_map]
  congr 1
  · conv_rhs => rw [← List.map_id (pathPlaceholders path)]
    apply List.map_congr_left
    intro name _
    obtain ⟨shape, isValue⟩ := @value_placeholderParameter document declared name
    exact congrArg EndpointParameter.name isValue

theorem nodup_name_pathParameters (path : String) {declared : List Parameter}
    (distinct : (declared.map Parameter.name).Nodup) :
    ((pathParameters document path declared).value.map EndpointParameter.name).Nodup := by
  rw [map_name_pathParameters, List.nodup_append]
  refine ⟨nodup_withoutRepeats _, distinct.sublist (List.filter_sublist.map _), ?_⟩
  rintro name isPlaced other isOther rfl
  obtain ⟨parameter, isUnplaced, rfl⟩ := List.mem_map.1 isOther
  have unplaced := (List.mem_filter.1 isUnplaced).2
  simp [isPlaced] at unplaced

end Extraction

namespace Document

variable {document : Document} {qualifier : String} {endpoint : Endpoint}

/-- The path parameters of an endpoint have different names. -/
theorem nodup_name_pathParameters (member : endpoint ∈ (document.extract qualifier).endpoints) :
    (endpoint.pathParameters.map EndpointParameter.name).Nodup := by
  obtain ⟨entry, newName, rfl⟩ := exists_of_mem_extract member
  have ofSource := @Extraction.nodup_name_pathParameters document entry.1 _
    (Extraction.nodup_name_located
      (@Extraction.nodup_mergedParameters document entry.2.1 entry.2.2.2) "path")
  have sameNames : (((Extraction.source document qualifier entry).value.renameSymbols
      newName).pathParameters).map EndpointParameter.name =
        (Extraction.source document qualifier entry).value.pathParameters.map
          EndpointParameter.name := by
    change (List.map _ _).map _ = _
    rw [List.map_map]
    rfl
  rw [sameNames]
  exact ofSource

end Document

/-! ## Arguments with different names -/

open Extraction (argumentNames pathIdentifier settled)
open Script (joined)

/-- The identifiers of the path parameters, and then the names of other arguments. -/
theorem Endpoint.names_arguments (endpoint : Endpoint) :
    ∃ others, others.Sublist ["params", "body"] ∧
      endpoint.arguments.map Argument.name =
        endpoint.pathParameters.map EndpointParameter.identifier ++ others := by
  refine ⟨(endpoint.parametersType?.map (fun _ => "params")).toList ++
    (endpoint.requestType?.map (fun _ => "body")).toList, ?_, ?_⟩
  · cases endpoint.parametersType? <;> cases endpoint.requestType? <;> simp
  · rw [Endpoint.arguments, List.map_append, List.map_append, List.map_map, List.append_assoc]
    congr 2
    · cases endpoint.parametersType? <;> rfl
    · cases endpoint.requestType? <;> rfl

/-- Two names of path parameters lead to one identifier: their words put together are the same, or
those of one of them are written as the identifier of the other. -/
def Extraction.Meet (first second : String) : Prop :=
  joined first = joined second ∨ joined second = (pathIdentifier first).toList ∨
    joined first = (pathIdentifier second).toList

theorem Extraction.pathIdentifier_eq_iff {first second : String} :
    pathIdentifier first = pathIdentifier second ↔ Meet first second := by
  rw [← String.toList_inj, toList_pathIdentifier, toList_pathIdentifier, settled_eq_iff, Meet,
    toList_pathIdentifier, toList_pathIdentifier]

instance (first second : String) : Decidable (Extraction.Meet first second) :=
  inferInstanceAs (Decidable (joined first = joined second ∨
    joined second = (pathIdentifier first).toList ∨ joined first = (pathIdentifier second).toList))

/-- The path parameters of an endpoint have different names. Its arguments and the options of its
hook have different names exactly if no two of these lead to one identifier. -/
theorem argument_names_nodup_iff {document : Document} {qualifier : String} {endpoint : Endpoint}
    (member : endpoint ∈ (document.extract qualifier).endpoints) :
    (endpoint.pathParameters.map EndpointParameter.name).Nodup ∧
      ((endpoint.arguments.map Argument.name ++ ["options"]).Nodup ↔
        endpoint.pathParameters.Pairwise (fun first second =>
          ¬ Extraction.Meet first.name second.name)) := by
  refine ⟨Document.nodup_name_pathParameters member, ?_⟩
  have identifiers : ∀ parameter ∈ endpoint.pathParameters,
      parameter.identifier = pathIdentifier parameter.name :=
    fun _ isParameter => Document.identifier_eq_of_mem member isParameter
  obtain ⟨others, ofOthers, names⟩ := endpoint.names_arguments
  have taken : (others ++ ["options"]).Sublist argumentNames := ofOthers.append (List.Sublist.refl _)
  have apart : ∀ name ∈ endpoint.pathParameters.map EndpointParameter.identifier,
      ∀ other ∈ others ++ ["options"], name ≠ other := by
    rintro name isIdentifier other isOther rfl
    obtain ⟨parameter, isParameter, rfl⟩ := List.mem_map.1 isIdentifier
    rw [identifiers parameter isParameter] at isOther
    exact Extraction.pathIdentifier_not_mem parameter.name
      (List.mem_append_right _ (taken.subset isOther))
  have onlyIdentifiers : (endpoint.arguments.map Argument.name ++ ["options"]).Nodup ↔
      (endpoint.pathParameters.map EndpointParameter.identifier).Nodup := by
    rw [names, List.append_assoc, List.nodup_append]
    exact ⟨fun distinct => distinct.1,
      fun distinct => ⟨distinct, taken.nodup (by decide), apart⟩⟩
  rw [onlyIdentifiers, List.Nodup, List.pairwise_map]
  apply List.Pairwise.iff_of_mem
  intro first second isFirst isSecond
  rw [identifiers first isFirst, identifiers second isSecond, ne_eq,
    Extraction.pathIdentifier_eq_iff]

/-- A document with one query whose path has two placeholders. -/
def placeholderDocument (first second : String) : Document where
  paths := [("/" ++ "\x7b" ++ first ++ "\x7d/\x7b" ++ second ++ "\x7d",
    { operations := [("get", {})] })]

theorem placeholders_stay_apart :
    ∃ endpoint ∈ ((placeholderDocument "org" "member-id").extract "").endpoints,
      (endpoint.arguments.map Argument.name ++ ["options"]).Nodup := by
  refine ⟨_, List.mem_cons_self, ?_⟩
  exact (@argument_names_nodup_iff (placeholderDocument "org" "member-id") "" _
    List.mem_cons_self).2.2 (by decide +kernel)

/-- Two placeholders with different names become one variable. -/
theorem placeholders_collide :
    ∃ endpoint ∈ ((placeholderDocument "a-b" "aB").extract "").endpoints,
      endpoint.pathParameters.map EndpointParameter.name = ["a-b", "aB"] ∧
        endpoint.arguments.map Argument.name = ["aB", "aB"] ∧
        ¬ (endpoint.arguments.map Argument.name ++ ["options"]).Nodup := by
  refine ⟨_, List.mem_cons_self, ?_, ?_, ?_⟩ <;> decide +kernel

end TypedClient
