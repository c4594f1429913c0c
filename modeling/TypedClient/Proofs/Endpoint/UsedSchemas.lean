import TypedClient.Proofs.Endpoint.ArgumentNames
import TypedClient.Proofs.Reference.Circularity

/-!
Contract: the schemas that the endpoint of an operation is made from.

Owns:
- `Extraction.usedSchemas`, the schemas of the parameters, the body and the response of an operation;
- that an endpoint mentions what the expansions of these schemas mention;
- when a document has a circular declaration, in terms of the schemas that its operations use.

Does not own: the names of endpoints.
-/

namespace TypedClient

open Relation (TransGen)

/-- A bare type name refers to nothing. -/
@[simp] theorem Schema.pointers_ofTypeName (typeName : String) :
    (Schema.ofTypeName typeName).pointers = [] := by
  unfold Schema.ofTypeName
  split
  · rfl
  · rfl
  · cases Primitive.ofName? typeName <;> rfl

namespace Extraction

variable {document : Document} {qualifier name : String}

/-- The parameters of an operation. -/
def parametersOf (document : Document) (entry : Entry) : List Parameter :=
  (mergedParameters document entry.2.1 entry.2.2.2).value

theorem value_ofExcept {α : Type} (result : Except Warning α) :
    (Noticed.ofExcept result).value = result.toOption := by
  cases result <;> rfl

theorem value_mergedParameters (document : Document) (item : PathItem) (operation : Operation) :
    (mergedParameters document item operation).value =
      ((item.parameters ++ operation.parameters).filterMap (fun item =>
        (document.parameter item).toOption)).foldl withParameter [] := by
  change ((List.map _ _).filterMap id).foldl withParameter [] = _
  rw [List.filterMap_map]
  congr 2
  funext item
  exact value_ofExcept _

/-- The schema of the body of an operation: its own, else that of its body parameter. -/
def bodySchema? (document : Document) (entry : Entry) : Option Schema :=
  (ownBodySchema document entry.2.2.2).value.or
    (bodyParameterSchema? (parametersOf document entry))

/-- The schemas that an endpoint is made from. Those of other parameters, of a body parameter beside
a body, and of other responses are not looked at. -/
def usedSchemas (document : Document) (entry : Entry) : List Schema :=
  (located "query" (parametersOf document entry) ++
      located "path" (parametersOf document entry)).filterMap Parameter.schema ++
    (bodySchema? document entry).toList ++ (responseSchema document entry.2.2.2).value.toList

/-- The endpoint of an operation from its parameters and schemas. -/
theorem value_source (document : Document) (qualifier : String) (entry : Entry) :
    (source document qualifier entry).value =
      let camelName := Naming.qualify qualifier (Naming.ofPath entry.1)
      let parameters := parametersOf document entry
      { method := entry.2.2.1
        path := entry.1
        operationId := entry.2.2.2.operationId
        summary := entry.2.2.2.summary
        deprecated := entry.2.2.2.deprecated
        camelName
        typeName := Naming.typeName entry.2.2.1.key camelName
        queryParameters := (located "query" parameters).map (fun parameter =>
          (queryParameter document parameter).value)
        pathParameters := (pathParameters document entry.1 (located "path" parameters)).value
        requestBody := (optionalShape document (bodySchema? document entry)).value
        response := (optionalShape document (responseSchema document entry.2.2.2).value).value } :=
  rfl

theorem value_queryParameter (parameter : Parameter) :
    (queryParameter document parameter).value =
      ⟨parameter.name, Script.identifier parameter.name, (parameterShape document parameter).value,
        parameter.required⟩ := rfl

theorem value_optionalShape (schema? : Option Schema) :
    (optionalShape document schema?).value = schema?.map (document.expand []) := by
  cases schema? <;> rfl

/-- A parameter without a schema mentions nothing. -/
theorem mem_symbols_parameterShape_iff {parameter : Parameter} :
    name ∈ (parameterShape document parameter).value.symbols ↔
      ∃ schema ∈ parameter.schema, name ∈ (document.expand [] schema).symbols := by
  have ofTypeName : ∀ typeName : String,
      (document.expand [] (Schema.ofTypeName typeName)).symbols = [] := by
    intro typeName
    rw [Document.expand, Schema.symbols_expandWith, Schema.pointers_ofTypeName, List.flatMap_nil]
  unfold parameterShape
  split
  · rename_i schema found
    simp [found, shape]
  · rename_i typeName found _
    simp [found, shape, ofTypeName]
  · rename_i found _
    simp only [found]
    constructor
    · intro mentioned
      cases mentioned
    · rintro ⟨schema, isSchema, _⟩
      cases isSchema

/-- The path parameters mention what the declared ones mention, whether they have a placeholder or
not. -/
theorem mem_symbolsOf_pathParameters_iff (path : String) {declared : List Parameter}
    (distinct : (declared.map Parameter.name).Nodup) :
    name ∈ EndpointParameter.symbolsOf (pathParameters document path declared).value ↔
      ∃ parameter ∈ declared, name ∈ (parameterShape document parameter).value.symbols := by
  rw [value_pathParameters, EndpointParameter.symbolsOf, List.flatMap_append, List.mem_append,
    List.flatMap_map, List.flatMap_map, List.mem_flatMap, List.mem_flatMap]
  constructor
  · rintro (⟨placeholder, _, mentioned⟩ | ⟨parameter, isUnplaced, mentioned⟩)
    · simp only [placeholderParameter] at mentioned
      split at mentioned
      · rename_i parameter found
        exact ⟨parameter, List.mem_of_find?_eq_some found, mentioned⟩
      · cases mentioned
    · exact ⟨parameter, (List.mem_filter.1 isUnplaced).1, mentioned⟩
  · rintro ⟨parameter, isDeclared, mentioned⟩
    by_cases placed : parameter.name ∈ pathPlaceholders path
    · refine Or.inl ⟨parameter.name, placed, ?_⟩
      have found : declared.find? (fun other => other.name = parameter.name) = some parameter := by
        cases found : declared.find? (fun other => other.name = parameter.name) with
        | none => exact absurd (by simp) (List.find?_eq_none.1 found parameter isDeclared)
        | some other =>
            have sameName : other.name = parameter.name := by simpa using List.find?_some found
            rw [List.inj_on_of_nodup_map distinct (List.mem_of_find?_eq_some found) isDeclared
              sameName]
      simp only [placeholderParameter, found]
      exact mentioned
    · refine Or.inr ⟨parameter, List.mem_filter.2 ⟨isDeclared, by simpa using placed⟩, mentioned⟩

/-- An endpoint mentions what the expansions of the schemas mention that it is made from. -/
theorem mem_symbols_source_iff {entry : Entry} :
    name ∈ (source document qualifier entry).value.symbols ↔
      ∃ schema ∈ usedSchemas document entry, name ∈ (document.expand [] schema).symbols := by
  have distinct :
      ((located "path" (parametersOf document entry)).map Parameter.name).Nodup :=
    nodup_name_located (nodup_mergedParameters entry.2.1 entry.2.2.2) "path"
  have ofOptional : ∀ schema? : Option Schema,
      name ∈ Shape.symbolsOf? (schema?.map (document.expand [])) ↔
        ∃ schema ∈ schema?.toList, name ∈ (document.expand [] schema).symbols := by
    intro schema?
    cases schema? <;> simp [Shape.symbolsOf?]
  have ofParameters : ∀ parameters : List Parameter,
      (∃ parameter ∈ parameters, name ∈ (parameterShape document parameter).value.symbols) ↔
        ∃ schema ∈ parameters.filterMap Parameter.schema,
          name ∈ (document.expand [] schema).symbols := by
    intro parameters
    simp only [mem_symbols_parameterShape_iff, List.mem_filterMap, Option.mem_def]
    constructor
    · rintro ⟨parameter, isParameter, schema, own, mentioned⟩
      exact ⟨schema, ⟨parameter, isParameter, own⟩, mentioned⟩
    · rintro ⟨schema, ⟨parameter, isParameter, own⟩, mentioned⟩
      exact ⟨parameter, isParameter, schema, own, mentioned⟩
  have ofQuery : name ∈ EndpointParameter.symbolsOf
      ((located "query" (parametersOf document entry)).map (fun parameter =>
        (queryParameter document parameter).value)) ↔
      ∃ parameter ∈ located "query" (parametersOf document entry),
        name ∈ (parameterShape document parameter).value.symbols := by
    rw [EndpointParameter.symbolsOf, List.flatMap_map, List.mem_flatMap]
    rfl
  rw [value_source, Endpoint.symbols, usedSchemas]
  simp only [List.mem_append, value_optionalShape, ofOptional, ofQuery,
    mem_symbolsOf_pathParameters_iff entry.1 distinct, ofParameters, List.filterMap_append,
    or_and_right, exists_or, or_assoc]

theorem gathered_afterOperations (document : Document) (qualifier : String) :
    (afterOperations document qualifier).1.Gathered
      ((operations document).flatMap (usedSchemas document)) := by
  have taken := taken_afterOperations document qualifier
  intro name
  rw [taken.waiting, taken.sameDocument]
  simp only [mem_symbols_source_iff, List.mem_flatMap]
  constructor
  · rintro ⟨entry, isEntry, schema, isUsed, mentioned⟩
    exact ⟨schema, ⟨entry, isEntry, isUsed⟩, mentioned⟩
  · rintro ⟨schema, ⟨entry, isEntry, isUsed⟩, mentioned⟩
    exact ⟨entry, isEntry, schema, isUsed, mentioned⟩

end Extraction

/-! ## Circular declarations -/

namespace Document

open Extraction (operations usedSchemas gathered_afterOperations taken_afterOperations)

/-- The declarations made after some schemas were resolved, and those of a document, are free of
circular ones exactly if every component that can be reached and that lies on a cycle of exposed
references is nothing but another name for itself. -/
theorem no_circular_declaration_iff (document : Document) (qualifier : String) :
    (∀ schemas : List Schema,
      let declarations := (Resolver.resolveAll { document, qualifier } schemas).declarations.1
      (∀ declaration ∈ declarations, ¬ declaration.IsCircular declarations) ↔
        ∀ schema ∈ schemas, ∀ component, document.Reaches schema component →
          TransGen document.Exposes component component →
            TransGen document.Alias component component) ∧
      ((∀ declaration ∈ (document.extract qualifier).declarations,
          ¬ declaration.IsCircular (document.extract qualifier).declarations) ↔
        ∀ entry ∈ operations document, ∀ schema ∈ usedSchemas document entry, ∀ component,
          document.Reaches schema component → TransGen document.Exposes component component →
            TransGen document.Alias component component) := by
  constructor
  · intro schemas declarations
    have circular := (Resolver.gathered_resolveAll document qualifier schemas).exists_isCircular_iff
      ((Resolver.Consistent.initial document qualifier).resolveAll schemas)
    rw [(Resolver.resolveAll_extends { document, qualifier } schemas).document] at circular
    rw [← not_iff_not]
    push Not
    exact circular
  · have taken := taken_afterOperations document qualifier
    have circular := (gathered_afterOperations document qualifier).exists_isCircular_iff
      taken.consistent
    rw [taken.sameDocument] at circular
    have inOperations : (∃ schema ∈ (operations document).flatMap (usedSchemas document),
        ∃ component, document.Reaches schema component ∧
          TransGen document.Exposes component component ∧
            ¬ TransGen document.Alias component component) ↔
        ∃ entry ∈ operations document, ∃ schema ∈ usedSchemas document entry, ∃ component,
          document.Reaches schema component ∧ TransGen document.Exposes component component ∧
            ¬ TransGen document.Alias component component := by
      simp only [List.mem_flatMap]
      exact ⟨fun ⟨schema, ⟨entry, isEntry, isUsed⟩, rest⟩ => ⟨entry, isEntry, schema, isUsed, rest⟩,
        fun ⟨entry, isEntry, schema, isUsed, rest⟩ => ⟨schema, ⟨entry, isEntry, isUsed⟩, rest⟩⟩
    rw [← not_iff_not]
    push Not
    exact circular.trans inOperations

/-- A document whose one component is a choice between a string and the component itself. -/
def selfChoiceDocument : Document where
  paths := [("/values", { operations := [("get", { responses := [("200", .inline
    { content := [("application/json",
        { schema := some (.reference "#/components/schemas/Value") })]
      schema := none })] })] })]
  components := { schemas := [("Value",
    .union [.primitive .string, .reference "#/components/schemas/Value"])] }

/-- A choice that has itself as a member is declared as a circular type. -/
theorem self_choice_declared_circular :
    ∃ declaration ∈ (selfChoiceDocument.extract "").declarations,
      declaration.IsCircular (selfChoiceDocument.extract "").declarations := by
  have declared : (selfChoiceDocument.extract "").declarations.map
      (fun declaration => (declaration.symbol, declaration.shape.exposed)) =
        [("Value", ["Value"])] := by
    decide +kernel
  obtain ⟨declaration, isDeclaration, exposes⟩ := List.mem_map.1 (declared ▸ List.mem_singleton_self _)
  obtain ⟨isSymbol, exposed⟩ := Prod.mk.inj exposes
  refine ⟨declaration, isDeclaration, .single ⟨declaration, isDeclaration, rfl, ?_⟩⟩
  rw [isSymbol, exposed]
  exact List.mem_singleton_self _

end Document

end TypedClient
