import Mathlib.Algebra.GroupWithZero.Nat
import TypedClient.Proofs.Model.Merging

/-!
Contract: merging loses, repeats and reorders no endpoint, and names each apart.

Owns:
- `Document.routes`, the methods and paths for which code is generated;
- that the endpoints of a model are those of its documents, in order;
- that stems of types, request functions and hooks are different for different endpoints, and
  camel names for different queries.

Does not own: the declared names in the shapes of endpoints.
-/

namespace TypedClient

/-- The methods and paths for which code is generated, in the order of the document. -/
def Document.routes (document : Document) : List (Method × String) :=
  document.paths.flatMap (fun entry => entry.2.operations.filterMap (fun operation =>
    (Method.ofKey? operation.1).map (fun method => (method, entry.1))))

/-- The method and the path of an endpoint. -/
def Endpoint.route (endpoint : Endpoint) : Method × String :=
  (endpoint.method, endpoint.path)

/-- The stem of the types of an endpoint is made from its method and its camel name. -/
def Endpoint.Derived (endpoint : Endpoint) : Prop :=
  endpoint.typeName = Naming.typeName endpoint.method.key endpoint.camelName

/-- The stem of the types of a query tells as much as its camel name. -/
theorem Endpoint.typeName_eq_of_isQuery {endpoint other : Endpoint} (derived : endpoint.Derived)
    (otherDerived : other.Derived) (isQuery : endpoint.method.isQuery = true)
    (otherQuery : other.method.isQuery = true) (same : endpoint.camelName = other.camelName) :
    endpoint.typeName = other.typeName := by
  have onlyGet : ∀ method : Method, method.isQuery = true → method = .get := by
    intro method
    cases method <;> simp [Method.isQuery]
  rw [derived, otherDerived, onlyGet _ isQuery, onlyGet _ otherQuery, same]

private theorem nodup_map_of_nodup_map {α β γ : Type} {items : List α} {first : α → β} {second : α → γ}
    (distinct : (items.map first).Nodup)
    (separate : ∀ item ∈ items, ∀ other ∈ items, second item = second other →
      first item = first other) : (items.map second).Nodup := by
  unfold List.Nodup at distinct ⊢
  rw [List.pairwise_map] at distinct ⊢
  refine distinct.imp_of_mem ?_
  intro item other isItem isOther different same
  exact different (separate item isItem other isOther same)

namespace Extraction

variable (document : Document) (qualifier : String) (entry : Entry)

theorem derived_source : (source document qualifier entry).value.Derived := rfl

/-- The endpoints of a document have its methods and paths, in order. -/
theorem map_route_sources :
    (sources document qualifier).map Endpoint.route = document.routes := by
  rw [sources, operations, Document.routes, List.map_map, List.map_flatMap]
  apply List.flatMap_congr
  rintro ⟨path, item⟩ _
  rw [List.map_filterMap]
  apply List.filterMap_congr
  rintro ⟨key, operation⟩ _
  rw [Option.map_map]
  rfl

end Extraction

namespace Model

namespace Share

variable {share : Share} {endpoint : Endpoint}

theorem extracted_eq (share : Share) :
    share.extracted =
      (Extraction.sources share.loaded.document share.loaded.qualifier).map (fun source =>
        (source.renameSymbols
          (share.loaded.document.resolved share.loaded.qualifier).symbolOf).renameSymbols
            share.newName) := by
  rw [extracted, extraction, Document.endpoints_extract, List.map_map]
  rfl

theorem map_route_extracted (share : Share) :
    share.extracted.map Endpoint.route = share.loaded.document.routes := by
  rw [extracted_eq, List.map_map]
  exact Extraction.map_route_sources share.loaded.document share.loaded.qualifier

theorem derived_extracted (member : endpoint ∈ share.extracted) : endpoint.Derived := by
  rw [extracted_eq] at member
  obtain ⟨source, isSource, rfl⟩ := List.mem_map.1 member
  obtain ⟨entry, _, rfl⟩ := List.mem_map.1 isSource
  exact Extraction.derived_source share.loaded.document share.loaded.qualifier entry

theorem length_extracted (share : Share) :
    share.extracted.length = share.summary.endpointCount :=
  List.length_map _

end Share

variable {earlier extracted merged : List Endpoint}

theorem PlacedAfter.map_route (placed : PlacedAfter earlier extracted merged) :
    merged.map Endpoint.route = extracted.map Endpoint.route := by
  induction placed with
  | nil => rfl
  | cons first _ inductionHypothesis =>
      obtain ⟨camelName, typeName, rfl⟩ := first.eq_with
      rw [List.map_cons, List.map_cons, inductionHypothesis]
      rfl

theorem PlacedAfter.derived (placed : PlacedAfter earlier extracted merged)
    (derived : ∀ endpoint ∈ extracted, endpoint.Derived) :
    ∀ endpoint ∈ merged, endpoint.Derived := by
  induction placed with
  | nil => simp
  | cons first _ inductionHypothesis =>
      rw [List.forall_mem_cons] at derived ⊢
      exact ⟨first.typeName_eq derived.1, inductionHypothesis derived.2⟩

theorem functionName_nodup (derived : ∀ endpoint ∈ merged, endpoint.Derived)
    (distinct : (merged.map Endpoint.typeName).Nodup) :
    (merged.map Endpoint.functionName).Nodup := by
  apply nodup_map_of_nodup_map distinct
  intro endpoint member other otherMember same
  rw [derived endpoint member, derived other otherMember]
  exact Naming.typeName_eq_of_functionName_eq same

theorem hookName_nodup (distinct : (merged.map Endpoint.functionName).Nodup) :
    (merged.map Endpoint.hookName).Nodup := by
  apply nodup_map_of_nodup_map distinct
  intro endpoint _ other _ same
  exact Naming.functionName_eq_of_hookName_eq same

/-- The endpoints of a model belong to the methods and paths of its documents, in order. -/
theorem Merged.map_route {shares : List Share} {state : Merging} (merged : Merged shares state) :
    state.model.endpoints.map Endpoint.route =
      (shares.map Share.loaded).flatMap (fun loaded => loaded.document.routes) := by
  rw [merged.placed.map_route, List.map_flatMap, List.flatMap_map]
  exact List.flatMap_congr (fun share _ => share.map_route_extracted)

theorem Merged.derived {shares : List Share} {state : Merging} (merged : Merged shares state) :
    ∀ endpoint ∈ state.model.endpoints, endpoint.Derived := by
  apply merged.placed.derived
  intro endpoint member
  obtain ⟨share, _, isExtracted⟩ := List.mem_flatMap.1 member
  exact Share.derived_extracted isExtracted

theorem Merged.typeName_nodup {shares : List Share} {state : Merging}
    (merged : Merged shares state) : (state.model.endpoints.map Endpoint.typeName).Nodup :=
  merged.placed.nodup List.nodup_nil

/-- Queries with the same camel name are the same. -/
theorem eq_of_camelName_eq {documents : List LoadedDocument} {endpoint other : Endpoint}
    (member : endpoint ∈ (merge documents).1.endpoints)
    (otherMember : other ∈ (merge documents).1.endpoints)
    (isQuery : endpoint.method.isQuery = true) (otherQuery : other.method.isQuery = true)
    (same : endpoint.camelName = other.camelName) : endpoint = other := by
  obtain ⟨shares, _, merged⟩ := merged_merge documents
  have stems := Endpoint.typeName_eq_of_isQuery (merged.derived endpoint member)
    (merged.derived other otherMember) isQuery otherQuery same
  exact List.inj_on_of_nodup_map merged.typeName_nodup member otherMember stems

theorem camelName_queries_nodup (documents : List LoadedDocument) :
    ((merge documents).1.queries.map Endpoint.camelName).Nodup := by
  obtain ⟨shares, _, merged⟩ := merged_merge documents
  have distinct : (merge documents).1.queries.Nodup :=
    (List.Nodup.of_map _ merged.typeName_nodup).filter _
  refine List.Nodup.map_on (fun endpoint member other otherMember same => ?_) distinct
  have isQuery := List.mem_filter.1 member
  have otherQuery := List.mem_filter.1 otherMember
  exact eq_of_camelName_eq isQuery.1 otherQuery.1 isQuery.2 otherQuery.2 same

/-- **Merging keeps every endpoint and names it apart.** The endpoints of a model are those of its
documents, in order; each is the extracted one with new symbols, and its name changes only if it is
taken by an endpoint before it, to the one with the least number that is free. So the stems of
types, the request functions and the hooks are different for different endpoints. -/
theorem endpoints_stay_in_order (documents : List LoadedDocument) :
    let model := (merge documents).1
    model.endpoints.map Endpoint.route =
      documents.flatMap (fun loaded => loaded.document.routes) ∧
    model.documents.map DocumentSummary.endpointCount =
      documents.map (fun loaded => loaded.document.routes.length) ∧
    (model.documents.map DocumentSummary.endpointCount).sum = model.endpoints.length ∧
    (∃ newNames : List (String → String), newNames.length = documents.length ∧
      PlacedAfter []
        ((documents.zip newNames).flatMap (fun (loaded, newName) =>
          (loaded.document.extract loaded.qualifier).endpoints.map
            (Endpoint.renameSymbols newName)))
        model.endpoints) ∧
    (model.endpoints.map Endpoint.typeName).Nodup ∧
    (model.endpoints.map Endpoint.functionName).Nodup ∧
    (model.endpoints.map Endpoint.hookName).Nodup ∧
    ∀ endpoint ∈ model.endpoints,
      endpoint.typeName = Naming.typeName endpoint.method.key endpoint.camelName := by
  intro model
  obtain ⟨shares, rfl, merged⟩ := merged_merge documents
  have placed : PlacedAfter [] (shares.flatMap Share.extracted) model.endpoints := merged.placed
  have summaries : model.documents = shares.map Share.summary := merged.documents
  have routes : model.endpoints.map Endpoint.route =
      (shares.map Share.loaded).flatMap (fun loaded => loaded.document.routes) := merged.map_route
  have counts : model.documents.map DocumentSummary.endpointCount =
      (shares.map Share.loaded).map (fun loaded => loaded.document.routes.length) := by
    rw [summaries, List.map_map, List.map_map]
    apply List.map_congr_left
    intro share _
    show share.summary.endpointCount = share.loaded.document.routes.length
    rw [← share.length_extracted, ← share.map_route_extracted, List.length_map]
  have derived : ∀ endpoint ∈ model.endpoints, endpoint.Derived := merged.derived
  have distinct : (model.endpoints.map Endpoint.typeName).Nodup := merged.typeName_nodup
  have functions := functionName_nodup derived distinct
  refine ⟨routes, counts, ?_, ?_, distinct, functions, hookName_nodup functions, derived⟩
  · rw [counts, ← List.length_map (f := Endpoint.route), routes, List.length_flatMap]
  · refine ⟨shares.map Share.newName, by rw [List.length_map, List.length_map], ?_⟩
    rw [List.zip_map', List.flatMap_map]
    exact placed

end Model

end TypedClient
