import TypedClient.Proofs.Endpoint.Extraction

/-!
Contract: the endpoints of a document and its declarations fit together.

Owns:
- `Extraction.sources`, the endpoints of a document before components have symbols;
- `Extraction.Taken`, what is true of the state after some operations were taken into account;
- that the endpoints that are extracted are those, with every component under its last symbol;
- that exactly what the endpoints and the declarations mention is declared.

Does not own: names across documents.
-/

namespace TypedClient

namespace Extraction

/-- The path, the item of the path, the method and the operation that an endpoint is made from. -/
abbrev Entry := String × PathItem × Method × Operation

variable {document : Document} {qualifier : String} {state : Resolver × List Endpoint}
  {entries : List Entry}

/-- The endpoint of an operation. Its declared names are still names of components. -/
def source (document : Document) (qualifier : String) (entry : Entry) : Noticed Endpoint :=
  endpoint document qualifier entry.1 entry.2.2.1 entry.2.1 entry.2.2.2

/-- The endpoints of a document. Their declared names are still names of components. -/
def sources (document : Document) (qualifier : String) : List Endpoint :=
  (operations document).map (fun entry => (source document qualifier entry).value)

/-- The state after the operations of a document. -/
def afterOperations (document : Document) (qualifier : String) : Resolver × List Endpoint :=
  (operations document).foldl withOperation ({ document, qualifier }, [])

/-- Some operations were taken into account: their endpoints stand there with the symbols known by
now, and what waits for a declaration is what these endpoints mention. -/
structure Taken (document : Document) (qualifier : String) (entries : List Entry)
    (state : Resolver × List Endpoint) : Prop where
  sameDocument : state.1.document = document
  sameQualifier : state.1.qualifier = qualifier
  consistent : state.1.Consistent
  endpoints : state.2 = (entries.map (fun entry => (source document qualifier entry).value)).map
    (Endpoint.renameSymbols state.1.symbolOf)
  waiting : ∀ name, name ∈ state.1.recursive ↔
    ∃ entry ∈ entries, name ∈ (source document qualifier entry).value.symbols

theorem Taken.initial (document : Document) (qualifier : String) :
    Taken document qualifier [] ({ document, qualifier }, []) where
  sameDocument := rfl
  sameQualifier := rfl
  consistent := Resolver.Consistent.initial document qualifier
  endpoints := rfl
  waiting := by simp

theorem mem_symbols_iff_cycle_mem_notices {name : String} (entry : Entry) :
    .cycle name ∈ (source document qualifier entry).notices ↔
      name ∈ (source document qualifier entry).value.symbols := by
  have recorded : Noticed.Records document _ (source document qualifier entry) :=
    records_endpoint qualifier entry.1 entry.2.2.1 entry.2.1 entry.2.2.2
  rw [← Notice.mem_filterMap_component?_iff, recorded.cycles]
  rfl

theorem withOperation_eq (state : Resolver × List Endpoint) (entry : Entry) :
    withOperation state entry =
      (state.1.absorbAll (source state.1.document state.1.qualifier entry).notices,
        state.2 ++ [(source state.1.document state.1.qualifier entry).value.renameSymbols
          (state.1.absorbAll
            (source state.1.document state.1.qualifier entry).notices).symbolOf]) := rfl

/-- Whatever is resolved later, the endpoints stay as they are: a component that they mention has its
symbol already. -/
theorem Taken.endpoints_of_extends (taken : Taken document qualifier entries state)
    {later : Resolver} (extended : state.1.Extends later) :
    state.2 = (entries.map (fun entry => (source document qualifier entry).value)).map
      (Endpoint.renameSymbols later.symbolOf) := by
  rw [taken.endpoints]
  apply List.map_congr_left
  intro endpoint member
  apply Endpoint.renameSymbols_congr
  intro name mentioned
  obtain ⟨entry, isEntry, rfl⟩ := List.mem_map.1 member
  have waits := (taken.waiting name).2 ⟨entry, isEntry, mentioned⟩
  exact (extended.symbolOf_eq (taken.consistent.named name waits)).symm

/-- Taking one more operation into account. -/
theorem Taken.withOperation (taken : Taken document qualifier entries state) (entry : Entry) :
    Taken document qualifier (entries ++ [entry]) (withOperation state entry) := by
  have extended := Resolver.absorbAll_extends state.1 (source document qualifier entry).notices
  rw [withOperation_eq, taken.sameDocument, taken.sameQualifier]
  refine ⟨extended.document.trans taken.sameDocument,
    extended.qualifier.trans taken.sameQualifier, ?_, ?_, ?_⟩
  · apply taken.consistent.absorbAll
    intro name noticed
    rw [taken.sameDocument]
    exact (records_endpoint qualifier entry.1 entry.2.2.1 entry.2.1 entry.2.2.2).cyclic name
      ((mem_symbols_iff_cycle_mem_notices entry).1 noticed)
  · rw [List.map_append, List.map_append, ← taken.endpoints_of_extends extended]
    rfl
  · intro name
    rw [Resolver.mem_recursive_absorbAll, mem_symbols_iff_cycle_mem_notices, taken.waiting]
    simp only [List.mem_append, List.mem_singleton, or_and_right, exists_or, exists_eq_left]

theorem Taken.foldl (taken : Taken document qualifier entries state) (more : List Entry) :
    Taken document qualifier (entries ++ more) (more.foldl Extraction.withOperation state) := by
  induction more generalizing entries state with
  | nil => rwa [List.append_nil]
  | cons entry rest inductionHypothesis =>
      have further := inductionHypothesis (taken.withOperation entry)
      rwa [List.append_assoc, List.singleton_append] at further

theorem taken_afterOperations (document : Document) (qualifier : String) :
    Taken document qualifier (operations document) (afterOperations document qualifier) := by
  have taken := (Taken.initial document qualifier).foldl (operations document)
  rwa [List.nil_append] at taken

end Extraction

/-! ## The whole document -/

/-- The state when everything that a document declares is resolved. -/
def Document.resolved (document : Document) (qualifier : String) : Resolver :=
  (Extraction.afterOperations document qualifier).1.declarations.2

/-- The names that the endpoints and declarations of a document mention. -/
def Extraction.mentions (extraction : Extraction) : List String :=
  extraction.endpoints.flatMap Endpoint.symbols ++
    extraction.declarations.flatMap (fun declaration => declaration.shape.symbols)

namespace Document

open Extraction (sources afterOperations taken_afterOperations)

theorem completed_extract (document : Document) (qualifier : String) :
    Resolver.Completed (afterOperations document qualifier).1 0
      (document.extract qualifier).declarations (document.resolved qualifier) :=
  Resolver.declarations_completed (taken_afterOperations document qualifier).consistent

@[simp] theorem document_resolved (document : Document) (qualifier : String) :
    (document.resolved qualifier).document = document :=
  (document.completed_extract qualifier).later.document.trans
    (taken_afterOperations document qualifier).sameDocument

theorem consistent_resolved (document : Document) (qualifier : String) :
    (document.resolved qualifier).Consistent :=
  (document.completed_extract qualifier).consistent

theorem declares_resolved (document : Document) (qualifier : String) :
    List.Forall₂ (document.resolved qualifier).Declares (document.resolved qualifier).recursive
      (document.extract qualifier).declarations :=
  (document.completed_extract qualifier).declares_all

theorem mem_recursive_of_mem_symbols {document : Document} {qualifier name : String}
    {endpoint : Endpoint} (member : endpoint ∈ sources document qualifier)
    (mentioned : name ∈ endpoint.symbols) : name ∈ (document.resolved qualifier).recursive := by
  obtain ⟨entry, isEntry, rfl⟩ := List.mem_map.1 member
  have waits := ((taken_afterOperations document qualifier).waiting name).2
    ⟨entry, isEntry, mentioned⟩
  exact (document.completed_extract qualifier).later.recursive.subset waits

/-- What waits for a declaration is mentioned by an endpoint or by what is declared for another
component that waits. -/
theorem mem_recursive_resolved_iff {document : Document} {qualifier name : String} :
    name ∈ (document.resolved qualifier).recursive ↔
      (∃ endpoint ∈ sources document qualifier, name ∈ endpoint.symbols) ∨
      ∃ other ∈ (document.resolved qualifier).recursive, ∃ shape,
        document.declared? other = some shape ∧ name ∈ shape.symbols := by
  have completed := document.completed_extract qualifier
  have mentioned := completed.mentioned
  rw [List.drop_zero, document_resolved] at mentioned
  constructor
  · intro waits
    rcases mentioned name waits with before | byDeclaration
    · obtain ⟨entry, isEntry, inEntry⟩ :=
        ((taken_afterOperations document qualifier).waiting name).1 before
      exact Or.inl ⟨_, List.mem_map_of_mem isEntry, inEntry⟩
    · exact Or.inr byDeclaration
  · rintro (⟨endpoint, member, inEndpoint⟩ | ⟨other, waits, shape, declared, inShape⟩)
    · exact mem_recursive_of_mem_symbols member inEndpoint
    · rw [← document_resolved document qualifier] at declared
      exact completed.closed_all waits declared name inShape

/-- The extracted endpoints are the endpoints of the document, with every component under its last
symbol. -/
theorem endpoints_extract (document : Document) (qualifier : String) :
    (document.extract qualifier).endpoints =
      (sources document qualifier).map
        (Endpoint.renameSymbols (document.resolved qualifier).symbolOf) :=
  (taken_afterOperations document qualifier).endpoints_of_extends
    (document.completed_extract qualifier).later

theorem symbols_declarations_extract (document : Document) (qualifier : String) :
    (document.extract qualifier).declarations.map Declaration.symbol =
      (document.resolved qualifier).recursive.map (document.resolved qualifier).symbolOf :=
  Resolver.map_symbol_of_declares (document.declares_resolved qualifier)

theorem mem_symbols_of_declares {resolver : Resolver} {components : List String}
    {declarations : List Declaration} {symbol : String}
    (declares : List.Forall₂ resolver.Declares components declarations) :
    symbol ∈ declarations.flatMap (fun declaration => declaration.shape.symbols) ↔
      ∃ component ∈ components, ∃ shape, resolver.document.declared? component = some shape ∧
        ∃ name ∈ shape.symbols, resolver.symbolOf name = symbol := by
  induction declares with
  | nil => simp
  | cons first _ inductionHypothesis =>
      obtain ⟨shape, declared, rfl⟩ := first
      rw [List.flatMap_cons, List.mem_append, inductionHypothesis, Shape.symbols_rename,
        List.mem_map]
      simp [declared]

/-- A document declares exactly what its endpoints and its declarations mention. -/
theorem mem_symbols_declarations_iff {document : Document} {qualifier symbol : String} :
    symbol ∈ (document.extract qualifier).declarations.map Declaration.symbol ↔
      symbol ∈ (document.extract qualifier).mentions := by
  have declares := document.declares_resolved qualifier
  rw [symbols_declarations_extract, Extraction.mentions, endpoints_extract, List.mem_map,
    List.mem_append, List.flatMap_map, List.mem_flatMap, mem_symbols_of_declares declares,
    document_resolved]
  simp only [Endpoint.symbols_renameSymbols, List.mem_map]
  constructor
  · rintro ⟨name, waits, rfl⟩
    rcases mem_recursive_resolved_iff.1 waits with
      ⟨endpoint, member, inEndpoint⟩ | ⟨other, otherWaits, shape, declared, inShape⟩
    · exact Or.inl ⟨endpoint, member, name, inEndpoint, rfl⟩
    · exact Or.inr ⟨other, otherWaits, shape, declared, name, inShape, rfl⟩
  · rintro (⟨endpoint, member, name, inEndpoint, rfl⟩ |
      ⟨other, otherWaits, shape, declared, name, inShape, rfl⟩)
    · exact ⟨name, mem_recursive_resolved_iff.2 (Or.inl ⟨endpoint, member, inEndpoint⟩), rfl⟩
    · exact ⟨name, mem_recursive_resolved_iff.2
        (Or.inr ⟨other, otherWaits, shape, declared, inShape⟩), rfl⟩

end Document

end TypedClient
