import TypedClient.Proofs.Endpoint.PathParameters
import TypedClient.Proofs.Model.EndpointNames
import TypedClient.Proofs.Model.Hoisting
import TypedClient.Proofs.Reference.SymbolNames

/-!
Contract: of which characters the names in a model are made.

Owns:
- that every declared symbol of a model can stand in code, if the qualifiers of its documents are
  made of the characters of names;
- `Endpoint.GivesNames`, that whatever an endpoint is called by is a name, and that this holds of
  every endpoint of such a model.

Does not own: that names are different.
-/

namespace TypedClient

open Script (InName IsName IsSymbol)

/-- The camel name, the arguments and the declared names of an endpoint can stand in code. -/
structure Endpoint.GivesNames (endpoint : Endpoint) : Prop where
  camelName : InName endpoint.camelName.toList
  derived : endpoint.Derived
  identifiers : ∀ parameter ∈ endpoint.pathParameters, IsName parameter.identifier.toList
  symbols : ∀ symbol ∈ endpoint.symbols, IsSymbol symbol.toList

namespace Model

/-! ## Declared symbols -/

/-- The declared symbols of a model can stand in code. -/
theorem isSymbol_of_mem_declarations {documents : List LoadedDocument}
    (qualified : ∀ loaded ∈ documents, InName loaded.qualifier.toList) :
    ∀ declaration ∈ (merge documents).1.declarations, IsSymbol declaration.symbol.toList := by
  obtain ⟨shares, rfl, merged⟩ := merged_merge documents
  intro declaration member
  rw [show (merge _).1.declarations = _ from merged.declarations] at member
  obtain ⟨share, isShare, inShare⟩ := List.mem_flatMap.1 member
  obtain ⟨old, isOld, rfl⟩ := List.mem_map.1 inShare
  have ofShare := qualified share.loaded (List.mem_map_of_mem isShare)
  exact (merged.withDigits share isShare old.symbol).isSymbol
    (Document.isSymbol_of_mem_declarations ofShare isOld)

/-! ## Endpoints -/

theorem PlacedAfter.exists_extracted {earlier extracted merged : List Endpoint}
    (placed : PlacedAfter earlier extracted merged) {endpoint : Endpoint}
    (member : endpoint ∈ merged) : ∃ source ∈ extracted, ∃ names, Placed names source endpoint := by
  induction placed with
  | nil => exact absurd member List.not_mem_nil
  | cons first _ inductionHypothesis =>
      rcases List.mem_cons.1 member with rfl | later
      · exact ⟨_, List.mem_cons_self, _, first⟩
      · obtain ⟨source, isSource, found⟩ := inductionHypothesis later
        exact ⟨source, List.mem_cons_of_mem _ isSource, found⟩

/-- An endpoint keeps its camel name, or gets digits behind it. -/
theorem Placed.withDigits_camelName {taken : List String} {extracted unique : Endpoint}
    (placed : Placed taken extracted unique) :
    WithDigits extracted.camelName unique.camelName := by
  rcases placed with ⟨_, rfl⟩ | ⟨_, number, _, rfl, _⟩
  · exact WithDigits.refl _
  · exact withDigits_numbered _ number

namespace Share

variable {share : Share} {endpoint : Endpoint}

theorem isName_camelName_extracted (qualified : InName share.loaded.qualifier.toList)
    (member : endpoint ∈ share.extracted) : IsName endpoint.camelName.toList := by
  rw [extracted_eq] at member
  obtain ⟨source, isSource, rfl⟩ := List.mem_map.1 member
  obtain ⟨entry, _, rfl⟩ := List.mem_map.1 isSource
  exact Naming.isName_qualify_ofPath qualified entry.1

theorem identifier_eq_extracted (member : endpoint ∈ share.extracted) :
    ∀ parameter ∈ endpoint.pathParameters,
      parameter.identifier = Extraction.pathIdentifier parameter.name := by
  obtain ⟨source, isSource, rfl⟩ := List.mem_map.1 member
  refine List.forall_mem_map.2 (fun parameter isParameter => ?_)
  show parameter.identifier = Extraction.pathIdentifier parameter.name
  exact Document.identifier_eq_of_mem isSource isParameter

end Share

theorem Merged.isSymbol_of_mem_symbols {shares : List Share} {state : Merging}
    (merged : Merged shares state)
    (names : ∀ declaration ∈ state.model.declarations, IsSymbol declaration.symbol.toList)
    {endpoint : Endpoint} (member : endpoint ∈ state.model.endpoints) :
    ∀ symbol ∈ endpoint.symbols, IsSymbol symbol.toList := by
  intro symbol mentioned
  obtain ⟨share, isShare, isDeclared⟩ := merged.mem_symbols_iff.1
    (List.mem_append_right _ (List.mem_flatMap_of_mem member mentioned))
  obtain ⟨declaration, declared, rfl⟩ := List.mem_map.1 isDeclared
  rw [merged.declarations] at names
  exact names declaration (List.mem_flatMap_of_mem isShare declared)

theorem identifier_eq_of_mem_merge {documents : List LoadedDocument} {endpoint : Endpoint}
    (member : endpoint ∈ (merge documents).1.endpoints) :
    ∀ parameter ∈ endpoint.pathParameters,
      parameter.identifier = Extraction.pathIdentifier parameter.name := by
  obtain ⟨shares, rfl, merged⟩ := merged_merge documents
  obtain ⟨source, isSource, names, placed⟩ := merged.placed.exists_extracted member
  obtain ⟨share, _, isExtracted⟩ := List.mem_flatMap.1 isSource
  have identifiers := Share.identifier_eq_extracted isExtracted
  obtain ⟨camelName, typeName, rfl⟩ := placed.eq_with
  exact identifiers

theorem isName_identifier_of_mem_merge {documents : List LoadedDocument} {endpoint : Endpoint}
    (member : endpoint ∈ (merge documents).1.endpoints) :
    ∀ parameter ∈ endpoint.pathParameters, IsName parameter.identifier.toList := by
  intro parameter isParameter
  rw [identifier_eq_of_mem_merge member parameter isParameter]
  exact Extraction.isName_pathIdentifier parameter.name

/-- Every endpoint of a model is called by names. -/
theorem givesNames_of_mem_merge {documents : List LoadedDocument}
    (qualified : ∀ loaded ∈ documents, InName loaded.qualifier.toList) {endpoint : Endpoint}
    (member : endpoint ∈ (merge documents).1.endpoints) : endpoint.GivesNames := by
  have declared := isSymbol_of_mem_declarations qualified
  obtain ⟨shares, rfl, merged⟩ := merged_merge documents
  obtain ⟨source, isSource, names, placed⟩ := merged.placed.exists_extracted member
  obtain ⟨share, isShare, isExtracted⟩ := List.mem_flatMap.1 isSource
  have ofShare := qualified share.loaded (List.mem_map_of_mem isShare)
  constructor
  case camelName =>
    have ofShared := Share.isName_camelName_extracted ofShare isExtracted
    exact placed.withDigits_camelName.inName ofShared.inName
  case derived => exact merged.derived endpoint member
  case identifiers => exact isName_identifier_of_mem_merge member
  case symbols => exact merged.isSymbol_of_mem_symbols declared member

end Model

end TypedClient
