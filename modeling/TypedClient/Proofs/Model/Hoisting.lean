import TypedClient.Proofs.Model.Merging

/-!
Contract: the declared names of a model are closed, unique, and never cross documents.

Owns:
- `Share.Closed`, that a document declares exactly the names it mentions, and with it
  `Model.symbols`, the names that a model declares and mentions;
- `Share.Denotes` and `Share.Faithful`, that a name in the model stands for the declaration of the
  component it was made for;
- that both hold for the share of every document, and that all declared names are different.

Does not own: the names of endpoints, and the names of their types.
-/

namespace TypedClient.Model

namespace Share

/-- The state when everything of the document is resolved. -/
def resolved (share : Share) : Resolver :=
  share.loaded.document.resolved share.loaded.qualifier

/-- The names that the endpoints and declarations of the document mention in the model. -/
def mentions (share : Share) : List String :=
  share.endpoints.flatMap Endpoint.symbols ++
    share.declarations.flatMap (fun declaration => declaration.shape.symbols)

/-- The document declares exactly the names that its endpoints and declarations mention. -/
def Closed (share : Share) : Prop :=
  ∀ symbol, symbol ∈ share.declarations.map Declaration.symbol ↔ symbol ∈ share.mentions

/-- In what is extracted from the document, a symbol stands for a component. -/
def Denotes (share : Share) (symbol component : String) : Prop :=
  component ∈ share.resolved.recursive ∧ share.resolved.symbolOf component = symbol

/-- The names of the document keep their meaning in the model. -/
structure Faithful (share : Share) (model : Model) : Prop where
  /-- Before the endpoints were extracted, their names were those of components. -/
  extracted : share.extraction.endpoints =
    (Extraction.sources share.loaded.document share.loaded.qualifier).map
      (Endpoint.renameSymbols share.resolved.symbolOf)
  /-- Every extracted endpoint is there, every symbol replaced once by the new one. -/
  renamed : List.Forall₂ (fun extracted merged => ∃ camelName typeName,
      merged = { extracted.renameSymbols share.newName with camelName, typeName })
    share.extraction.endpoints share.endpoints
  /-- Every symbol stands for one component. -/
  denotes : ∀ symbol ∈ share.extraction.mentions, ∃! component, share.Denotes symbol component
  /-- Under its new symbol the model has the declaration of that component of the document. -/
  declared : ∀ symbol component, share.Denotes symbol component →
    ∃ schema, share.loaded.document.schema? component = some schema ∧
      ∃ declaration ∈ share.declarations,
        declaration = ⟨share.newName symbol,
          (Resolver.declaredShape (share.resolved.shapeOf [component] schema)).rename
            share.newName⟩ ∧
        model.declarations.find? (fun other => other.symbol = share.newName symbol) =
          some declaration

variable {share : Share} {model : Model}

theorem Proper.renamed (proper : share.Proper) :
    List.Forall₂ (fun extracted merged => ∃ camelName typeName,
        merged = { extracted.renameSymbols share.newName with camelName, typeName })
      share.extraction.endpoints share.endpoints := by
  unfold Proper extracted at proper
  rw [List.forall₂_map_left_iff] at proper
  refine proper.imp ?_
  rintro extracted merged ⟨names, placed⟩
  exact placed.eq_with

theorem Proper.flatMap_symbols (proper : share.Proper) :
    share.endpoints.flatMap Endpoint.symbols =
      (share.extraction.endpoints.flatMap Endpoint.symbols).map share.newName := by
  have renamed := proper.renamed
  revert renamed
  generalize share.extraction.endpoints = extracted
  generalize share.endpoints = merged
  intro renamed
  induction renamed with
  | nil => rfl
  | cons first _ inductionHypothesis =>
      obtain ⟨camelName, typeName, rfl⟩ := first
      rw [List.flatMap_cons, List.flatMap_cons, List.map_append, inductionHypothesis,
        ← Endpoint.symbols_renameSymbols]
      rfl

theorem Proper.mentions_eq (proper : share.Proper) :
    share.mentions = share.extraction.mentions.map share.newName := by
  have inShapes : share.declarations.flatMap (fun declaration => declaration.shape.symbols) =
      (share.extraction.declarations.flatMap (fun declaration => declaration.shape.symbols)).map
        share.newName := by
    rw [declarations, List.flatMap_map, List.map_flatMap]
    exact List.flatMap_congr (fun declaration _ =>
      Shape.symbols_rename share.newName declaration.shape)
  rw [mentions, Extraction.mentions, List.map_append, proper.flatMap_symbols, inShapes]

theorem Proper.closed (proper : share.Proper) : share.Closed := by
  intro symbol
  rw [symbols_declarations, proper.mentions_eq, List.mem_map, List.mem_map]
  exact exists_congr (fun old => and_congr_left' Document.mem_symbols_declarations_iff)

theorem exists_unique_denotes {symbol : String} (mentioned : symbol ∈ share.extraction.mentions) :
    ∃! component, share.Denotes symbol component := by
  have consistent := share.loaded.document.consistent_resolved share.loaded.qualifier
  have isDeclared := Document.mem_symbols_declarations_iff.2 mentioned
  rw [Document.symbols_declarations_extract, List.mem_map] at isDeclared
  obtain ⟨component, waits, isSymbol⟩ := isDeclared
  refine ⟨component, ⟨waits, isSymbol⟩, ?_⟩
  rintro other ⟨otherWaits, isSame⟩
  exact consistent.symbolOf_injective (consistent.named other otherWaits)
    (consistent.named component waits) (isSame.trans isSymbol.symm)

/-- The declaration of a component of the document, under its new symbol. -/
theorem exists_declaration {symbol component : String} (denotes : share.Denotes symbol component) :
    ∃ schema, share.loaded.document.schema? component = some schema ∧
      (⟨share.newName symbol,
        (Resolver.declaredShape (share.resolved.shapeOf [component] schema)).rename
          share.newName⟩ : Declaration) ∈ share.declarations := by
  obtain ⟨waits, rfl⟩ := denotes
  obtain ⟨declaration, member, shape, declared, rfl⟩ := Resolver.exists_mem_of_declares
    (share.loaded.document.declares_resolved share.loaded.qualifier) waits
  rw [Document.document_resolved] at declared
  obtain ⟨schema, found, rfl⟩ := Option.map_eq_some_iff.1 declared
  refine ⟨schema, found, ?_⟩
  have sameDocument := Document.document_resolved share.loaded.document share.loaded.qualifier
  rw [Resolver.shapeOf, Resolver.declaredShape_rename, resolved, sameDocument]
  have isRenamed := List.mem_map_of_mem (f := Declaration.renameSymbols share.newName) member
  exact isRenamed

theorem Proper.faithful (proper : share.Proper)
    (distinct : (model.declarations.map Declaration.symbol).Nodup)
    (included : ∀ declaration ∈ share.declarations, declaration ∈ model.declarations) :
    share.Faithful model where
  extracted := share.loaded.document.endpoints_extract share.loaded.qualifier
  renamed := proper.renamed
  denotes := fun _ => exists_unique_denotes
  declared := by
    intro symbol component denotes
    obtain ⟨schema, found, member⟩ := exists_declaration denotes
    exact ⟨schema, found, _, member, rfl, find?_symbol_of_mem distinct (included _ member)⟩

end Share

/-- The symbols that a model declares and mentions. -/
def symbols (model : Model) : List String :=
  model.declarations.flatMap (fun declaration => declaration.symbol :: declaration.shape.symbols) ++
    model.endpoints.flatMap Endpoint.symbols

/-- Every symbol of a model is declared by a document. -/
theorem Merged.mem_symbols_iff {shares : List Share} {state : Merging} {symbol : String}
    (merged : Merged shares state) :
    symbol ∈ state.model.symbols ↔
      ∃ share ∈ shares, symbol ∈ share.declarations.map Declaration.symbol := by
  have declaredIfMentioned : ∀ share ∈ shares, symbol ∈ share.mentions →
      ∃ share ∈ shares, symbol ∈ share.declarations.map Declaration.symbol :=
    fun share isShare mentioned =>
      ⟨share, isShare, ((merged.proper share isShare).closed symbol).2 mentioned⟩
  rw [Model.symbols, merged.declarations, merged.endpoints]
  constructor
  · intro member
    rcases List.mem_append.1 member with inDeclarations | inEndpoints
    · obtain ⟨declaration, isDeclared, isOf⟩ := List.mem_flatMap.1 inDeclarations
      obtain ⟨share, isShare, inShare⟩ := List.mem_flatMap.1 isDeclared
      rcases List.mem_cons.1 isOf with rfl | inShape
      · exact ⟨share, isShare, List.mem_map_of_mem inShare⟩
      · exact declaredIfMentioned share isShare
          (List.mem_append_right _ (List.mem_flatMap_of_mem inShare inShape))
    · obtain ⟨endpoint, isEndpoint, inEndpoint⟩ := List.mem_flatMap.1 inEndpoints
      obtain ⟨share, isShare, inShare⟩ := List.mem_flatMap.1 isEndpoint
      exact declaredIfMentioned share isShare
        (List.mem_append_left _ (List.mem_flatMap_of_mem inShare inEndpoint))
  · rintro ⟨share, isShare, isDeclared⟩
    obtain ⟨declaration, inShare, rfl⟩ := List.mem_map.1 isDeclared
    exact List.mem_append_left _ (List.mem_flatMap_of_mem
      (List.mem_flatMap_of_mem isShare inShare) List.mem_cons_self)

/-- **Declared names stay apart.** All declared names of a model are different. The model is made of
the shares of its documents: each declares exactly the names it mentions, no name is declared by two
of them, and every name stands for the declaration of the component of the document for which it
was made, whichever names were replaced by which. -/
theorem declared_names_stay_apart (documents : List LoadedDocument) :
    let model := (merge documents).1
    (model.declarations.map Declaration.symbol).Nodup ∧
    ∃ shares : List Share, shares.map Share.loaded = documents ∧
      model.endpoints = shares.flatMap Share.endpoints ∧
      model.declarations = shares.flatMap Share.declarations ∧
      shares.Pairwise (fun first second => List.Disjoint
        (first.declarations.map Declaration.symbol)
        (second.declarations.map Declaration.symbol)) ∧
      ∀ share ∈ shares, share.Closed ∧ share.Faithful model := by
  intro model
  obtain ⟨shares, areLoaded, merged⟩ := merged_merge documents
  have declarations : model.declarations = shares.flatMap Share.declarations := merged.declarations
  have distinct : (model.declarations.map Declaration.symbol).Nodup := merged.distinct
  refine ⟨distinct, shares, areLoaded, merged.endpoints, declarations, ?_, ?_⟩
  · rw [declarations, List.map_flatMap, List.nodup_flatMap] at distinct
    exact distinct.2
  · intro share member
    refine ⟨(merged.proper share member).closed, (merged.proper share member).faithful distinct ?_⟩
    intro declaration isDeclared
    rw [declarations]
    exact List.mem_flatMap_of_mem member isDeclared

end TypedClient.Model
