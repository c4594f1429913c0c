import TypedClient.Proofs.Endpoint.Declared
import TypedClient.Proofs.Model.Allocation
import TypedClient.Proofs.Model.Placement

/-!
Contract: what each document contributes to the model of all.

Owns:
- `Share`, the contribution of one document: its endpoints and declarations under new symbols;
- `Share.Proper`, that its endpoints are the extracted ones but for names;
- `Merged`, what is true after some documents, and that every document keeps it true;
- that a model is made of the shares of its documents, in order.

Does not own: what follows for the names in the generated files.
-/

namespace TypedClient

/-- A declaration with every declared name replaced, its own included. -/
def Declaration.renameSymbols (newName : String → String) (declaration : Declaration) :
    Declaration :=
  ⟨newName declaration.symbol, declaration.shape.rename newName⟩

namespace Model

/-- What one document contributes to a model: its new symbols, and its endpoints in the model. -/
structure Share where
  loaded : LoadedDocument
  newName : String → String
  endpoints : List Endpoint

namespace Share

/-- What is extracted from the document. -/
def extraction (share : Share) : Extraction :=
  share.loaded.document.extract share.loaded.qualifier

/-- The extracted endpoints under the new symbols, with the names that they have on their own. -/
def extracted (share : Share) : List Endpoint :=
  share.extraction.endpoints.map (Endpoint.renameSymbols share.newName)

/-- The declarations under the new symbols. -/
def declarations (share : Share) : List Declaration :=
  share.extraction.declarations.map (Declaration.renameSymbols share.newName)

/-- What a run reports about the document. -/
def summary (share : Share) : DocumentSummary :=
  ⟨share.loaded.origin, share.loaded.document.title, share.loaded.document.version,
    share.loaded.qualifier, share.extraction.endpoints.length⟩

/-- Only the camel names of the extracted endpoints change, and the stems of their types. -/
def Proper (share : Share) : Prop :=
  List.Forall₂ (fun extracted merged => ∃ names, Placed names extracted merged)
    share.extracted share.endpoints

theorem symbols_declarations (share : Share) :
    share.declarations.map Declaration.symbol =
      (share.extraction.declarations.map Declaration.symbol).map share.newName := by
  rw [declarations, List.map_map, List.map_map]
  rfl

end Share

/-- Some documents have been merged: the model consists of their shares, in order. -/
structure Merged (shares : List Share) (state : Merging) : Prop where
  endpoints : state.model.endpoints = shares.flatMap Share.endpoints
  declarations : state.model.declarations = shares.flatMap Share.declarations
  documents : state.model.documents = shares.map Share.summary
  proper : ∀ share ∈ shares, share.Proper
  /-- New symbols are the old ones with digits behind them. -/
  withDigits : ∀ share ∈ shares, ∀ symbol, WithDigits symbol (share.newName symbol)
  placed : PlacedAfter [] (shares.flatMap Share.extracted) state.model.endpoints
  typeNames : ∀ name, name ∈ state.typeNames ↔
    name ∈ state.model.endpoints.map Endpoint.typeName
  symbols : ∀ symbol, symbol ∈ state.symbols ↔
    symbol ∈ state.model.declarations.map Declaration.symbol
  distinct : (state.model.declarations.map Declaration.symbol).Nodup

theorem Merged.initial : Merged [] {} where
  endpoints := rfl
  declarations := rfl
  documents := rfl
  proper := by simp
  withDigits := by simp
  placed := PlacedAfter.nil
  typeNames := by simp
  symbols := by simp
  distinct := List.nodup_nil

/-! ## One endpoint after the other -/

/-- Adding endpoints names them after those that are there, and changes nothing else of the
model. -/
theorem foldl_withEndpoint (endpoints : List Endpoint) {state : Merging}
    (known : ∀ name, name ∈ state.typeNames ↔
      name ∈ state.model.endpoints.map Endpoint.typeName) :
    ∃ placed, PlacedAfter state.model.endpoints endpoints placed ∧
      (endpoints.foldl withEndpoint state).model =
        { state.model with endpoints := state.model.endpoints ++ placed } ∧
      (endpoints.foldl withEndpoint state).symbols = state.symbols ∧
      ∀ name, name ∈ (endpoints.foldl withEndpoint state).typeNames ↔
        name ∈ (state.model.endpoints ++ placed).map Endpoint.typeName := by
  induction endpoints generalizing state with
  | nil =>
      refine ⟨[], PlacedAfter.nil, ?_, rfl, ?_⟩
      · rw [List.append_nil, List.foldl_nil]
      · rw [List.append_nil]
        exact known
  | cons endpoint rest inductionHypothesis =>
      have first : Placed (state.model.endpoints.map Endpoint.typeName) endpoint
          (uniqueEndpoint state.typeNames endpoint) :=
        (placed_uniqueEndpoint state.typeNames endpoint).congr known
      have knownAfter : ∀ name, name ∈ (withEndpoint state endpoint).typeNames ↔
          name ∈ (withEndpoint state endpoint).model.endpoints.map Endpoint.typeName := by
        intro name
        simp only [withEndpoint, List.mem_cons, List.map_append, List.mem_append, known,
          List.map_singleton, List.not_mem_nil, or_false]
        exact or_comm
      obtain ⟨placed, later, sameModel, sameSymbols, knownLater⟩ := inductionHypothesis knownAfter
      have order : (withEndpoint state endpoint).model.endpoints ++ placed =
          state.model.endpoints ++ uniqueEndpoint state.typeNames endpoint :: placed :=
        List.append_cons _ _ _ |>.symm
      refine ⟨_ :: placed, PlacedAfter.cons first later, ?_, sameSymbols, ?_⟩
      · rw [List.foldl_cons, sameModel, order]
        rfl
      · rw [List.foldl_cons, ← order]
        exact knownLater

/-! ## One document after the other -/

/-- The symbols that the declarations of a document get. -/
def newSymbols (state : Merging) (loaded : LoadedDocument) : String → String :=
  newSymbol (allocate state.symbols
    ((loaded.document.extract loaded.qualifier).declarations.map Declaration.symbol))

/-- What a document adds to a state. -/
theorem withDocument_spec (loaded : LoadedDocument) {state : Merging}
    (known : ∀ name, name ∈ state.typeNames ↔
      name ∈ state.model.endpoints.map Endpoint.typeName) :
    ∃ share : Share, share.loaded = loaded ∧ share.newName = newSymbols state loaded ∧
      PlacedAfter state.model.endpoints share.extracted share.endpoints ∧
      (withDocument state loaded).model =
        ⟨state.model.endpoints ++ share.endpoints, state.model.declarations ++ share.declarations,
          state.model.documents ++ [share.summary]⟩ ∧
      (withDocument state loaded).symbols =
        share.declarations.map Declaration.symbol ++ state.symbols ∧
      ∀ name, name ∈ (withDocument state loaded).typeNames ↔
        name ∈ (state.model.endpoints ++ share.endpoints).map Endpoint.typeName := by
  unfold withDocument
  extract_lets extraction renames newName declarations summary before started merged after
  have isNew : newName = newSymbols state loaded := by
    unfold newSymbols
    rfl
  clear_value newName
  obtain ⟨placed, placedAfter, sameModel, sameSymbols, knownAfter⟩ :=
    foldl_withEndpoint (extraction.endpoints.map (Endpoint.renameSymbols newName))
      (show ∀ name, name ∈ started.typeNames ↔
        name ∈ started.model.endpoints.map Endpoint.typeName from known)
  refine ⟨⟨loaded, newName, placed⟩, rfl, isNew, placedAfter, ?_, sameSymbols, knownAfter⟩
  change Model.mk merged.model.endpoints (merged.model.declarations ++ declarations)
    merged.model.documents = _
  rw [show merged.model = _ from sameModel]
  rfl

/-- A document adds its share. -/
theorem Merged.withDocument {shares : List Share} {state : Merging} (merged : Merged shares state)
    (loaded : LoadedDocument) :
    ∃ share : Share, share.loaded = loaded ∧
      Merged (shares ++ [share]) (Model.withDocument state loaded) := by
  obtain ⟨share, isLoaded, isNew, placedAfter, sameModel, sameSymbols, knownAfter⟩ :=
    withDocument_spec loaded merged.typeNames
  have oldDistinct : (share.extraction.declarations.map Declaration.symbol).Nodup := by
    rw [Share.extraction]
    exact (share.loaded.document.completed_extract share.loaded.qualifier).nodup
  have newSymbolsOf : share.declarations.map Declaration.symbol =
      (share.extraction.declarations.map Declaration.symbol).map (newSymbols state loaded) := by
    rw [share.symbols_declarations, isNew]
  obtain ⟨newDistinct, newFree⟩ := @allocate_spec state.symbols _ oldDistinct
  refine ⟨share, isLoaded, ?_⟩
  constructor
  · rw [sameModel, merged.endpoints, List.flatMap_append, List.flatMap_singleton]
  · rw [sameModel, merged.declarations, List.flatMap_append, List.flatMap_singleton]
  · rw [sameModel, merged.documents, List.map_append, List.map_singleton]
  · intro other member
    rcases List.mem_append.1 member with earlier | isLast
    · exact merged.proper other earlier
    · rw [List.mem_singleton.1 isLast]
      exact placedAfter.forall₂
  · intro other member
    rcases List.mem_append.1 member with earlier | isLast
    · exact merged.withDigits other earlier
    · rw [List.mem_singleton.1 isLast, isNew]
      exact withDigits_newSymbol _ _
  · rw [sameModel, List.flatMap_append, List.flatMap_singleton]
    exact merged.placed.append placedAfter
  · rw [sameModel]
    exact knownAfter
  · intro symbol
    rw [sameModel, sameSymbols, List.map_append, List.mem_append, List.mem_append, merged.symbols]
    exact or_comm
  · rw [sameModel, List.map_append, List.nodup_append]
    refine ⟨merged.distinct, ?_, ?_⟩
    · rw [newSymbolsOf, newSymbols, ← isLoaded]
      exact newDistinct
    · rintro symbol isTaken new isNewSymbol rfl
      rw [newSymbolsOf, newSymbols, ← isLoaded] at isNewSymbol
      exact newFree symbol isNewSymbol ((merged.symbols symbol).2 isTaken)

theorem Merged.foldl {shares : List Share} {state : Merging} (merged : Merged shares state)
    (documents : List LoadedDocument) :
    ∃ more, more.map Share.loaded = documents ∧
      Merged (shares ++ more) (documents.foldl Model.withDocument state) := by
  induction documents generalizing shares state with
  | nil => exact ⟨[], rfl, by rwa [List.append_nil]⟩
  | cons loaded rest inductionHypothesis =>
      obtain ⟨share, rfl, mergedFirst⟩ := merged.withDocument loaded
      obtain ⟨more, rfl, mergedAll⟩ := inductionHypothesis mergedFirst
      refine ⟨share :: more, rfl, ?_⟩
      rw [List.foldl_cons]
      rwa [List.append_assoc, List.singleton_append] at mergedAll

/-- The model of some documents is made of their shares. -/
theorem merged_merge (documents : List LoadedDocument) :
    ∃ shares : List Share, shares.map Share.loaded = documents ∧
      Merged shares (documents.foldl withDocument {}) := by
  obtain ⟨shares, areLoaded, merged⟩ := Merged.initial.foldl documents
  exact ⟨shares, areLoaded, merged⟩

end Model

end TypedClient
