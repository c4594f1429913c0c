import TypedClient.Endpoint.Extraction

/-!
Contract: the endpoints of several documents as one model.

Owns:
- `Model`, what all files of a run are generated from;
- keeping the names of types apart across documents, for declarations and for endpoints.

Does not own: reading documents and writing files.
-/

namespace TypedClient

/-- A document that was read, with the qualifier of its names and where it came from. -/
structure LoadedDocument where
  document : Document
  qualifier : String
  origin : String

/-- What a run reports about one document. -/
structure DocumentSummary where
  origin : String
  title : String
  version : String
  qualifier : String
  endpointCount : Nat
deriving DecidableEq, Repr

/-- What the files of a run are generated from. -/
structure Model where
  endpoints : List Endpoint := []
  declarations : List Declaration := []
  documents : List DocumentSummary := []

namespace Model

def queries (model : Model) : List Endpoint :=
  model.endpoints.filter (fun endpoint => endpoint.method.isQuery)

/-- The endpoints that change something. -/
def mutations (model : Model) : List Endpoint :=
  model.endpoints.filter (fun endpoint => !endpoint.method.isQuery)

/-- The state of merging: the model so far, the names that are taken, and the warnings. -/
structure Merging where
  model : Model := {}
  /-- The stems of the types of all endpoints. -/
  typeNames : List String := []
  /-- The symbols of all declarations. -/
  symbols : List String := []
  warnings : List Warning := []

/-- The new symbol of each declared symbol that is taken; all new and kept symbols count as taken
for the declarations that follow. -/
def allocate (taken : List String) : List String → Ordered String
  | [] => []
  | symbol :: rest =>
      let free := fresh taken symbol
      let later := allocate (free :: taken) rest
      if free = symbol then later else (symbol, free) :: later

/-- The symbol that a declaration gets. -/
def newSymbol (renames : Ordered String) (symbol : String) : String :=
  (renames.lookup? symbol).getD symbol

/-- The endpoint with the least number from two on behind its camel name that makes the stem of its
types free, if its own stem is taken. One number more than there are names is enough. -/
def uniqueEndpoint (taken : List String) (endpoint : Endpoint) : Endpoint :=
  if taken.contains endpoint.typeName then
    match leastNumber? (fun name => !taken.contains (Naming.typeName endpoint.method.key name))
        endpoint.camelName (taken.length + 1) with
    | some number => endpoint.withName (numbered endpoint.camelName number)
    | none => endpoint
  else endpoint

/-- The warning for an endpoint whose name was taken. -/
def renamingWarning (extracted renamed : Endpoint) : List Warning :=
  if extracted.typeName = renamed.typeName then []
  else [.endpointNameTaken renamed.label extracted.typeName renamed.typeName]

/-- Add an endpoint under a name that is free. -/
def withEndpoint (state : Merging) (endpoint : Endpoint) : Merging :=
  let unique := uniqueEndpoint state.typeNames endpoint
  { state with
    model := { state.model with endpoints := state.model.endpoints ++ [unique] }
    typeNames := unique.typeName :: state.typeNames
    warnings := state.warnings ++ renamingWarning endpoint unique }

/-- Add what a document contributes. -/
def withDocument (state : Merging) (loaded : LoadedDocument) : Merging :=
  let extraction := loaded.document.extract loaded.qualifier
  let renames := allocate state.symbols (extraction.declarations.map Declaration.symbol)
  let newName := newSymbol renames
  let declarations := extraction.declarations.map (fun declaration =>
    (⟨newName declaration.symbol, declaration.shape.rename newName⟩ : Declaration))
  let summary : DocumentSummary :=
    ⟨loaded.origin, loaded.document.title, loaded.document.version, loaded.qualifier,
      extraction.endpoints.length⟩
  let started : Merging :=
    { state with
      model := { state.model with documents := state.model.documents ++ [summary] }
      symbols := declarations.map Declaration.symbol ++ state.symbols
      warnings := state.warnings ++ extraction.warnings ++
        if renames.isEmpty then [] else [.sharedSymbolsTaken loaded.origin renames.length] }
  let merged := (extraction.endpoints.map (Endpoint.renameSymbols newName)).foldl withEndpoint
    started
  { merged with
    model := { merged.model with
      declarations := merged.model.declarations ++ declarations } }

/-- The model of several documents in their order, and what was noticed. -/
def merge (documents : List LoadedDocument) : Model × List Warning :=
  let final := documents.foldl withDocument {}
  (final.model, final.warnings)

end Model

end TypedClient
