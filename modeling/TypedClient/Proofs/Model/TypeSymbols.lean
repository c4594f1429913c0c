import TypedClient.Proofs.Model.Hoisting
import TypedClient.Proofs.Reference.SymbolNames
import TypedClient.Proofs.Reference.Termination

/-!
Contract: which symbols can name types.

Owns:
- `Resolver.HandsOut`, the symbols that a resolver gives to components, to the shapes of schemas and
  to declarations;
- that each of them is made from the name of a component, before and after documents are merged;
- that each can name a type exactly if the qualifier of its document does not start with a digit.

Does not own: the names of the types of endpoints, which start with a letter.
-/

namespace TypedClient

open Script (CanNameType InTypeName IsTypeWord NotDigit)

/-- A qualifier that a document can be given: none, or what its address suggests. -/
def Source.Suggested (qualifier : String) : Prop :=
  qualifier = "" ∨ ∃ address, Source.qualifierOf address = qualifier

theorem Source.Suggested.inTypeName {qualifier : String} (suggested : Source.Suggested qualifier) :
    InTypeName qualifier.toList := by
  rcases suggested with rfl | ⟨address, rfl⟩
  · decide
  · exact Naming.inTypeName_qualifierOf address

/-! ## One document -/

namespace Resolver

/-- The symbols that a resolver hands out next: to a component for which a symbol is asked, to the
components that the shape of a schema mentions, and to those that are declared. -/
inductive HandsOut (resolver : Resolver) : String → Prop where
  | asked (component : String) :
      HandsOut resolver ((resolver.withSymbol component).symbolOf component)
  | resolved (schema : Schema) {symbol : String}
      (mentioned : symbol ∈ (resolver.resolve schema).1.symbols) : HandsOut resolver symbol
  | declared {declaration : Declaration} (member : declaration ∈ resolver.declarations.1) :
      HandsOut resolver declaration.symbol
  | declaredShape {declaration : Declaration} (member : declaration ∈ resolver.declarations.1)
      {symbol : String} (mentioned : symbol ∈ declaration.shape.symbols) : HandsOut resolver symbol

variable {resolver later : Resolver} {component symbol : String}

theorem Extends.withDigits_symbolOf (extended : resolver.Extends later)
    (consistent : later.Consistent) (isNamed : component ∈ later.symbols.keys) :
    WithDigits (resolver.baseSymbol component) (later.symbolOf component) := by
  have sameBase : later.baseSymbol component = resolver.baseSymbol component := by
    rw [baseSymbol, extended.qualifier, baseSymbol]
  exact sameBase ▸ consistent.withDigits_symbolOf isNamed

/-- Every symbol that is handed out is made from the name of a component. -/
theorem HandsOut.withDigits (consistent : resolver.Consistent) (handed : resolver.HandsOut symbol) :
    ∃ component, WithDigits (resolver.baseSymbol component) symbol := by
  have completed := declarations_completed consistent
  have ofWaiting : ∀ component ∈ resolver.declarations.2.recursive,
      WithDigits (resolver.baseSymbol component) (resolver.declarations.2.symbolOf component) :=
    fun component waits => completed.later.withDigits_symbolOf completed.consistent
      (completed.consistent.named component waits)
  cases handed with
  | asked component =>
      exact ⟨component, (withSymbol_extends resolver component).withDigits_symbolOf
        (consistent.withSymbol component) (mem_keys_withSymbol resolver component)⟩
  | resolved schema mentioned =>
      have extended := afterResolving_extends resolver [] schema
      rw [resolve, shapeOf, Shape.symbols_rename, extended.document] at mentioned
      obtain ⟨component, inShape, rfl⟩ := List.mem_map.1 mentioned
      have after := consistent.afterResolving_nil schema
      have waits := mem_recursive_afterResolving.2 (Or.inr inShape)
      exact ⟨component, extended.withDigits_symbolOf after (after.named component waits)⟩
  | declared member =>
      have isSymbol := List.mem_map_of_mem (f := Declaration.symbol) member
      rw [map_symbol_of_declares completed.declares_all] at isSymbol
      obtain ⟨component, waits, same⟩ := List.mem_map.1 isSymbol
      exact ⟨component, same ▸ ofWaiting component waits⟩
  | declaredShape member mentioned =>
      have inShapes := List.mem_flatMap_of_mem
        (f := fun declaration : Declaration => declaration.shape.symbols) member mentioned
      obtain ⟨declaring, waits, shape, isDeclared, component, inShape, rfl⟩ :=
        (Document.mem_symbols_of_declares completed.declares_all).1 inShapes
      exact ⟨component, ofWaiting component
        (completed.closed_all waits isDeclared component inShape)⟩

theorem Reached.qualifier_eq {document : Document} {qualifier : String}
    (reached : resolver.Reached document qualifier) : resolver.qualifier = qualifier := by
  induction reached with
  | initial => rfl
  | resolve schema _ inductionHypothesis =>
      exact (afterResolving_extends _ [] schema).qualifier.trans inductionHypothesis
  | withSymbol component _ inductionHypothesis =>
      exact (withSymbol_extends _ component).qualifier.trans inductionHypothesis
  | declare _ _ _ inductionHypothesis =>
      exact (afterDeclaring_extends _ _ _).qualifier.trans inductionHypothesis

/-- Whatever was resolved before, the symbols of a document can name types, but for a digit at the
start of its qualifier. -/
theorem Reached.canNameType_iff {document : Document} {qualifier : String}
    (reached : resolver.Reached document qualifier) (qualified : InTypeName qualifier.toList)
    (handed : resolver.HandsOut symbol) :
    IsTypeWord symbol.toList ∧ (CanNameType symbol.toList ↔ NotDigit qualifier.toList) := by
  obtain ⟨component, made⟩ := handed.withDigits reached.consistent
  rw [← reached.qualifier_eq] at qualified ⊢
  exact canNameType_iff_of_withDigits qualified made

end Resolver

/-! ## All documents -/

namespace Model

variable {shares : List Share} {state : Merging} {share : Share} {symbol : String}

/-- The new symbol of a document can name a type exactly if the old one could. -/
theorem Merged.canNameType_iff (merged : Merged shares state) (isShare : share ∈ shares)
    (qualified : InTypeName share.loaded.qualifier.toList)
    (isDeclared : symbol ∈ share.declarations.map Declaration.symbol) :
    IsTypeWord symbol.toList ∧
      (CanNameType symbol.toList ↔ NotDigit share.loaded.qualifier.toList) := by
  rw [share.symbols_declarations, List.map_map] at isDeclared
  obtain ⟨old, isOld, rfl⟩ := List.mem_map.1 isDeclared
  obtain ⟨component, made⟩ := Document.withDigits_of_mem_declarations isOld
  have whole := made.trans (merged.withDigits share isShare old.symbol)
  have ofBase := @Resolver.canNameType_iff_of_withDigits
    (share.loaded.document.resolved share.loaded.qualifier)
  rw [Document.qualifier_resolved] at ofBase
  exact ofBase qualified whole

end Model

/-- **Which symbols can name types.** Every symbol that is handed out consists of letters, digits
and underscores, is not empty and not reserved. It starts with a digit, and so cannot name a type,
exactly if the qualifier of its document does: an underscore goes in front of a digit at the start
of the name of a component, but none in front of a qualifier. Numbers behind symbols, within a
document or where documents are merged, change nothing of that. -/
theorem symbols_can_name_types_iff {documents : List LoadedDocument}
    (suggested : ∀ loaded ∈ documents, Source.Suggested loaded.qualifier) :
    let model := (Model.merge documents).1
    (∀ loaded ∈ documents, ∀ resolver : Resolver,
      resolver.Reached loaded.document loaded.qualifier →
        ∀ symbol : String, resolver.HandsOut symbol →
          IsTypeWord symbol.toList ∧
            (CanNameType symbol.toList ↔ NotDigit loaded.qualifier.toList)) ∧
    (∀ symbol ∈ model.symbols, IsTypeWord symbol.toList) ∧
    ((∀ symbol ∈ model.symbols, CanNameType symbol.toList) ↔
      ∀ loaded ∈ documents, (loaded.document.extract loaded.qualifier).declarations ≠ [] →
        NotDigit loaded.qualifier.toList) := by
  intro model
  refine ⟨fun loaded isLoaded resolver reached symbol handed =>
    reached.canNameType_iff (suggested loaded isLoaded).inTypeName handed, ?_⟩
  obtain ⟨shares, rfl, merged⟩ := Model.merged_merge documents
  rw [List.forall_mem_map] at suggested
  have ofShare : ∀ share ∈ shares, ∀ symbol ∈ share.declarations.map Declaration.symbol,
      IsTypeWord symbol.toList ∧
        (CanNameType symbol.toList ↔ NotDigit share.loaded.qualifier.toList) :=
    fun share isShare _ =>
      merged.canNameType_iff isShare (suggested share isShare).inTypeName
  have isOf : ∀ symbol, symbol ∈ model.symbols ↔
      ∃ share ∈ shares, symbol ∈ share.declarations.map Declaration.symbol :=
    fun symbol => merged.mem_symbols_iff
  refine ⟨fun symbol member => ?_, ?_, ?_⟩
  · obtain ⟨share, isShare, isDeclared⟩ := (isOf symbol).1 member
    exact (ofShare share isShare symbol isDeclared).1
  · intro allValid
    rw [List.forall_mem_map]
    intro share isShare declares
    obtain ⟨old, rest, isCons⟩ := List.exists_cons_of_ne_nil declares
    have isDeclared : (share.newName old.symbol) ∈ share.declarations.map Declaration.symbol := by
      rw [share.symbols_declarations, Model.Share.extraction, isCons]
      exact List.mem_cons_self
    exact (ofShare share isShare _ isDeclared).2.1
      (allValid _ ((isOf _).2 ⟨share, isShare, isDeclared⟩))
  · intro allFree symbol member
    obtain ⟨share, isShare, isDeclared⟩ := (isOf symbol).1 member
    refine (ofShare share isShare symbol isDeclared).2.2
      (allFree share.loaded (List.mem_map_of_mem isShare) ?_)
    intro nothing
    rw [share.symbols_declarations, Model.Share.extraction, nothing] at isDeclared
    exact absurd isDeclared List.not_mem_nil

/-- A document whose only component refers to itself. -/
def nodeDocument : Document where
  paths := [("/nodes", {
    operations := [("get", {
      responses := [("200", .inline {
        content := [("application/json", ⟨some (.reference "#/components/schemas/Node")⟩)]
        schema := none })] })] })]
  components := {
    schemas := [("Node", .object [("next", .reference "#/components/schemas/Node")] [] .closed)] }

/-- The symbols of a document that is given twice can name types. -/
theorem node_symbols_can_name_types :
    let documents : List LoadedDocument :=
      [⟨nodeDocument, Source.qualifierOf "https://host/v2/openapi.json", "first"⟩,
        ⟨nodeDocument, Source.qualifierOf "https://host/v2/openapi.json", "second"⟩]
    let model := (Model.merge documents).1
    "V2Node2" ∈ model.symbols ∧ ∀ symbol ∈ model.symbols, CanNameType symbol.toList := by
  intro documents model
  have suggested : ∀ loaded ∈ documents, Source.Suggested loaded.qualifier := by
    simp only [documents, List.forall_mem_cons]
    exact ⟨Or.inr ⟨_, rfl⟩, Or.inr ⟨_, rfl⟩, by simp⟩
  have noDigit : NotDigit (Source.qualifierOf "https://host/v2/openapi.json").toList := by
    decide +kernel
  refine ⟨by decide +kernel, (symbols_can_name_types_iff suggested).2.2.2 ?_⟩
  simp only [documents, List.forall_mem_cons]
  exact ⟨fun _ => noDigit, fun _ => noDigit, by simp⟩

/-- A year in the address of a document gets in front of its symbols. -/
theorem year_in_front_of_symbol :
    let model := (Model.merge
      [⟨nodeDocument, Source.qualifierOf "https://host/2024/openapi.json", "nodes"⟩]).1
    "2024Node" ∈ model.symbols ∧ ¬ CanNameType "2024Node".toList :=
  ⟨by decide +kernel, fun canName => absurd canName.notDigit (by decide)⟩

end TypedClient
