import TypedClient.Proofs.Reference.Declarations

/-!
Contract: resolving a schema keeps its meaning.

Owns:
- `declaredIn`, the shape that a list of declarations gives a symbol;
- that the shapes of a completed resolution mean, with the declarations made for them, what the
  components mean that they name;
- the same for a schema that is resolved after any other schemas, and for every declaration.

Does not own: the schemas that are resolved for an endpoint.
-/

namespace TypedClient

/-- The shape that some declarations give a symbol. -/
def declaredIn (declarations : List Declaration) (symbol : String) : Option Shape :=
  (declarations.find? (fun declaration => declaration.symbol = symbol)).map Declaration.shape

theorem find?_symbol_of_mem {declarations : List Declaration} {declaration : Declaration}
    (distinct : (declarations.map Declaration.symbol).Nodup) (member : declaration ∈ declarations) :
    declarations.find? (fun other => other.symbol = declaration.symbol) = some declaration := by
  induction declarations with
  | nil => cases member
  | cons first rest inductionHypothesis =>
      rw [List.map_cons, List.nodup_cons] at distinct
      rcases List.mem_cons.1 member with rfl | later
      · simp
      · have different : first.symbol ≠ declaration.symbol := by
          intro same
          exact distinct.1 (same ▸ List.mem_map_of_mem later)
        rw [List.find?_cons_of_neg (by simpa using different)]
        exact inductionHypothesis distinct.2 later

namespace Resolver

variable {resolver final : Resolver} {declarations : List Declaration} {component : String}

theorem map_symbol_of_declares {components : List String}
    (declares : List.Forall₂ resolver.Declares components declarations) :
    declarations.map Declaration.symbol = components.map resolver.symbolOf := by
  induction declares with
  | nil => rfl
  | cons first _ inductionHypothesis =>
      obtain ⟨shape, _, rfl⟩ := first
      rw [List.map_cons, List.map_cons, inductionHypothesis]

theorem exists_mem_of_declares {components : List String}
    (declares : List.Forall₂ resolver.Declares components declarations)
    (member : component ∈ components) :
    ∃ declaration ∈ declarations, resolver.Declares component declaration := by
  induction declares with
  | nil => cases member
  | cons first _ inductionHypothesis =>
      rcases List.mem_cons.1 member with rfl | later
      · exact ⟨_, List.mem_cons_self, first⟩
      · obtain ⟨declaration, isIn, isDeclared⟩ := inductionHypothesis later
        exact ⟨declaration, List.mem_cons_of_mem _ isIn, isDeclared⟩

theorem Consistent.map_symbolOf_nodup (consistent : resolver.Consistent) :
    (resolver.recursive.map resolver.symbolOf).Nodup :=
  consistent.once.map_on (fun first firstIn second secondIn same =>
    consistent.symbolOf_injective (consistent.named first firstIn)
      (consistent.named second secondIn) same)

theorem Completed.declares_all (completed : Completed resolver 0 declarations final) :
    List.Forall₂ final.Declares final.recursive declarations := by
  have declares := completed.declares
  rwa [List.drop_zero] at declares

theorem Completed.closed_all (completed : Completed resolver 0 declarations final) {shape : Shape}
    (waits : component ∈ final.recursive)
    (declared : final.document.declared? component = some shape) :
    ∀ other ∈ shape.symbols, other ∈ final.recursive := by
  have closed := completed.closed
  rw [List.drop_zero] at closed
  exact closed component waits shape declared

theorem Completed.nodup (completed : Completed resolver 0 declarations final) :
    (declarations.map Declaration.symbol).Nodup := by
  rw [map_symbol_of_declares completed.declares_all]
  exact completed.consistent.map_symbolOf_nodup

theorem Completed.declaredIn_symbolOf (completed : Completed resolver 0 declarations final)
    (waits : component ∈ final.recursive) :
    ∃ shape, final.document.declared? component = some shape ∧
      declaredIn declarations (final.symbolOf component) =
        some (shape.rename final.symbolOf) := by
  obtain ⟨declaration, member, shape, declared, rfl⟩ :=
    exists_mem_of_declares completed.declares_all waits
  refine ⟨shape, declared, ?_⟩
  rw [declaredIn, find?_symbol_of_mem completed.nodup member, Option.map_some]

/-- A shape whose names wait for a declaration means the same once they are replaced by their
symbols. -/
theorem Completed.unfold_rename (completed : Completed resolver 0 declarations final)
    (depth : Nat) (shape : Shape) (mentioned : ∀ other ∈ shape.symbols, other ∈ final.recursive) :
    (shape.rename final.symbolOf).unfold (declaredIn declarations) depth =
      shape.unfold final.document.declared? depth := by
  apply Shape.unfold_rename (fun other => other ∈ final.recursive) _ depth shape mentioned
  intro other waits
  obtain ⟨stands, declared, found⟩ := completed.declaredIn_symbolOf waits
  refine ⟨stands, declared, found, completed.closed_all waits declared, ?_⟩
  obtain ⟨schema, _, rfl⟩ := Option.map_eq_some_iff.1 declared
  exact declaredShape_ne_named _

/-! ## Resolving after other schemas -/

/-- The state after some schemas were resolved, one after the other. -/
def resolveAll (resolver : Resolver) (schemas : List Schema) : Resolver :=
  schemas.foldl (fun state schema => (state.resolve schema).2) resolver

theorem resolveAll_extends (resolver : Resolver) (schemas : List Schema) :
    resolver.Extends (resolver.resolveAll schemas) := by
  unfold resolveAll
  induction schemas generalizing resolver with
  | nil => exact Extends.refl resolver
  | cons schema rest inductionHypothesis =>
      exact (afterResolving_extends resolver [] schema).trans (inductionHypothesis _)

theorem Consistent.resolveAll (consistent : resolver.Consistent) (schemas : List Schema) :
    (resolver.resolveAll schemas).Consistent := by
  unfold Resolver.resolveAll
  induction schemas generalizing resolver with
  | nil => exact consistent
  | cons schema rest inductionHypothesis =>
      exact inductionHypothesis (consistent.afterResolving_nil schema)

/-- Resolving a schema and then making the declarations keeps the meaning of the schema. -/
theorem unfold_resolve (consistent : resolver.Consistent) (schema : Schema) (depth : Nat) :
    (resolver.resolve schema).1.unfold
        (declaredIn (resolver.resolve schema).2.declarations.1) depth =
      resolver.document.unfold depth schema := by
  have completed := declarations_completed (consistent.afterResolving_nil schema)
  have later := afterResolving_extends resolver [] schema
  have sameDocument := (later.trans completed.later).document
  have waits : ∀ other ∈ (resolver.document.expand [] schema).symbols,
      other ∈ (resolver.afterResolving [] schema).recursive :=
    fun other mentioned => mem_recursive_afterResolving.2 (Or.inr mentioned)
  have renamed : (resolver.resolve schema).1 =
      (resolver.document.expand [] schema).rename
        (resolver.afterResolving [] schema).declarations.2.symbolOf := by
    rw [resolve, shapeOf, later.document]
    apply Shape.rename_congr
    intro other mentioned
    have named := (consistent.afterResolving_nil schema).named other (waits other mentioned)
    exact (completed.later.symbolOf_eq named).symm
  have resolved := completed.unfold_rename depth (resolver.document.expand [] schema)
    (fun other mentioned => completed.later.recursive.subset (waits other mentioned))
  rw [renamed]
  exact resolved.trans (sameDocument ▸ Document.unfold_expand depth [] schema)

/-- Every declaration means what its component means; and the shape of a component was replaced
because it was a bare name only if the component is nothing but another name for itself. -/
theorem Completed.meaning (completed : Completed resolver 0 declarations final) :
    List.Forall₂ (fun component declaration =>
        ∃ schema, final.document.schema? component = some schema ∧
          declaration.symbol = final.symbolOf component ∧
          declaration.shape = declaredShape (final.shapeOf [component] schema) ∧
          (∀ depth, declaration.shape.unfold (declaredIn declarations) depth =
            final.document.unfold depth schema) ∧
          ((∃ symbol, final.shapeOf [component] schema = .named symbol) →
            Relation.TransGen final.document.Alias component component))
      final.recursive declarations := by
  have declares := completed.declares_all
  rw [List.forall₂_iff_get] at declares ⊢
  obtain ⟨sameLength, declares⟩ := declares
  refine ⟨sameLength, fun index below declarationBelow => ?_⟩
  have waits := List.get_mem final.recursive ⟨index, below⟩
  obtain ⟨shape, declared, isDeclaration⟩ := declares index below declarationBelow
  obtain ⟨schema, found, isShape⟩ := Option.map_eq_some_iff.1 declared
  refine ⟨schema, found, ?_, ?_, ?_, ?_⟩
  · rw [isDeclaration]
  · rw [isDeclaration, shapeOf, declaredShape_rename, isShape]
  · intro depth
    rw [isDeclaration]
    calc (shape.rename final.symbolOf).unfold (declaredIn declarations) depth
        = shape.unfold final.document.declared? depth :=
          completed.unfold_rename depth shape (completed.closed_all waits declared)
      _ = final.document.unfold depth schema := by
          rw [← isShape]
          exact Document.unfold_declaredShape found depth
  · rintro ⟨symbol, bare⟩
    have cyclic := completed.consistent.cyclic _ waits
    obtain ⟨other, expanded⟩ := Shape.exists_named_of_rename_eq_named bare
    exact Document.alias_cycle_of_expand_eq_named found cyclic expanded

/-- **Resolution keeps meaning.** A schema that is resolved after any other schemas of a document,
with the declarations made at the end, has the unfoldings that it has in the document, down to
every depth. So has every declaration; its shape is replaced by an unknown one only if its
component is nothing but another name for itself. -/
theorem resolution_keeps_meaning (document : Document) (qualifier : String)
    (earlier : List Schema) (schema : Schema) :
    let resolved := (resolveAll { document, qualifier } earlier).resolve schema
    let declarations := resolved.2.declarations.1
    let final := resolved.2.declarations.2
    (∀ depth, resolved.1.unfold (declaredIn declarations) depth =
      document.unfold depth schema) ∧
    (declarations.map Declaration.symbol).Nodup ∧
    List.Forall₂ (fun component declaration =>
        ∃ target, document.schema? component = some target ∧
          declaration.symbol = final.symbolOf component ∧
          declaration.shape = declaredShape (final.shapeOf [component] target) ∧
          (∀ depth, declaration.shape.unfold (declaredIn declarations) depth =
            document.unfold depth target) ∧
          ((∃ symbol, final.shapeOf [component] target = .named symbol) →
            Relation.TransGen document.Alias component component))
      final.recursive declarations := by
  intro resolved declarations final
  have before := (Consistent.initial document qualifier).resolveAll earlier
  have sameBefore := (resolveAll_extends { document, qualifier } earlier).document
  have completed : Completed resolved.2 0 declarations final :=
    declarations_completed (before.afterResolving_nil schema)
  have sameDocument : final.document = document :=
    completed.later.document.trans ((afterResolving_extends _ [] schema).document.trans sameBefore)
  refine ⟨?_, completed.nodup, ?_⟩
  · intro depth
    have kept := unfold_resolve before schema depth
    rw [sameBefore] at kept
    exact kept
  · have meaning := completed.meaning
    rw [sameDocument] at meaning
    exact meaning

end Resolver

end TypedClient
