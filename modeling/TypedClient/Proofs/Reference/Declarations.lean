import Mathlib.Data.List.Forall2
import TypedClient.Proofs.Reference.Meaning
import TypedClient.Proofs.Reference.Symbols

/-!
Contract: the declarations of the components that close a cycle.

Owns:
- `Resolver.Declares`, what the declaration of a component is;
- `Resolver.Completed`, what is true when the list of waiting components has been worked off: each
  has its declaration, in order, and whatever a declaration mentions is among them;
- that the bound on the steps is never met.

Does not own: the meaning of the declarations.
-/

namespace TypedClient.Resolver

variable {resolver later : Resolver} {component : String}

theorem declaredShape_rename (newName : String → String) (shape : Shape) :
    declaredShape (shape.rename newName) = (declaredShape shape).rename newName := by
  cases shape with
  | object properties others => simp only [Shape.rename_object, declaredShape]
  | _ => simp [Shape.rename, declaredShape]

theorem mem_symbols_of_mem_declaredShape {shape : Shape}
    (mentioned : component ∈ (declaredShape shape).symbols) : component ∈ shape.symbols := by
  cases shape with
  | named symbol => cases mentioned
  | _ => exact mentioned

/-- The declaration of a component: its symbol, and the shape that is declared for it with the
symbols of the components that the shape names. -/
def Declares (resolver : Resolver) (component : String) (declaration : Declaration) : Prop :=
  ∃ shape, resolver.document.declared? component = some shape ∧
    declaration = ⟨resolver.symbolOf component, shape.rename resolver.symbolOf⟩

/-- The waiting components from a position on have been worked off. -/
structure Completed (resolver : Resolver) (position : Nat) (declarations : List Declaration)
    (final : Resolver) : Prop where
  later : resolver.Extends final
  consistent : final.Consistent
  declares : List.Forall₂ final.Declares (final.recursive.drop position) declarations
  /-- Whatever a declaration mentions is declared. -/
  closed : ∀ component ∈ final.recursive.drop position, ∀ shape,
    final.document.declared? component = some shape →
    ∀ other ∈ shape.symbols, other ∈ final.recursive
  /-- Whatever is declared and did not wait before is mentioned by a declaration. -/
  mentioned : ∀ component ∈ final.recursive, component ∈ resolver.recursive ∨
    ∃ by' ∈ final.recursive.drop position, ∃ shape,
      final.document.declared? by' = some shape ∧ component ∈ shape.symbols

/-- No more components can wait than the document has. -/
theorem Consistent.length_recursive_le (consistent : resolver.Consistent) :
    resolver.recursive.length ≤ resolver.document.schemaNames.length := by
  apply List.Subperm.length_le
  apply consistent.once.subperm
  intro component member
  obtain ⟨schema, found⟩ := (consistent.cyclic component member).exists_schema
  exact Document.mem_schemaNames_of_schema? found

theorem Completed.of_exhausted (consistent : resolver.Consistent) {position : Nat}
    (exhausted : resolver.recursive.length ≤ position) :
    Completed resolver position [] resolver := by
  have none' : resolver.recursive.drop position = [] := List.drop_eq_nil_of_le exhausted
  refine ⟨Extends.refl resolver, consistent, ?_, ?_, fun component member => Or.inl member⟩
  · rw [none']
    exact List.Forall₂.nil
  · rw [none']
    simp

/-- The state after the declaration of a component was made. -/
def afterDeclaring (resolver : Resolver) (component : String) (schema : Schema) : Resolver :=
  (resolver.afterResolving [component] schema).withSymbol component

section Declaring

variable {schema : Schema}

theorem afterDeclaring_extends (resolver : Resolver) (component : String) (schema : Schema) :
    resolver.Extends (resolver.afterDeclaring component schema) :=
  (afterResolving_extends resolver [component] schema).trans (withSymbol_extends _ component)

theorem Consistent.afterDeclaring (consistent : resolver.Consistent)
    (found : resolver.document.schema? component = some schema) :
    (resolver.afterDeclaring component schema).Consistent :=
  (consistent.afterResolving_self found).withSymbol component

theorem mem_recursive_afterDeclaring {other : String} :
    other ∈ (resolver.afterDeclaring component schema).recursive ↔
      other ∈ resolver.recursive ∨
        other ∈ (resolver.document.expand [component] schema).symbols := by
  rw [afterDeclaring, recursive_withSymbol, mem_recursive_afterResolving]

/-- A component that waits no longer for its declaration is mentioned by the one just made, unless
it waited before: where the shape was replaced because it was a bare name, the name was that of the
component itself. -/
theorem mem_recursive_or_mem_declaredShape
    (found : resolver.document.schema? component = some schema)
    (cyclic : resolver.document.Cyclic component)
    (waiting : component ∈ resolver.recursive) {other : String}
    (member : other ∈ (resolver.afterDeclaring component schema).recursive) :
    other ∈ resolver.recursive ∨
      other ∈ (declaredShape (resolver.document.expand [component] schema)).symbols := by
  rcases mem_recursive_afterDeclaring.1 member with earlier | mentioned
  · exact Or.inl earlier
  · by_cases bare : ∃ symbol, resolver.document.expand [component] schema = .named symbol
    · obtain ⟨symbol, isName⟩ := bare
      have own := Document.eq_of_expand_eq_named found cyclic isName
      rw [isName, Shape.symbols, List.mem_singleton, own] at mentioned
      exact Or.inl (mentioned ▸ waiting)
    · push Not at bare
      rw [declaredShape_of_ne_named bare]
      exact Or.inr mentioned

/-- The declaration just made stays right whatever is resolved afterwards. -/
theorem declares_of_afterDeclaring (consistent : resolver.Consistent)
    (found : resolver.document.schema? component = some schema) {final : Resolver}
    (extended : (resolver.afterDeclaring component schema).Extends final) :
    final.Declares component
      ⟨(resolver.afterDeclaring component schema).symbolOf component,
        declaredShape ((resolver.afterDeclaring component schema).shapeOf [component] schema)⟩ := by
  have sameDocument : final.document = resolver.document :=
    extended.document.trans (afterDeclaring_extends resolver component schema).document
  refine ⟨declaredShape (resolver.document.expand [component] schema), ?_, ?_⟩
  · rw [sameDocument, Document.declared?, found, Option.map_some]
  · have named : component ∈ (resolver.afterDeclaring component schema).symbols.keys :=
      mem_keys_withSymbol _ component
    rw [extended.symbolOf_eq named, shapeOf, (afterDeclaring_extends resolver component schema).document,
      declaredShape_rename]
    congr 1
    apply Shape.rename_congr
    intro other mentioned
    have waits : other ∈ (resolver.afterDeclaring component schema).recursive :=
      mem_recursive_afterDeclaring.2 (Or.inr (mem_symbols_of_mem_declaredShape mentioned))
    exact (extended.symbolOf_eq ((consistent.afterDeclaring found).named other waits)).symm

end Declaring

theorem Completed.cons (consistent : resolver.Consistent) {position : Nat} {schema : Schema}
    {declarations : List Declaration} {final : Resolver}
    (waits : resolver.recursive[position]? = some component)
    (found : resolver.document.schema? component = some schema)
    (rest : Completed (resolver.afterDeclaring component schema) (position + 1) declarations
      final) :
    Completed resolver position
      (⟨(resolver.afterDeclaring component schema).symbolOf component,
        declaredShape ((resolver.afterDeclaring component schema).shapeOf [component] schema)⟩ ::
          declarations) final := by
  have extended := (afterDeclaring_extends resolver component schema).trans rest.later
  have sameDocument := extended.document
  have waiting : component ∈ resolver.recursive := List.mem_of_getElem? waits
  have split : final.recursive.drop position =
      component :: final.recursive.drop (position + 1) := by
    obtain ⟨below, isComponent⟩ := List.getElem?_eq_some_iff.1 waits
    have finalBelow := below.trans_le extended.recursive.length_le
    rw [List.drop_eq_getElem_cons finalBelow, ← extended.recursive.getElem below, isComponent]
  have declared : final.document.declared? component =
      some (declaredShape (resolver.document.expand [component] schema)) := by
    rw [sameDocument, Document.declared?, found, Option.map_some]
  refine ⟨extended, rest.consistent, ?_, ?_, ?_⟩
  · rw [split]
    exact List.Forall₂.cons (declares_of_afterDeclaring consistent found rest.later) rest.declares
  · rw [split]
    intro other member shape isDeclared inner mentioned
    rcases List.mem_cons.1 member with isComponent | later
    · subst isComponent
      rw [declared, Option.some.injEq] at isDeclared
      subst isDeclared
      apply rest.later.recursive.subset
      exact mem_recursive_afterDeclaring.2 (Or.inr (mem_symbols_of_mem_declaredShape mentioned))
    · exact rest.closed other later shape isDeclared inner mentioned
  · intro other member
    rw [split]
    rcases rest.mentioned other member with before | ⟨by', later, shape, isDeclared, mentioned⟩
    · rcases mem_recursive_or_mem_declaredShape found (consistent.cyclic component waiting) waiting
          before with earlier | mentioned
      · exact Or.inl earlier
      · exact Or.inr ⟨component, List.mem_cons_self, _, declared, mentioned⟩
    · exact Or.inr ⟨by', List.mem_cons_of_mem _ later, shape, isDeclared, mentioned⟩

theorem declarationsFrom_completed (consistent : resolver.Consistent) {position steps : Nat}
    (enough : resolver.document.schemaNames.length ≤ position + steps) :
    Completed resolver position (resolver.declarationsFrom position steps).1
      (resolver.declarationsFrom position steps).2 := by
  induction steps generalizing resolver position with
  | zero => exact Completed.of_exhausted consistent (consistent.length_recursive_le.trans enough)
  | succ steps inductionHypothesis =>
      rw [declarationsFrom]
      split
      · rename_i exhausted
        exact Completed.of_exhausted consistent (List.getElem?_eq_none_iff.1 exhausted)
      · rename_i component waits
        have cyclic := consistent.cyclic component (List.mem_of_getElem? waits)
        obtain ⟨schema, found⟩ := cyclic.exists_schema
        simp only [found]
        apply Completed.cons consistent waits found
        apply inductionHypothesis (consistent.afterDeclaring found)
        rw [(afterDeclaring_extends resolver component schema).document]
        omega

/-- The declarations of a document are complete: one for each component that closes a cycle. -/
theorem declarations_completed (consistent : resolver.Consistent) :
    Completed resolver 0 resolver.declarations.1 resolver.declarations.2 :=
  declarationsFrom_completed consistent (by simp)

end TypedClient.Resolver
