import TypedClient.Proofs.Reference.Correspondence
import TypedClient.Proofs.Reference.Termination
import TypedClient.Proofs.Reference.Visibility

/-!
Contract: what resolving leaves as a name, and what it replaces.

Owns:
- `Document.Inlines`, the tree that stands for a pointer when every reference is replaced, and
  `Document.Inlined`, the shape of a schema with these trees in the places of its pointers;
- that there is at most one such tree for a pointer, and that an expansion without names is made of
  them;
- that only components that their own schemas reach stay names, and that a schema that reaches no such
  component is inlined and leaves the components that wait for a declaration as they are.

Does not own: what is declared for the components that stay names.
-/

namespace TypedClient

namespace Document

/-- The tree that stands for a pointer when every reference is replaced by what it leads to: nothing is
known of a pointer that leads nowhere. -/
inductive Inlines (document : Document) : String → Shape → Prop
  | nowhere {pointer : String} (nowhere : ∀ name target, ¬ document.Leads pointer name target) :
      Inlines document pointer .unknown
  | target {pointer name : String} {target : Schema} {tree : String → Shape}
      (leads : document.Leads pointer name target)
      (inner : ∀ next ∈ target.pointers, Inlines document next (tree next)) :
      Inlines document pointer (target.expandWith tree)

/-- The shape of a schema in which every pointer is replaced by its tree. -/
def Inlined (document : Document) (schema : Schema) (shape : Shape) : Prop :=
  ∃ tree : String → Shape, (∀ pointer ∈ schema.pointers, document.Inlines pointer (tree pointer)) ∧
    shape = schema.expandWith tree

variable {document : Document} {trail : List String} {pointer component : String} {schema : Schema}
  {shape other : Shape}

theorem Inlines.unique (first : document.Inlines pointer shape)
    (second : document.Inlines pointer other) : shape = other := by
  induction first generalizing other with
  | nowhere nowhere =>
      cases second with
      | nowhere _ => rfl
      | target leads _ => exact absurd leads (nowhere _ _)
  | target leads inner inductionHypothesis =>
      cases second with
      | nowhere nowhere => exact absurd leads (nowhere _ _)
      | target otherLeads otherInner =>
          obtain ⟨rfl, rfl⟩ := leads.unique otherLeads
          exact Schema.expandWith_congr (fun next isPointer =>
            inductionHypothesis next isPointer (otherInner next isPointer))

theorem Inlined.unique (first : document.Inlined schema shape)
    (second : document.Inlined schema other) : shape = other := by
  obtain ⟨tree, inlines, rfl⟩ := first
  obtain ⟨otherTree, otherInlines, rfl⟩ := second
  exact Schema.expandWith_congr (fun pointer isPointer =>
    (inlines pointer isPointer).unique (otherInlines pointer isPointer))

/-- Where no name is left, the expansion of a pointer is its tree. -/
theorem inlines_expandPointer (trail : List String) (pointer : String)
    (closed : (document.expandPointer trail pointer).symbols = []) :
    document.Inlines pointer (document.expandPointer trail pointer) := by
  induction trail, pointer using document.trailInduction with
  | nowhere trail pointer nowhere =>
      rw [expandPointer_of_nowhere nowhere]
      exact .nowhere nowhere
  | back trail pointer name target leads onTrail =>
      rw [expandPointer_of_mem leads onTrail] at closed
      cases closed
  | onward trail pointer name target leads fresh inductionHypothesis =>
      rw [expandPointer_of_not_mem leads fresh, expand] at closed ⊢
      rw [Schema.symbols_expandWith, List.flatMap_eq_nil_iff] at closed
      exact .target leads (fun next isPointer => inductionHypothesis next (closed next isPointer))

theorem inlined_expand (closed : (document.expand trail schema).symbols = []) :
    document.Inlined schema (document.expand trail schema) := by
  rw [expand, Schema.symbols_expandWith, List.flatMap_eq_nil_iff] at closed
  exact ⟨document.expandPointer trail, fun pointer isPointer =>
    inlines_expandPointer trail pointer (closed pointer isPointer), rfl⟩

/-- A component on a cycle is one that its own schema reaches. -/
theorem Cyclic.reaches (cyclic : document.Cyclic component) :
    ∃ target, document.schema? component = some target ∧ document.Reaches target component := by
  obtain ⟨next, ⟨target, found, mentions⟩, path⟩ := Relation.TransGen.head'_iff.1 cyclic
  exact ⟨target, found, next, mentions, path⟩

/-- No name is left of a schema that reaches no component on a cycle. -/
theorem symbols_expand_eq_nil
    (acyclic : ∀ component, document.Reaches schema component → ¬ document.Cyclic component) :
    (document.expand [] schema).symbols = [] := by
  rw [List.eq_nil_iff_forall_not_mem]
  exact fun component mentioned =>
    acyclic component (reaches_of_mem_symbols mentioned) (cyclic_of_mem_expand_nil mentioned)

end Document

namespace Resolver

variable {resolver : Resolver} {document : Document} {qualifier component : String}
  {schema : Schema}

theorem symbols_resolve (resolver : Resolver) (schema : Schema) :
    (resolver.resolve schema).1.symbols =
      (resolver.document.expand [] schema).symbols.map (resolver.resolve schema).2.symbolOf := by
  have sameDocument := (afterResolving_extends resolver [] schema).document
  rw [resolve, shapeOf, sameDocument, Shape.symbols_rename]

theorem mem_keys_resolve (mentioned : component ∈ (resolver.document.expand [] schema).symbols) :
    component ∈ (resolver.resolve schema).2.symbols.keys :=
  mem_keys_absorbAll (Document.cycle_mem_notices_iff.2 mentioned)

/-- A schema whose expansion leaves no name changes nothing but the warnings. -/
theorem agrees_resolve (closed : (resolver.document.expand [] schema).symbols = []) :
    (resolver.resolve schema).2.Agrees resolver := by
  have agrees := (Agrees.refl resolver).absorbAll_cycles (resolver.document.notices [] schema)
  rwa [Document.component?_notices, closed] at agrees

/-- **Only components on cycles stay names.** Whatever was resolved before, the steps for a schema
start and end with an empty stack, and the names in the shape that they make are symbols of components
that their own schemas reach. A schema that reaches no such component has a shape without names; the
components that wait for a declaration stay the same; and the shape is the schema with every reference
replaced by the tree of what it leads to. -/
theorem only_cycles_stay_named (reached : resolver.Reached document qualifier) (schema : Schema) :
    let resolved := resolver.resolve schema
    Walk.Steps { resolver, tasks := [.resolve schema] }
      { resolver := resolved.2, shapes := [resolved.1] } ∧
    (∀ symbol ∈ resolved.1.symbols,
      ∃ component ∈ resolved.2.symbols.keys, resolved.2.symbolOf component = symbol) ∧
    (∀ component ∈ resolved.2.symbols.keys,
      resolved.2.symbolOf component ∈ resolved.1.symbols →
        ∃ target, document.schema? component = some target ∧ document.Reaches target component) ∧
    ((∀ component, document.Reaches schema component → ¬ document.Cyclic component) →
      resolved.1.symbols = [] ∧ resolved.2.recursive = resolver.recursive ∧
        ∀ shape, document.Inlined schema shape ↔ shape = resolved.1) := by
  intro resolved
  have sameDocument := reached.document_eq
  subst sameDocument
  have named := symbols_resolve resolver schema
  refine ⟨Walk.steps_resolve { resolver } schema, ?_, ?_, ?_⟩
  · intro symbol mentioned
    rw [named] at mentioned
    obtain ⟨component, isName, rfl⟩ := List.mem_map.1 mentioned
    exact ⟨component, mem_keys_resolve isName, rfl⟩
  · intro component isKnown mentioned
    rw [named] at mentioned
    obtain ⟨other, isName, sameSymbol⟩ := List.mem_map.1 mentioned
    have same := (reached.consistent.afterResolving_nil schema).symbolOf_injective
      (mem_keys_resolve isName) isKnown sameSymbol
    subst same
    exact (Document.cyclic_of_mem_expand_nil isName).reaches
  · intro acyclic
    have closed := Document.symbols_expand_eq_nil acyclic
    have isExpansion : resolved.1 = resolver.document.expand [] schema := by
      have unchanged : (resolver.document.expand [] schema).rename resolved.2.symbolOf =
          (resolver.document.expand [] schema).rename id :=
        Shape.rename_congr (by simp [closed])
      rw [Shape.rename_id] at unchanged
      rw [← unchanged, ← (afterResolving_extends resolver [] schema).document]
      rfl
    refine ⟨?_, (agrees_resolve closed).recursive.symm, fun shape => ⟨fun inlined => ?_, ?_⟩⟩
    · rw [named, closed, List.map_nil]
    · rw [isExpansion]
      exact inlined.unique (Document.inlined_expand closed)
    · rintro rfl
      rw [isExpansion]
      exact Document.inlined_expand closed

/-! ## A component that is used twice -/

def componentAt (name : String) : Schema := .reference ("#/components/schemas/" ++ name)

/-- A document with a pair of leaves, and a list that leads back to itself. -/
def pairDocument : Document where
  components := { schemas := [
    ("Pair", .object [("left", componentAt "Leaf"), ("right", componentAt "Leaf")] [] .closed),
    ("Leaf", .primitive .string), ("Node", .array (componentAt "Node"))] }

/-- The pair refers to the leaf, and the leaf refers to nothing. -/
theorem pairDocument_refers {first next : String} (mentions : pairDocument.Refers first next)
    (isPart : first = "Pair" ∨ first = "Leaf") : first = "Pair" ∧ next = "Leaf" := by
  obtain ⟨schema, found, pointer, isPointer, target, leads⟩ := mentions
  have isLeaf : Pointer.target? Pointer.schemaPlaces "#/components/schemas/Leaf" = some "Leaf" := by
    decide +kernel
  rcases isPart with rfl | rfl
  · refine ⟨rfl, ?_⟩
    have isPair : schema = .object [("left", componentAt "Leaf"), ("right", componentAt "Leaf")] []
        .closed := (Option.some.inj found).symm
    subst isPair
    have toLeaf : pointer = "#/components/schemas/Leaf" := by
      simpa [Schema.pointers, Schema.pointersOfProperties, componentAt] using isPointer
    rw [toLeaf] at leads
    exact Option.some.inj (leads.1.symm.trans isLeaf)
  · have isString : schema = .primitive .string := (Option.some.inj found).symm
    subst isString
    cases isPointer

theorem pairDocument_acyclic (component : String)
    (reaches : pairDocument.Reaches (componentAt "Pair") component) :
    ¬ pairDocument.Cyclic component := by
  obtain ⟨first, ⟨pointer, isPointer, target, leads⟩, path⟩ := reaches
  have isPair : Pointer.target? Pointer.schemaPlaces "#/components/schemas/Pair" = some "Pair" := by
    decide +kernel
  have toPair : pointer = "#/components/schemas/Pair" := List.mem_singleton.1 isPointer
  rw [toPair] at leads
  have isFirst : first = "Pair" := Option.some.inj (leads.1.symm.trans isPair)
  subst isFirst
  have isPart : component = "Pair" ∨ component = "Leaf" := by
    induction path with
    | refl => exact Or.inl rfl
    | tail _ refers inductionHypothesis =>
        exact Or.inr (pairDocument_refers refers inductionHypothesis).2
  intro cyclic
  obtain ⟨next, refers, back⟩ := Relation.TransGen.head'_iff.1 cyclic
  obtain ⟨rfl, rfl⟩ := pairDocument_refers refers isPart
  rcases Relation.ReflTransGen.cases_head back with same | ⟨further, onward, _⟩
  · exact absurd same (by decide)
  · exact absurd (pairDocument_refers onward (Or.inr rfl)).1 (by decide)

/-- The list is resolved first and waits for a declaration. The pair is inlined nevertheless, its leaf
twice. -/
theorem pair_inlined_beside_cycle :
    let resolver : Resolver :=
      (Resolver.resolve { document := pairDocument, qualifier := "" } (componentAt "Node")).2
    resolver.Reached pairDocument "" ∧
      (∀ component, pairDocument.Reaches (componentAt "Pair") component →
        ¬ pairDocument.Cyclic component) ∧
      (resolver.resolve (componentAt "Pair")).1.symbols = [] ∧
      (resolver.resolve (componentAt "Pair")).2.recursive = ["Node"] ∧
      pairDocument.Inlined (componentAt "Pair") (resolver.resolve (componentAt "Pair")).1 := by
  intro resolver
  have reached : resolver.Reached pairDocument "" := .resolve _ .initial
  obtain ⟨_, _, _, inlines⟩ := only_cycles_stay_named reached (componentAt "Pair")
  obtain ⟨closed, sameWaiting, inlined⟩ := inlines pairDocument_acyclic
  have waiting : resolver.recursive = ["Node"] := by decide +kernel
  exact ⟨reached, pairDocument_acyclic, closed, sameWaiting.trans waiting, (inlined _).2 rfl⟩

end Resolver

end TypedClient
