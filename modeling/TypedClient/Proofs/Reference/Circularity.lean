import TypedClient.Proofs.Reference.Resolution
import TypedClient.Proofs.Reference.Visibility

/-!
Contract: declarations that refer to themselves with no array and no object in between.

Owns:
- `Declaration.IsCircular`, that a declaration comes back to its own symbol through members of unions
  and intersections alone;
- that among the declarations of a completed resolution there is a circular one exactly if a declared
  component lies on a cycle of exposed references, unless it is nothing but another name for itself;
- the same in terms of the schemas that were resolved.

Does not own: the schemas of endpoints.
-/

namespace TypedClient

open Relation (ReflTransGen TransGen)

/-- Among some declarations, a symbol stands for a shape that exposes another symbol. -/
def ExposesSymbol (declarations : List Declaration) (symbol other : String) : Prop :=
  ∃ declaration ∈ declarations, declaration.symbol = symbol ∧ other ∈ declaration.shape.exposed

/-- A declaration comes back to its own symbol, below no array and no object. -/
def Declaration.IsCircular (declarations : List Declaration) (declaration : Declaration) : Prop :=
  TransGen (ExposesSymbol declarations) declaration.symbol declaration.symbol

namespace Document

variable {document : Document} {component other : String} {schema : Schema}

/-- A component refers to another one below no array and no object. -/
abbrev Exposes (document : Document) : String → String → Prop :=
  Visibility.exposed.Shows document

/-- What is declared for a component exposes another component. -/
def DeclaresExposed (document : Document) (component other : String) : Prop :=
  ∃ shape, document.declared? component = some shape ∧ other ∈ shape.exposed

theorem Exposes.refers (exposes : document.Exposes component other) :
    document.Refers component other := by
  obtain ⟨schema, found, pointer, isPointer, target, leads⟩ := exposes
  exact ⟨schema, found, pointer, schema.exposedPointers_subset_pointers isPointer, target, leads⟩

/-- A component on a cycle of exposed references lies on a cycle of references. -/
theorem cyclic_of_exposes (cycle : TransGen document.Exposes component component) :
    document.Cyclic component :=
  TransGen.mono (fun _ _ => Exposes.refers) _ _ cycle

theorem DeclaresExposed.transGen (exposes : document.DeclaresExposed component other) :
    TransGen document.Exposes component other := by
  obtain ⟨shape, declared, exposed⟩ := exposes
  obtain ⟨schema, found, rfl⟩ := Option.map_eq_some_iff.1 declared
  apply Visibility.transGen_of_mem_expand [component] found
  change other ∈ (document.expand [component] schema).exposed
  cases shape : document.expand [component] schema with
  | named symbol =>
      rw [shape, Resolver.declaredShape] at exposed
      cases exposed
  | _ =>
      rw [shape] at exposed
      exact exposed

/-- A component on a cycle of exposed references is exposed in what is declared for it, unless it is
nothing but another name for itself. -/
theorem declaresExposed_self (cycle : TransGen document.Exposes component component)
    (structured : ¬ TransGen document.Alias component component) :
    document.DeclaresExposed component component := by
  obtain ⟨schema, found⟩ := (cyclic_of_exposes cycle).exists_schema
  have notBare : ∀ symbol, document.expand [component] schema ≠ .named symbol :=
    fun symbol bare =>
      structured (alias_cycle_of_expand_eq_named found (cyclic_of_exposes cycle) bare)
  refine ⟨document.expand [component] schema, ?_, Visibility.mem_expand_of_cycle found cycle⟩
  rw [declared?, found, Option.map_some, Resolver.declaredShape_of_ne_named notBare]

/-- Nothing is exposed in what is declared for a component that is nothing but another name for
itself. -/
theorem not_declaresExposed (alias_ : TransGen document.Alias component component) :
    ¬ document.DeclaresExposed component other := by
  rintro ⟨shape, declared, exposed⟩
  obtain ⟨schema, found, rfl⟩ := Option.map_eq_some_iff.1 declared
  rw [expand_eq_named_of_alias_cycle found alias_] at exposed
  cases exposed

/-- Along a cycle of exposed references one component is nothing but another name for itself exactly
if the other one is. -/
theorem alias_cycle_of_exposes (there : TransGen document.Exposes component other)
    (back : TransGen document.Exposes other component)
    (alias_ : TransGen document.Alias component component) :
    TransGen document.Alias other other := by
  have cycle := there.trans back
  obtain ⟨schema, found⟩ := (cyclic_of_exposes cycle).exists_schema
  have endless := endless_of_expand_eq_named found (expand_eq_named_of_alias_cycle found alias_)
  have refers : ∀ {first second : String}, TransGen document.Exposes first second →
      TransGen document.Refers first second :=
    fun path => TransGen.mono (fun _ _ => Exposes.refers) _ _ path
  obtain ⟨_, steps, foundOther⟩ := alias_of_refers found endless (refers there)
  have endlessOther : ∀ more,
      (document.hop^[more] (document.hop^[steps] schema)).isReference = true := by
    intro more
    rw [← Function.iterate_add_apply]
    exact endless (more + steps)
  exact (alias_of_refers foundOther endlessOther (refers (back.trans there))).1

end Document

namespace Resolver

variable {resolver final : Resolver} {declarations : List Declaration} {component : String}

theorem exists_of_mem_of_declares {components : List String} {declaration : Declaration}
    (declares : List.Forall₂ resolver.Declares components declarations)
    (member : declaration ∈ declarations) :
    ∃ component ∈ components, resolver.Declares component declaration := by
  induction declares with
  | nil => cases member
  | cons first _ inductionHypothesis =>
      rcases List.mem_cons.1 member with rfl | later
      · exact ⟨_, List.mem_cons_self, first⟩
      · obtain ⟨component, isIn, declares⟩ := inductionHypothesis later
        exact ⟨component, List.mem_cons_of_mem _ isIn, declares⟩

/-- A declaration exposes the symbols of the components that are exposed in what is declared for its
own component. -/
theorem Completed.exposesSymbol_iff (completed : Completed resolver 0 declarations final)
    (waits : component ∈ final.recursive) {symbol : String} :
    ExposesSymbol declarations (final.symbolOf component) symbol ↔
      ∃ other ∈ final.recursive, final.document.DeclaresExposed component other ∧
        final.symbolOf other = symbol := by
  constructor
  · rintro ⟨declaration, member, isSymbol, exposed⟩
    obtain ⟨declared, declaredWaits, shape, isDeclared, rfl⟩ :=
      exists_of_mem_of_declares completed.declares_all member
    have same := completed.consistent.symbolOf_injective
      (completed.consistent.named declared declaredWaits)
      (completed.consistent.named component waits) isSymbol
    subst same
    rw [Shape.exposed_rename] at exposed
    obtain ⟨other, isExposed, rfl⟩ := List.mem_map.1 exposed
    exact ⟨other, completed.closed_all declaredWaits isDeclared other
      (shape.exposed_subset_symbols isExposed), ⟨shape, isDeclared, isExposed⟩, rfl⟩
  · rintro ⟨other, _, ⟨shape, isDeclared, exposed⟩, rfl⟩
    obtain ⟨declaration, member, own, isOwn, rfl⟩ :=
      exists_mem_of_declares completed.declares_all waits
    rw [isDeclared, Option.some.injEq] at isOwn
    subst isOwn
    refine ⟨_, member, rfl, ?_⟩
    rw [Shape.exposed_rename]
    exact List.mem_map_of_mem exposed

/-- The declaration of a component is circular exactly if the component lies on a cycle of exposed
references and is more than another name for itself. -/
theorem Completed.exposesSymbol_cycle_iff (completed : Completed resolver 0 declarations final)
    (waits : component ∈ final.recursive) :
    TransGen (ExposesSymbol declarations) (final.symbolOf component) (final.symbolOf component) ↔
      TransGen final.document.Exposes component component ∧
        ¬ TransGen final.document.Alias component component := by
  constructor
  · intro cycle
    have path : ∀ symbol, TransGen (ExposesSymbol declarations) (final.symbolOf component) symbol →
        ∃ other ∈ final.recursive, final.symbolOf other = symbol ∧
          TransGen final.document.DeclaresExposed component other := by
      intro symbol path
      induction path with
      | single first =>
          obtain ⟨other, otherWaits, exposes, isSymbol⟩ := (completed.exposesSymbol_iff waits).1 first
          exact ⟨other, otherWaits, isSymbol, .single exposes⟩
      | tail _ last inductionHypothesis =>
          obtain ⟨middle, middleWaits, rfl, before⟩ := inductionHypothesis
          obtain ⟨other, otherWaits, exposes, isSymbol⟩ :=
            (completed.exposesSymbol_iff middleWaits).1 last
          exact ⟨other, otherWaits, isSymbol, before.tail exposes⟩
    obtain ⟨other, otherWaits, same, back⟩ := path _ cycle
    have isSelf := completed.consistent.symbolOf_injective
      (completed.consistent.named other otherWaits)
      (completed.consistent.named component waits) same
    subst isSelf
    refine ⟨TransGen.closed (fun _ _ => Document.DeclaresExposed.transGen) _ _ back, ?_⟩
    obtain ⟨next, exposes, _⟩ := TransGen.head'_iff.1 back
    exact fun alias_ => Document.not_declaresExposed alias_ exposes
  · rintro ⟨cycle, structured⟩
    exact .single ((completed.exposesSymbol_iff waits).2
      ⟨component, waits, Document.declaresExposed_self cycle structured, rfl⟩)

/-- There is a circular declaration exactly if a declared component lies on a cycle of exposed
references and is more than another name for itself. -/
theorem Completed.exists_isCircular_iff (completed : Completed resolver 0 declarations final) :
    (∃ declaration ∈ declarations, declaration.IsCircular declarations) ↔
      ∃ component ∈ final.recursive, TransGen final.document.Exposes component component ∧
        ¬ TransGen final.document.Alias component component := by
  constructor
  · rintro ⟨declaration, member, circular⟩
    obtain ⟨component, waits, shape, _, rfl⟩ :=
      exists_of_mem_of_declares completed.declares_all member
    exact ⟨component, waits, (completed.exposesSymbol_cycle_iff waits).1 circular⟩
  · rintro ⟨component, waits, cycle⟩
    obtain ⟨declaration, member, shape, _, rfl⟩ :=
      exists_mem_of_declares completed.declares_all waits
    exact ⟨_, member, (completed.exposesSymbol_cycle_iff waits).2 cycle⟩

/-! ## In terms of the schemas resolved -/

/-- Exactly the names in the expansions of some schemas wait for a declaration. -/
def Gathered (resolver : Resolver) (schemas : List Schema) : Prop :=
  ∀ name, name ∈ resolver.recursive ↔
    ∃ schema ∈ schemas, name ∈ (resolver.document.expand [] schema).symbols

theorem gathered_resolveAll (document : Document) (qualifier : String) (schemas : List Schema) :
    (resolveAll { document, qualifier } schemas).Gathered schemas := by
  have further : ∀ (resolver : Resolver) (schemas : List Schema) (name : String),
      name ∈ (resolver.resolveAll schemas).recursive ↔ name ∈ resolver.recursive ∨
        ∃ schema ∈ schemas, name ∈ (resolver.document.expand [] schema).symbols := by
    intro resolver schemas name
    induction schemas generalizing resolver with
    | nil => simp [resolveAll]
    | cons schema rest inductionHypothesis =>
        change name ∈ (resolveAll (resolver.afterResolving [] schema) rest).recursive ↔ _
        rw [inductionHypothesis, mem_recursive_afterResolving,
          (afterResolving_extends resolver [] schema).document]
        simp only [List.mem_cons, exists_eq_or_imp, or_assoc]
  intro name
  rw [further, (resolveAll_extends { document, qualifier } schemas).document]
  simp

/-- What is true of the waiting components, and goes over from a component to the names in its
expansion, is true of all components that are declared. -/
theorem forall_mem_recursive_declarationsFrom {Holds : String → Prop} {position steps : Nat}
    (closed : ∀ component schema, Holds component →
      resolver.document.schema? component = some schema →
      ∀ other ∈ (resolver.document.expand [component] schema).symbols, Holds other)
    (start : ∀ component ∈ resolver.recursive, Holds component) :
    ∀ component ∈ (resolver.declarationsFrom position steps).2.recursive, Holds component := by
  induction steps generalizing resolver position with
  | zero => exact start
  | succ steps inductionHypothesis =>
      rw [declarationsFrom]
      split
      · exact start
      · rename_i component waits
        split
        · exact inductionHypothesis closed start
        · rename_i schema found
          have sameDocument := (afterDeclaring_extends resolver component schema).document
          have closedLater : ∀ other target, Holds other →
              (resolver.afterDeclaring component schema).document.schema? other = some target →
              ∀ next ∈ ((resolver.afterDeclaring component schema).document.expand [other]
                target).symbols, Holds next := by
            rw [sameDocument]
            exact closed
          have startLater : ∀ other ∈ (resolver.afterDeclaring component schema).recursive,
              Holds other := by
            intro other member
            rcases mem_recursive_afterDeclaring.1 member with earlier | mentioned
            · exact start other earlier
            · exact closed component schema (start component (List.mem_of_getElem? waits)) found
                other mentioned
          exact inductionHypothesis closedLater startLater

/-- There is a circular declaration exactly if, from a schema that was resolved, a component can be
reached that lies on a cycle of exposed references and is more than another name for itself. -/
theorem Gathered.exists_isCircular_iff {schemas : List Schema} (gathered : resolver.Gathered schemas)
    (consistent : resolver.Consistent) :
    (∃ declaration ∈ resolver.declarations.1, declaration.IsCircular resolver.declarations.1) ↔
      ∃ schema ∈ schemas, ∃ component, resolver.document.Reaches schema component ∧
        TransGen resolver.document.Exposes component component ∧
          ¬ TransGen resolver.document.Alias component component := by
  have completed := declarations_completed consistent
  rw [completed.exists_isCircular_iff, completed.later.document]
  constructor
  · rintro ⟨component, waits, cycle⟩
    have reached : ∀ name ∈ resolver.declarations.2.recursive,
        ∃ schema ∈ schemas, resolver.document.Reaches schema name := by
      apply forall_mem_recursive_declarationsFrom
      · rintro name target ⟨schema, isSchema, first, mentions, path⟩ found other mentioned
        obtain ⟨next, targetMentions, further⟩ := Document.reaches_of_mem_symbols mentioned
        exact ⟨schema, isSchema, first, mentions,
          path.trans (.head ⟨target, found, targetMentions⟩ further)⟩
      · intro name waits
        obtain ⟨schema, isSchema, mentioned⟩ := (gathered name).1 waits
        exact ⟨schema, isSchema, Document.reaches_of_mem_symbols mentioned⟩
    obtain ⟨schema, isSchema, reaches⟩ := reached component waits
    exact ⟨schema, isSchema, component, reaches, cycle⟩
  · rintro ⟨schema, isSchema, component, reaches, cycle, structured⟩
    -- Inside the expansion the component stands on the trail, so that its cycle is closed there: at
    -- a component of the same cycle.
    obtain ⟨further, target, found, onTrail, within⟩ := Document.exists_expand_of_reaches reaches
    obtain ⟨next, ⟨own, foundOwn, pointer, isPointer, nextTarget, leads⟩, path⟩ :=
      TransGen.head'_iff.1 cycle
    rw [found, Option.some.injEq] at foundOwn
    subst foundOwn
    obtain ⟨other, exposed, there, back⟩ :=
      Visibility.exists_mem_expandPointer_of_path further pointer leads onTrail path
    have mentioned : other ∈ (resolver.document.expand further target).symbols := by
      apply Shape.exposed_subset_symbols
      rw [Document.expand, Schema.exposed_expandWith]
      exact List.mem_flatMap_of_mem isPointer exposed
    have toOther : TransGen resolver.document.Exposes component other :=
      .head' ⟨target, found, pointer, isPointer, nextTarget, leads⟩ there
    have fromOther : TransGen resolver.document.Exposes other component := by
      rcases Relation.reflTransGen_iff_eq_or_transGen.1 back with rfl | path
      · exact cycle
      · exact path
    refine ⟨other, completed.later.recursive.subset ((gathered other).2
      ⟨schema, isSchema, within mentioned⟩), fromOther.trans toOther, fun alias_ => ?_⟩
    exact structured (Document.alias_cycle_of_exposes fromOther toOther alias_)

end Resolver

end TypedClient
