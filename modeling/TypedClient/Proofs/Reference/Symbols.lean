import Mathlib.Data.List.Nodup
import TypedClient.Proofs.Reference.FreshNames
import TypedClient.Proofs.Reference.Trail
import TypedClient.Reference.Resolver

/-!
Contract: the symbols of the components of one document.

Owns:
- `Resolver.Extends`, that a later state knows all an earlier one knew, in the same places;
- `Resolver.Consistent`, that no two components share a symbol, that each symbol is made from the
  name of its component, and that what waits for a declaration has a symbol and lies on a cycle;
- that every operation of a resolver extends it and keeps it consistent.

Does not own: declarations.
-/

namespace TypedClient

theorem Ordered.lookup?_eq_some_of_extended {α : Type} {entries more : Ordered α} {key : String}
    {value : α} (found : entries.lookup? key = some value) (extended : entries <+: more) :
    more.lookup? key = some value := by
  obtain ⟨rest, rfl⟩ := extended
  unfold Ordered.lookup? at found ⊢
  obtain ⟨entry, first, isValue⟩ := Option.map_eq_some_iff.1 found
  rw [List.find?_append, first]
  simp [isValue]

theorem Ordered.mem_keys_iff {α : Type} {entries : Ordered α} {key : String} :
    key ∈ entries.keys ↔ ∃ value, entries.lookup? key = some value := by
  constructor
  · intro member
    cases found : entries.lookup? key with
    | none => exact absurd member (lookup?_eq_none_iff.1 found)
    | some value => exact ⟨value, rfl⟩
  · rintro ⟨value, found⟩
    exact mem_keys_of_lookup? found

theorem Ordered.mem_of_lookup? {α : Type} {entries : Ordered α} {key : String} {value : α}
    (found : entries.lookup? key = some value) : (key, value) ∈ entries := by
  obtain ⟨entry, first, rfl⟩ := Option.map_eq_some_iff.1 found
  have isKey := List.find?_some first
  simp only [decide_eq_true_eq] at isKey
  subst isKey
  exact List.mem_of_find?_eq_some first

namespace Resolver

/-- A later state: of the same document, and what is known already stays in its place. -/
structure Extends (resolver later : Resolver) : Prop where
  document : later.document = resolver.document
  qualifier : later.qualifier = resolver.qualifier
  symbols : resolver.symbols <+: later.symbols
  recursive : resolver.recursive <+: later.recursive

/-- A state that resolving can reach: components have different symbols, each made from the name of
the component, and what waits for a declaration is there once, has a symbol and lies on a cycle. -/
structure Consistent (resolver : Resolver) : Prop where
  distinct : (resolver.symbols.map Prod.snd).Nodup
  made : ∀ entry ∈ resolver.symbols, WithDigits (resolver.baseSymbol entry.1) entry.2
  once : resolver.recursive.Nodup
  named : ∀ component ∈ resolver.recursive, component ∈ resolver.symbols.keys
  cyclic : ∀ component ∈ resolver.recursive, resolver.document.Cyclic component

variable {resolver later latest : Resolver} {component other : String}

protected theorem Extends.refl (resolver : Resolver) : resolver.Extends resolver :=
  ⟨rfl, rfl, List.prefix_rfl, List.prefix_rfl⟩

protected theorem Extends.trans (first : resolver.Extends later) (second : later.Extends latest) :
    resolver.Extends latest where
  document := second.document.trans first.document
  qualifier := second.qualifier.trans first.qualifier
  symbols := first.symbols.trans second.symbols
  recursive := first.recursive.trans second.recursive

theorem Consistent.initial (document : Document) (qualifier : String) :
    Consistent { document, qualifier } where
  distinct := List.nodup_nil
  made := by simp
  once := List.nodup_nil
  named := by simp
  cyclic := by simp

/-! ## Symbols -/

theorem lookup?_symbolOf (isNamed : component ∈ resolver.symbols.keys) :
    resolver.symbols.lookup? component = some (resolver.symbolOf component) := by
  obtain ⟨symbol, found⟩ := Ordered.mem_keys_iff.1 isNamed
  rw [symbolOf, found, Option.getD_some]

/-- A component keeps its symbol. -/
theorem Extends.symbolOf_eq (extended : resolver.Extends later)
    (isNamed : component ∈ resolver.symbols.keys) :
    later.symbolOf component = resolver.symbolOf component := by
  have found := Ordered.lookup?_eq_some_of_extended (lookup?_symbolOf isNamed) extended.symbols
  rw [symbolOf, found, Option.getD_some]

theorem Extends.mem_keys (extended : resolver.Extends later)
    (isNamed : component ∈ resolver.symbols.keys) : component ∈ later.symbols.keys :=
  Ordered.mem_keys_iff.2
    ⟨_, Ordered.lookup?_eq_some_of_extended (lookup?_symbolOf isNamed) extended.symbols⟩

/-- The symbol of a component is made from its name. -/
theorem Consistent.withDigits_symbolOf (consistent : resolver.Consistent)
    (isNamed : component ∈ resolver.symbols.keys) :
    WithDigits (resolver.baseSymbol component) (resolver.symbolOf component) :=
  consistent.made (component, resolver.symbolOf component)
    (Ordered.mem_of_lookup? (lookup?_symbolOf isNamed))

theorem Consistent.symbolOf_injective (consistent : resolver.Consistent)
    (isNamed : component ∈ resolver.symbols.keys) (otherNamed : other ∈ resolver.symbols.keys)
    (same : resolver.symbolOf component = resolver.symbolOf other) : component = other := by
  have entry := Ordered.mem_of_lookup? (lookup?_symbolOf isNamed)
  have otherEntry := Ordered.mem_of_lookup? (lookup?_symbolOf otherNamed)
  have equal := List.inj_on_of_nodup_map consistent.distinct entry otherEntry same
  exact congrArg Prod.fst equal

/-! ## Giving a symbol -/

theorem withSymbol_extends (resolver : Resolver) (component : String) :
    resolver.Extends (resolver.withSymbol component) := by
  unfold withSymbol
  split
  · exact Extends.refl resolver
  · exact ⟨rfl, rfl, List.prefix_append _ _, List.prefix_rfl⟩

theorem recursive_withSymbol (resolver : Resolver) (component : String) :
    (resolver.withSymbol component).recursive = resolver.recursive := by
  unfold withSymbol
  split <;> rfl

theorem mem_keys_withSymbol (resolver : Resolver) (component : String) :
    component ∈ (resolver.withSymbol component).symbols.keys := by
  unfold withSymbol
  split
  · rename_i symbol found
    exact Ordered.mem_keys_of_lookup? found
  · simp [Ordered.keys]

theorem Consistent.withSymbol (consistent : resolver.Consistent) (component : String) :
    (resolver.withSymbol component).Consistent where
  distinct := by
    unfold Resolver.withSymbol
    split
    · exact consistent.distinct
    · rw [List.map_append, List.map_singleton, List.nodup_append]
      refine ⟨consistent.distinct, List.nodup_singleton _, ?_⟩
      rintro symbol isTaken new isNew rfl
      rw [List.mem_singleton] at isNew
      exact fresh_not_mem _ _ (isNew ▸ isTaken)
  made := by
    unfold Resolver.withSymbol
    split
    · exact consistent.made
    · intro entry member
      rcases List.mem_append.1 member with earlier | isNew
      · exact consistent.made entry earlier
      · rw [List.mem_singleton.1 isNew]
        exact withDigits_fresh _ _
  once := by
    rw [recursive_withSymbol]
    exact consistent.once
  named := by
    intro waiting member
    rw [recursive_withSymbol] at member
    exact (withSymbol_extends resolver component).mem_keys (consistent.named waiting member)
  cyclic := by
    intro waiting member
    rw [recursive_withSymbol] at member
    rw [(withSymbol_extends resolver component).document]
    exact consistent.cyclic waiting member

/-! ## Notices -/

theorem absorb_extends (resolver : Resolver) (notice : Notice) :
    resolver.Extends (resolver.absorb notice) := by
  cases notice with
  | warning warning => exact ⟨rfl, rfl, List.prefix_rfl, List.prefix_rfl⟩
  | cycle component =>
      have named := withSymbol_extends resolver component
      simp only [absorb]
      split
      · exact named
      · exact ⟨named.document, named.qualifier, named.symbols,
          named.recursive.trans (List.prefix_append _ _)⟩

theorem mem_recursive_absorb {notice : Notice} :
    component ∈ (resolver.absorb notice).recursive ↔
      component ∈ resolver.recursive ∨ notice = .cycle component := by
  cases notice with
  | warning warning => simp [absorb]
  | cycle other =>
      simp only [absorb]
      split
      · rename_i known
        rw [recursive_withSymbol] at known ⊢
        simp only [Notice.cycle.injEq]
        constructor
        · exact Or.inl
        · rintro (member | rfl)
          · exact member
          · simpa using known
      · simp [recursive_withSymbol, eq_comm]

theorem Consistent.absorb (consistent : resolver.Consistent) {notice : Notice}
    (cyclic : ∀ component, notice = .cycle component → resolver.document.Cyclic component) :
    (resolver.absorb notice).Consistent := by
  cases notice with
  | warning warning =>
      exact ⟨consistent.distinct, consistent.made, consistent.once, consistent.named,
        consistent.cyclic⟩
  | cycle component =>
      have named := consistent.withSymbol component
      simp only [Resolver.absorb]
      split
      · exact named
      · rename_i unknown
        have isNew : component ∉ (resolver.withSymbol component).recursive := by
          simpa using unknown
        refine ⟨named.distinct, named.made, ?_, ?_, ?_⟩
        · rw [List.nodup_append]
          refine ⟨named.once, List.nodup_singleton _, ?_⟩
          rintro waiting member new isAdded rfl
          rw [List.mem_singleton] at isAdded
          exact isNew (isAdded ▸ member)
        · intro waiting member
          rcases List.mem_append.1 member with earlier | isAdded
          · exact named.named waiting earlier
          · rw [List.mem_singleton.1 isAdded]
            exact mem_keys_withSymbol resolver component
        · intro waiting member
          rcases List.mem_append.1 member with earlier | isAdded
          · exact named.cyclic waiting earlier
          · rw [List.mem_singleton.1 isAdded]
            change (resolver.withSymbol component).document.Cyclic component
            rw [(withSymbol_extends resolver component).document]
            exact cyclic component rfl

theorem absorbAll_extends (resolver : Resolver) (notices : List Notice) :
    resolver.Extends (resolver.absorbAll notices) := by
  unfold absorbAll
  induction notices generalizing resolver with
  | nil => exact Extends.refl resolver
  | cons notice rest inductionHypothesis =>
      exact (absorb_extends resolver notice).trans (inductionHypothesis _)

/-- After some notices, exactly the components at which they close a cycle wait for a declaration
besides those that waited before. -/
theorem mem_recursive_absorbAll {notices : List Notice} :
    component ∈ (resolver.absorbAll notices).recursive ↔
      component ∈ resolver.recursive ∨ .cycle component ∈ notices := by
  unfold absorbAll
  induction notices generalizing resolver with
  | nil => simp
  | cons notice rest inductionHypothesis =>
      rw [List.foldl_cons, inductionHypothesis, mem_recursive_absorb, List.mem_cons, or_assoc,
        eq_comm (a := notice)]

theorem Consistent.absorbAll (consistent : resolver.Consistent) {notices : List Notice}
    (cyclic : ∀ component, .cycle component ∈ notices → resolver.document.Cyclic component) :
    (resolver.absorbAll notices).Consistent := by
  unfold Resolver.absorbAll
  induction notices generalizing resolver with
  | nil => exact consistent
  | cons notice rest inductionHypothesis =>
      rw [List.foldl_cons]
      apply inductionHypothesis
      · apply consistent.absorb
        rintro component rfl
        exact cyclic component List.mem_cons_self
      · intro component later
        rw [(absorb_extends resolver notice).document]
        exact cyclic component (List.mem_cons_of_mem _ later)

/-! ## Resolving -/

theorem Consistent.afterResolving_nil (consistent : resolver.Consistent) (schema : Schema) :
    (resolver.afterResolving [] schema).Consistent := by
  apply consistent.absorbAll
  intro component noticed
  exact Document.cyclic_of_mem_expand_nil (Document.cycle_mem_notices_iff.1 noticed)

theorem Consistent.afterResolving_self (consistent : resolver.Consistent) {schema : Schema}
    (found : resolver.document.schema? component = some schema) :
    (resolver.afterResolving [component] schema).Consistent := by
  apply consistent.absorbAll
  intro other noticed
  exact Document.cyclic_of_mem_expand_self found (Document.cycle_mem_notices_iff.1 noticed)

theorem afterResolving_extends (resolver : Resolver) (trail : List String) (schema : Schema) :
    resolver.Extends (resolver.afterResolving trail schema) :=
  absorbAll_extends resolver _

theorem mem_recursive_afterResolving {trail : List String} {schema : Schema} :
    component ∈ (resolver.afterResolving trail schema).recursive ↔
      component ∈ resolver.recursive ∨
        component ∈ (resolver.document.expand trail schema).symbols := by
  rw [afterResolving, mem_recursive_absorbAll, Document.cycle_mem_notices_iff]

end Resolver

end TypedClient
