import TypedClient.Proofs.Reference.Trail
import TypedClient.Reference.Resolver

/-!
Contract: components that are only another name for a component.

Owns:
- `Document.Alias`, the reference graph restricted to such components;
- when the expansion of a schema is a bare name: only if nothing but references follows;
- that a component on a cycle whose expansion is a bare name is another name for itself.

Does not own: declarations.
-/

namespace TypedClient.Document

variable {document : Document} {trail : List String} {pointer name component symbol : String}
  {schema target : Schema}

/-- A component is another name for a component: its schema is a reference to it. -/
def Alias (document : Document) (component other : String) : Prop :=
  ∃ pointer target, document.schema? component = some (.reference pointer) ∧
    document.Leads pointer other target

theorem expand_reference (trail : List String) (pointer : String) :
    document.expand trail (.reference pointer) = document.expandPointer trail pointer := by
  rw [expand, Schema.expandWith]

theorem expandWith_ne_named {follow : String → Shape} (plain : schema.isReference = false) :
    schema.expandWith follow ≠ .named symbol := by
  cases schema with
  | reference pointer => cases plain
  | object properties required additional => simp [Schema.expandWith_object]
  | _ => simp [Schema.expandWith]

/-- Every expansion is a bare name, of a component with the same end of its chain, or has the
structure at the end of the chain. -/
theorem expandPointer_cases (trail : List String) (pointer : String) :
    (∃ name target, document.expandPointer trail pointer = .named name ∧
      document.schema? name = some target ∧
      document.behind (.reference pointer) = document.behind target) ∨
    ∃ further, document.expandPointer trail pointer =
      (document.behind (.reference pointer)).expandWith (document.expandPointer further) := by
  induction trail, pointer using document.trailInduction with
  | nowhere trail pointer nowhere =>
      refine Or.inr ⟨trail, ?_⟩
      rw [expandPointer_of_nowhere nowhere, behind_reference_of_nowhere nowhere,
        Schema.expandWith]
  | back trail pointer name target leads onTrail =>
      exact Or.inl ⟨name, target, expandPointer_of_mem leads onTrail, leads.2,
        behind_reference_of_leads leads⟩
  | onward trail pointer name target leads fresh inductionHypothesis =>
      rw [expandPointer_of_not_mem leads fresh, behind_reference_of_leads leads]
      cases plain : target.isReference with
      | true =>
          obtain ⟨next, rfl⟩ := Schema.isReference_iff.1 plain
          rw [expand_reference]
          exact inductionHypothesis next
      | false =>
          rw [behind_of_not_isReference plain]
          exact Or.inr ⟨name :: trail, rfl⟩

theorem expand_cases (trail : List String) (schema : Schema) :
    (∃ name target, document.expand trail schema = .named name ∧
      document.schema? name = some target ∧ document.behind schema = document.behind target) ∨
    ∃ further, document.expand trail schema =
      (document.behind schema).expandWith (document.expandPointer further) := by
  cases plain : schema.isReference with
  | true =>
      obtain ⟨pointer, rfl⟩ := Schema.isReference_iff.1 plain
      rw [expand_reference]
      exact expandPointer_cases trail pointer
  | false =>
      rw [behind_of_not_isReference plain]
      exact Or.inr ⟨trail, rfl⟩

/-! ## Bare names -/

/-- If every component of the trail is on the way to a pointer, the expansion of the pointer is a
bare name only where the chain of references comes back to the trail, and so never ends. -/
theorem endless_of_expandPointer_eq_named (trail : List String) (pointer : String)
    (onTheWay : ∀ component ∈ trail, ∃ start steps, document.schema? component = some start ∧
      document.hop^[steps] start = .reference pointer)
    (bare : document.expandPointer trail pointer = .named symbol) (steps : Nat) :
    (document.hop^[steps] (.reference pointer)).isReference = true := by
  induction trail, pointer using document.trailInduction generalizing steps with
  | nowhere trail pointer nowhere =>
      rw [expandPointer_of_nowhere nowhere] at bare
      cases bare
  | back trail pointer name target leads onTrail =>
      obtain ⟨start, before, found, arrives⟩ := onTheWay name onTrail
      rw [leads.2, Option.some.injEq] at found
      subst found
      refine isReference_of_periodic (Nat.succ_pos before) ?_ rfl steps
      rw [Function.iterate_succ_apply, hop_of_leads leads, arrives]
  | onward trail pointer name target leads fresh inductionHypothesis =>
      rw [expandPointer_of_not_mem leads fresh] at bare
      cases plain : target.isReference with
      | false => exact absurd bare (expandWith_ne_named plain)
      | true =>
          obtain ⟨next, rfl⟩ := Schema.isReference_iff.1 plain
          rw [expand_reference] at bare
          have extended : ∀ component ∈ name :: trail, ∃ start steps,
              document.schema? component = some start ∧
                document.hop^[steps] start = .reference next := by
            intro component member
            rcases List.mem_cons.1 member with isName | earlier
            · exact ⟨.reference next, 0, isName ▸ leads.2, rfl⟩
            · obtain ⟨start, before, found, arrives⟩ := onTheWay component earlier
              refine ⟨start, before + 1, found, ?_⟩
              rw [Function.iterate_succ_apply', arrives, hop_of_leads leads]
          cases steps with
          | zero => rfl
          | succ steps =>
              rw [Function.iterate_succ_apply, hop_of_leads leads]
              exact inductionHypothesis next extended bare steps

/-- The expansion of the schema of a component is a bare name only if the chain of references that
starts there never ends. -/
theorem endless_of_expand_eq_named (found : document.schema? component = some schema)
    (bare : document.expand [component] schema = .named symbol) (steps : Nat) :
    (document.hop^[steps] schema).isReference = true := by
  cases plain : schema.isReference with
  | false => exact absurd bare (expandWith_ne_named plain)
  | true =>
      obtain ⟨pointer, rfl⟩ := Schema.isReference_iff.1 plain
      rw [expand_reference] at bare
      refine endless_of_expandPointer_eq_named [component] pointer ?_ bare steps
      intro other member
      rw [List.mem_singleton] at member
      exact ⟨.reference pointer, 0, member ▸ found, rfl⟩

/-- Along a chain that never ends, to refer to a component is to be another name for it. -/
theorem alias_of_refers {other : String} (found : document.schema? component = some schema)
    (endless : ∀ steps, (document.hop^[steps] schema).isReference = true)
    (path : Relation.TransGen document.Refers component other) :
    Relation.TransGen document.Alias component other ∧
      ∃ steps, document.schema? other = some (document.hop^[steps] schema) := by
  have step : ∀ {from' next : String} (steps : Nat),
      document.schema? from' = some (document.hop^[steps] schema) →
      document.Refers from' next → document.Alias from' next ∧
        document.schema? next = some (document.hop^[steps + 1] schema) := by
    rintro from' next steps here ⟨hereSchema, foundHere, pointer, isPointer, target, leads⟩
    rw [here, Option.some.injEq] at foundHere
    obtain ⟨only, isOnly⟩ := Schema.isReference_iff.1 (endless steps)
    rw [← foundHere, isOnly, Schema.pointers, List.mem_singleton] at isPointer
    subst isPointer
    refine ⟨⟨pointer, target, isOnly ▸ here, leads⟩, ?_⟩
    rw [Function.iterate_succ_apply', isOnly, hop_of_leads leads]
    exact leads.2
  induction path with
  | single refers =>
      obtain ⟨isAlias, next⟩ := step 0 found refers
      exact ⟨.single isAlias, 1, next⟩
  | tail _ refers inductionHypothesis =>
      obtain ⟨earlier, steps, here⟩ := inductionHypothesis
      obtain ⟨isAlias, next⟩ := step steps here refers
      exact ⟨.tail earlier isAlias, steps + 1, next⟩

/-- A component on a cycle whose expansion is a bare name is nothing but another name for itself. -/
theorem alias_cycle_of_expand_eq_named (found : document.schema? component = some schema)
    (cyclic : document.Cyclic component)
    (bare : document.expand [component] schema = .named symbol) :
    Relation.TransGen document.Alias component component :=
  (alias_of_refers found (endless_of_expand_eq_named found bare) cyclic).1

/-! ## The name at the end -/

/-- A component is another name for a goal, over a number of further names, none of which is the
goal. -/
private inductive NamePath (document : Document) (goal : String) : Nat → String → Prop where
  | arrived : NamePath document goal 0 goal
  | next {steps : Nat} {component other : String} (different : component ≠ goal)
      (isAlias : document.Alias component other) (rest : NamePath document goal steps other) :
      NamePath document goal (steps + 1) component

private theorem Alias.unique {first second : String} (isFirst : document.Alias component first)
    (isSecond : document.Alias component second) : first = second := by
  obtain ⟨pointer, target, found, leads⟩ := isFirst
  obtain ⟨otherPointer, otherTarget, otherFound, otherLeads⟩ := isSecond
  rw [found, Option.some.injEq, Schema.reference.injEq] at otherFound
  subst otherFound
  exact (leads.unique otherLeads).1

private theorem NamePath.unique {goal : String} {first second : Nat}
    (path : NamePath document goal first component)
    (other : NamePath document goal second component) : first = second := by
  induction path generalizing second with
  | arrived =>
      cases other with
      | arrived => rfl
      | next different _ _ => exact absurd rfl different
  | next different isAlias _ inductionHypothesis =>
      cases other with
      | arrived => exact absurd rfl different
      | next _ otherAlias rest =>
          rw [isAlias.unique otherAlias] at inductionHypothesis
          rw [inductionHypothesis rest]

private theorem exists_namePath {goal : String}
    (path : Relation.ReflTransGen document.Alias component goal) :
    ∃ steps, NamePath document goal steps component := by
  induction path using Relation.ReflTransGen.head_induction_on with
  | refl => exact ⟨0, .arrived⟩
  | @head component other isAlias _ inductionHypothesis =>
      by_cases same : component = goal
      · exact ⟨0, same ▸ .arrived⟩
      · obtain ⟨steps, rest⟩ := inductionHypothesis
        exact ⟨steps + 1, .next same isAlias rest⟩

/-- The expansion follows the names towards the goal, which is on the trail. The other components of
the trail are farther away from the goal, so none of them is met again before. -/
private theorem expandPointer_eq_named_goal {goal : String} {steps : Nat}
    (leads : document.Leads pointer name target) (path : NamePath document goal steps name)
    (goalOnTrail : goal ∈ trail)
    (farther : ∀ other ∈ trail, other ≠ goal →
      ∃ more, steps < more ∧ NamePath document goal more other) :
    document.expandPointer trail pointer = .named goal := by
  induction path generalizing trail pointer target with
  | arrived => exact expandPointer_of_mem leads goalOnTrail
  | @next steps name other different isAlias rest inductionHypothesis =>
      have fresh : name ∉ trail := by
        intro onTrail
        obtain ⟨more, longer, otherPath⟩ := farther name onTrail different
        have same := NamePath.unique (.next different isAlias rest) otherPath
        omega
      obtain ⟨next, nextTarget, found, nextLeads⟩ := isAlias
      rw [leads.2, Option.some.injEq] at found
      subst found
      rw [expandPointer_of_not_mem leads fresh, expand_reference]
      refine inductionHypothesis nextLeads (List.mem_cons_of_mem _ goalOnTrail) ?_
      intro before member beforeDifferent
      rcases List.mem_cons.1 member with isName | earlier
      · subst isName
        exact ⟨steps + 1, Nat.lt_succ_self steps,
          .next different ⟨next, nextTarget, leads.2, nextLeads⟩ rest⟩
      · obtain ⟨more, longer, otherPath⟩ := farther before earlier beforeDifferent
        exact ⟨more, by omega, otherPath⟩

/-- A component that is nothing but another name for itself expands to its own name. -/
theorem expand_eq_named_of_alias_cycle (found : document.schema? component = some schema)
    (cycle : Relation.TransGen document.Alias component component) :
    document.expand [component] schema = .named component := by
  obtain ⟨other, ⟨pointer, target, isReference, leads⟩, rest⟩ := Relation.TransGen.head'_iff.1 cycle
  rw [found, Option.some.injEq] at isReference
  subst isReference
  obtain ⟨steps, path⟩ := exists_namePath rest
  rw [expand_reference]
  refine expandPointer_eq_named_goal leads path (List.mem_singleton.2 rfl) ?_
  intro before member different
  exact absurd (List.mem_singleton.1 member) different

/-- A component on a cycle whose expansion is a bare name expands to its own name. -/
theorem eq_of_expand_eq_named (found : document.schema? component = some schema)
    (cyclic : document.Cyclic component)
    (bare : document.expand [component] schema = .named symbol) : symbol = component := by
  have own := expand_eq_named_of_alias_cycle found
    (alias_cycle_of_expand_eq_named found cyclic bare)
  rw [own, Shape.named.injEq] at bare
  exact bare.symm

end TypedClient.Document
