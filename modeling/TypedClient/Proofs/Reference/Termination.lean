import Mathlib.Data.Finset.Card
import TypedClient.Proofs.Reference.Resolution
import TypedClient.Proofs.Reference.Walk

/-!
Contract: resolving comes to an end, whatever the references of a document look like.

Owns:
- that every row of steps ends, and what a step can do to the stack of components;
- the states that can be reached, and that their stacks hold different components of the document;
- `Worklist`, the declarations made one after the other while further components join the list, and
  that it is worked off.

Does not own: what the shapes and the declarations mean.
-/

namespace TypedClient

namespace Walk

variable {walk later : Walk} {schema : Schema} {component : String} {stack : List String}
  {document : Document} {qualifier : String}

/-! ## The end -/

theorem exists_final (walk : Walk) : ∃ final, Steps walk final ∧ final.next = none := by
  obtain ⟨resolver, stack, tasks, shapes⟩ := walk
  induction tasks generalizing resolver stack shapes with
  | nil => exact ⟨_, .refl _, rfl⟩
  | cons task rest inductionHypothesis =>
      let without : Walk := ⟨resolver, stack, rest, shapes⟩
      have worked : ∃ later : Walk, Steps (without.todo task) later ∧ later.tasks = rest := by
        cases task with
        | resolve schema => exact ⟨_, steps_resolve without schema, rfl⟩
        | assemble schema => exact ⟨_, steps_perform without (.assemble schema), rfl⟩
        | leave => exact ⟨_, steps_perform without .leave, rfl⟩
      obtain ⟨later, steps, rfl⟩ := worked
      obtain ⟨final, more, ended⟩ := inductionHypothesis later.resolver later.stack later.shapes
      exact ⟨final, steps.trans more, ended⟩

theorem terminates (walk : Walk) :
    Acc (fun later earlier => Walk.next earlier = some later) walk := by
  obtain ⟨final, steps, ended⟩ := walk.exists_final
  exact steps.acc ended

/-! ## The stack -/

/-- A stack of different components of a document. -/
structure SoundStack (document : Document) (stack : List String) : Prop where
  once : stack.Nodup
  known : ∀ component ∈ stack, ∃ schema, document.schema? component = some schema

theorem SoundStack.length_le (sound : SoundStack document stack) :
    stack.length ≤ document.schemaNames.toFinset.card := by
  rw [← List.toFinset_card_of_nodup sound.once]
  apply Finset.card_le_card
  intro component member
  obtain ⟨schema, found⟩ := sound.known component (List.mem_toFinset.1 member)
  exact List.mem_toFinset.2 (Document.mem_schemaNames_of_schema? found)

theorem SoundStack.push (sound : SoundStack document stack)
    (found : document.schema? component = some schema) (fresh : component ∉ stack) :
    SoundStack document (component :: stack) where
  once := List.nodup_cons.2 ⟨fresh, sound.once⟩
  known := List.forall_mem_cons.2 ⟨⟨schema, found⟩, sound.known⟩

theorem SoundStack.pop (sound : SoundStack document stack) : SoundStack document stack.tail where
  once := sound.once.tail
  known component member := sound.known component (List.mem_of_mem_tail member)

theorem follow_cases (walk : Walk) (pointer : String) :
    ((walk.follow pointer).stack = walk.stack ∧
      (walk.follow pointer).resolver.document = walk.resolver.document) ∨
    ∃ component target, walk.resolver.document.schema? component = some target ∧
      component ∉ walk.stack ∧ walk.follow pointer = walk.enter component target := by
  by_cases somewhere : ∃ component target, walk.resolver.document.Leads pointer component target
  · obtain ⟨component, target, leads⟩ := somewhere
    by_cases onStack : component ∈ walk.stack
    · rw [follow_of_mem leads onStack]
      exact Or.inl ⟨rfl, (Resolver.afterResolving_extends _ _ _).document⟩
    · exact Or.inr ⟨component, target, leads.2, onStack, follow_of_not_mem leads onStack⟩
  · push Not at somewhere
    rw [follow_of_nowhere somewhere]
    exact Or.inl ⟨rfl, (Resolver.afterResolving_extends _ _ _).document⟩

/-- All that a step can do to the stack: leave it alone, take the innermost component off, or put a
component of the document on it that is not there. -/
theorem next_cases (step : walk.next = some later) :
    later.resolver.document = walk.resolver.document ∧
      (later.stack = walk.stack ∨ later.stack = walk.stack.tail ∨
        ∃ component target, walk.resolver.document.schema? component = some target ∧
          component ∉ walk.stack ∧ later.stack = component :: walk.stack) := by
  obtain ⟨resolver, stack, tasks, shapes⟩ := walk
  cases tasks with
  | nil => cases step
  | cons task rest =>
      rw [next, Option.some.injEq] at step
      subst step
      cases task with
      | leave => exact ⟨rfl, Or.inr (Or.inl rfl)⟩
      | assemble schema => exact ⟨rfl, Or.inl rfl⟩
      | resolve schema =>
          cases schema with
          | reference pointer =>
              rcases follow_cases ⟨resolver, stack, rest, shapes⟩ pointer with
                ⟨sameStack, sameDocument⟩ | ⟨component, target, found, fresh, entered⟩
              · exact ⟨sameDocument, Or.inl sameStack⟩
              · rw [perform, entered]
                exact ⟨rfl, Or.inr (Or.inr ⟨component, target, found, fresh, rfl⟩)⟩
          | _ => exact ⟨rfl, Or.inl rfl⟩

theorem SoundStack.next (sound : SoundStack walk.resolver.document walk.stack)
    (step : walk.next = some later) : SoundStack later.resolver.document later.stack := by
  obtain ⟨sameDocument, same | popped | ⟨component, target, found, fresh, pushed⟩⟩ :=
    next_cases step
  · rw [sameDocument, same]
    exact sound
  · rw [sameDocument, popped]
    exact sound.pop
  · rw [sameDocument, pushed]
    exact sound.push found fresh

end Walk

/-! ## The states that can be reached -/

/-- A resolver of a document between two schemas: some schemas were resolved, some components got
symbols, and some of those that wait were declared. -/
inductive Resolver.Reached (document : Document) (qualifier : String) : Resolver → Prop where
  | initial : Reached document qualifier { document, qualifier }
  | resolve {resolver : Resolver} (schema : Schema) :
      Reached document qualifier resolver → Reached document qualifier (resolver.resolve schema).2
  | withSymbol {resolver : Resolver} (component : String) :
      Reached document qualifier resolver →
      Reached document qualifier (resolver.withSymbol component)
  | declare {resolver : Resolver} {component : String} {schema : Schema} :
      Reached document qualifier resolver → component ∈ resolver.recursive →
      resolver.document.schema? component = some schema →
      Reached document qualifier (resolver.afterDeclaring component schema)

/-- A resolver at work: on a schema of its own or on the schema of a component that waits, and at
any moment any schema may be resolved first. -/
inductive Walk.Reachable (document : Document) (qualifier : String) : Walk → Prop where
  | outside {resolver : Resolver} :
      resolver.Reached document qualifier → Reachable document qualifier { resolver }
  | inside {resolver : Resolver} {component : String} {schema : Schema} :
      resolver.Reached document qualifier → component ∈ resolver.recursive →
      resolver.document.schema? component = some schema →
      Reachable document qualifier { resolver, stack := [component] }
  | todo {walk : Walk} (schema : Schema) :
      Reachable document qualifier walk → Reachable document qualifier (walk.todo (.resolve schema))
  | next {walk later : Walk} :
      Reachable document qualifier walk → walk.next = some later →
      Reachable document qualifier later

section Reached

variable {document : Document} {qualifier : String} {resolver : Resolver} {walk later : Walk}

theorem Resolver.Reached.document_eq (reached : resolver.Reached document qualifier) :
    resolver.document = document := by
  induction reached with
  | initial => rfl
  | resolve schema _ inductionHypothesis =>
      exact (afterResolving_extends _ [] schema).document.trans inductionHypothesis
  | withSymbol component _ inductionHypothesis =>
      exact (withSymbol_extends _ component).document.trans inductionHypothesis
  | declare _ _ _ inductionHypothesis =>
      exact (afterDeclaring_extends _ _ _).document.trans inductionHypothesis

theorem Resolver.Reached.consistent (reached : resolver.Reached document qualifier) :
    resolver.Consistent := by
  induction reached with
  | initial => exact .initial document qualifier
  | resolve schema _ inductionHypothesis => exact inductionHypothesis.afterResolving_nil schema
  | withSymbol component _ inductionHypothesis => exact inductionHypothesis.withSymbol component
  | declare _ _ found inductionHypothesis => exact inductionHypothesis.afterDeclaring found

theorem Walk.Reachable.steps (reachable : walk.Reachable document qualifier)
    (steps : Walk.Steps walk later) : later.Reachable document qualifier := by
  induction steps with
  | refl => exact reachable
  | tail _ step inductionHypothesis => exact inductionHypothesis.next step

theorem Walk.Reachable.soundStack (reachable : walk.Reachable document qualifier) :
    walk.resolver.document = document ∧ SoundStack document walk.stack := by
  induction reachable with
  | outside reached => exact ⟨reached.document_eq, List.nodup_nil, by simp⟩
  | inside reached waits found =>
      refine ⟨reached.document_eq, List.nodup_singleton _, ?_⟩
      rw [reached.document_eq] at found
      simpa using ⟨_, found⟩
  | todo schema _ inductionHypothesis => exact inductionHypothesis
  | next _ step inductionHypothesis =>
      obtain ⟨sameDocument, sound⟩ := inductionHypothesis
      subst sameDocument
      exact ⟨(Walk.next_cases step).1, (Walk.next_cases step).1 ▸ sound.next step⟩

end Reached

/-! ## The declarations -/

/-- The waiting components are declared one after the other, and while that goes on more may come
to wait. -/
structure Worklist where
  resolver : Resolver
  /-- The place of the component that is next. -/
  position : Nat := 0
  declarations : List Declaration := []

namespace Worklist

/-- Declare the next component; none if no more wait. -/
def next (worklist : Worklist) : Option Worklist :=
  match worklist.resolver.recursive[worklist.position]? with
  | none => none
  | some component =>
      match worklist.resolver.document.schema? component with
      | none => some { worklist with position := worklist.position + 1 }
      | some schema =>
          let resolved := Walk.resolved { resolver := worklist.resolver, stack := [component] } schema
          let after := resolved.resolver.withSymbol component
          let declarations := resolved.shapes.map (fun shape =>
            ⟨after.symbolOf component, Resolver.declaredShape shape⟩)
          some ⟨after, worklist.position + 1, worklist.declarations ++ declarations⟩

variable {resolver : Resolver} {component : String} {schema : Schema}

theorem next_of_found {worklist : Worklist}
    (waits : worklist.resolver.recursive[worklist.position]? = some component)
    (found : worklist.resolver.document.schema? component = some schema) :
    let after := worklist.resolver.afterDeclaring component schema
    worklist.next = some ⟨after, worklist.position + 1, worklist.declarations ++
      [⟨after.symbolOf component,
        Resolver.declaredShape (after.shapeOf [component] schema)⟩]⟩ := by
  have sameShape := (Resolver.withSymbol_extends
    (worklist.resolver.afterResolving [component] schema) component).shapeOf_eq
  simp only [next, waits, found, Walk.resolved, Walk.made, List.map_cons, List.map_nil,
    Resolver.afterDeclaring, sameShape]

/-- The bound on the declarations is never met: the list is worked off without it. -/
theorem steps_declarationsFrom {position steps : Nat} (consistent : resolver.Consistent)
    (enough : resolver.document.schemaNames.length ≤ position + steps)
    (earlier : List Declaration) :
    ∃ last, StepsTo next ⟨resolver, position, earlier⟩ last ∧ last.next = none ∧
      last.resolver = (resolver.declarationsFrom position steps).2 ∧
      last.declarations = earlier ++ (resolver.declarationsFrom position steps).1 := by
  have ended : ∀ {resolver : Resolver} {position : Nat} {earlier : List Declaration},
      resolver.recursive.length ≤ position → next ⟨resolver, position, earlier⟩ = none := by
    intro resolver position earlier exhausted
    simp only [next, List.getElem?_eq_none exhausted]
  induction steps generalizing resolver position earlier with
  | zero =>
      refine ⟨_, .refl _, ended (consistent.length_recursive_le.trans enough), rfl, ?_⟩
      rw [Resolver.declarationsFrom, List.append_nil]
  | succ steps inductionHypothesis =>
      rw [Resolver.declarationsFrom]
      split
      · rename_i exhausted
        refine ⟨_, .refl _, ended (List.getElem?_eq_none_iff.1 exhausted), rfl, ?_⟩
        rw [List.append_nil]
      · rename_i component waits
        have cyclic := consistent.cyclic component (List.mem_of_getElem? waits)
        obtain ⟨schema, found⟩ := cyclic.exists_schema
        have step := @next_of_found component schema ⟨resolver, position, earlier⟩ waits found
        have stillEnough : (resolver.afterDeclaring component schema).document.schemaNames.length ≤
            position + 1 + steps := by
          rw [(Resolver.afterDeclaring_extends resolver component schema).document]
          omega
        obtain ⟨last, more, isLast, sameResolver, sameDeclarations⟩ :=
          inductionHypothesis (consistent.afterDeclaring found) stillEnough _
        simp only [found]
        refine ⟨last, (StepsTo.single step).trans more, isLast, sameResolver, ?_⟩
        rw [sameDeclarations, List.append_assoc]
        rfl

theorem steps_declarations (consistent : resolver.Consistent) :
    ∃ last, StepsTo next { resolver } last ∧ last.next = none ∧
      last.resolver = resolver.declarations.2 ∧ last.declarations = resolver.declarations.1 :=
  steps_declarationsFrom consistent (by simp) []

end Worklist

/-- The declarations of a resolver: one for each of some different components of the document. -/
theorem Resolver.Reached.declares {document : Document} {qualifier : String} {resolver : Resolver}
    (reached : resolver.Reached document qualifier) :
    ∃ components : List String, Walk.SoundStack document components ∧
      List.Forall₂ resolver.declarations.2.Declares components resolver.declarations.1 := by
  have completed := declarations_completed reached.consistent
  refine ⟨_, ⟨completed.consistent.once, ?_⟩, completed.declares_all⟩
  intro component waits
  rw [← reached.document_eq, ← completed.later.document]
  exact (completed.consistent.cyclic component waits).exists_schema

/-- Resolving terminates on every document. From every state that can be reached and for every
schema, each row of steps ends, and the steps for the schema give its shape and leave the stack as
they found it; on the way the stack holds different components of the document, so it is never
longer than there are component names. The declarations come to an end too, and there is at most
one for each component. -/
theorem resolution_terminates (document : Document) (qualifier : String) :
    (∀ walk : Walk, walk.Reachable document qualifier → ∀ schema : Schema,
      let begun := walk.todo (.resolve schema)
      let after := walk.resolver.afterResolving walk.stack schema
      Acc (fun later earlier => Walk.next earlier = some later) begun ∧
      Walk.Steps begun
        { walk with resolver := after, shapes := after.shapeOf walk.stack schema :: walk.shapes } ∧
      ∀ meanwhile, Walk.Steps begun meanwhile →
        meanwhile.stack.Nodup ∧
        (∀ component ∈ meanwhile.stack, (document.schema? component).isSome) ∧
        meanwhile.stack.length ≤ document.schemaNames.toFinset.card) ∧
    ∀ resolver : Resolver, resolver.Reached document qualifier →
      Acc (fun later earlier => Worklist.next earlier = some later) { resolver } ∧
      (∃ last, StepsTo Worklist.next { resolver } last ∧ last.next = none ∧
        (last.declarations, last.resolver) = resolver.declarations) ∧
      ∃ components : List String, components.Nodup ∧
        (∀ component ∈ components, (document.schema? component).isSome) ∧
        List.Forall₂ resolver.declarations.2.Declares components resolver.declarations.1 := by
  constructor
  · intro walk reachable schema
    refine ⟨Walk.terminates _, walk.steps_resolve schema, ?_⟩
    intro meanwhile steps
    have sound := ((reachable.todo schema).steps steps).soundStack.2
    refine ⟨sound.once, ?_, sound.length_le⟩
    exact fun component member => Option.isSome_iff_exists.2 (sound.known component member)
  · intro resolver reached
    obtain ⟨last, steps, ended, sameResolver, sameDeclarations⟩ :=
      Worklist.steps_declarations reached.consistent
    obtain ⟨components, different, declares⟩ := reached.declares
    refine ⟨steps.acc ended, ⟨last, steps, ended, ?_⟩, components, different.once, ?_, declares⟩
    · rw [sameResolver, sameDeclarations]
    · exact fun component member => Option.isSome_iff_exists.2 (different.known component member)

end TypedClient
