import Mathlib.Logic.Relation
import TypedClient.Proofs.Reference.Chain
import TypedClient.Proofs.Schema.Components

/-!
Contract: expansion along a trail of components.

Owns:
- the three things that can happen to a pointer on a trail, and the induction over them;
- that the cycles noticed during an expansion are exactly the names the expansion mentions;
- the reference graph of the components, and that only components on its cycles stay names.

Does not own: what an expansion means.
-/

namespace TypedClient

/-- The component at which a notice closes a cycle. -/
def Notice.component? : Notice → Option String
  | .warning _ => none
  | .cycle component => some component

theorem Notice.mem_filterMap_component?_iff {notices : List Notice} {component : String} :
    component ∈ notices.filterMap Notice.component? ↔ .cycle component ∈ notices := by
  rw [List.mem_filterMap]
  constructor
  · rintro ⟨notice, noticed, closes⟩
    cases notice with
    | warning _ => cases closes
    | cycle other =>
        rw [Notice.component?, Option.some.injEq] at closes
        exact closes ▸ noticed
  · intro noticed
    exact ⟨_, noticed, rfl⟩

namespace Document

variable {document : Document} {trail : List String} {pointer name : String}
  {schema target : Schema}

/-! ## Following a pointer -/

theorem expandPointer_of_nowhere (nowhere : ∀ name target, ¬ document.Leads pointer name target) :
    document.expandPointer trail pointer = .unknown := by
  rw [expandPointer]
  split
  · rfl
  · rename_i name named
    split
    · rfl
    · rename_i target found
      exact absurd ⟨named, found⟩ (nowhere name target)

theorem expandPointer_of_mem (leads : document.Leads pointer name target)
    (onTrail : name ∈ trail) : document.expandPointer trail pointer = .named name := by
  rw [expandPointer]
  simp only [leads.1]
  split
  · rename_i missing
    rw [leads.2] at missing
    cases missing
  · rw [dif_pos onTrail]

theorem expandPointer_of_not_mem (leads : document.Leads pointer name target)
    (fresh : name ∉ trail) :
    document.expandPointer trail pointer = document.expand (name :: trail) target := by
  rw [expandPointer, expand]
  simp only [leads.1]
  split
  · rename_i missing
    rw [leads.2] at missing
    cases missing
  · rename_i found
    rw [leads.2, Option.some.injEq] at found
    rw [dif_neg fresh, found]

theorem component?_pointerNotices_of_nowhere
    (nowhere : ∀ name target, ¬ document.Leads pointer name target) :
    (document.pointerNotices trail pointer).filterMap Notice.component? = [] := by
  rw [pointerNotices]
  split
  · rfl
  · rename_i name named
    split
    · rfl
    · rename_i target found
      exact absurd ⟨named, found⟩ (nowhere name target)

theorem pointerNotices_of_mem (leads : document.Leads pointer name target)
    (onTrail : name ∈ trail) : document.pointerNotices trail pointer = [.cycle name] := by
  rw [pointerNotices]
  simp only [leads.1]
  split
  · rename_i missing
    rw [leads.2] at missing
    cases missing
  · rw [dif_pos onTrail]

theorem pointerNotices_of_not_mem (leads : document.Leads pointer name target)
    (fresh : name ∉ trail) :
    document.pointerNotices trail pointer = document.notices (name :: trail) target := by
  rw [pointerNotices, notices]
  simp only [leads.1]
  split
  · rename_i missing
    rw [leads.2] at missing
    cases missing
  · rename_i found
    rw [leads.2, Option.some.injEq] at found
    rw [dif_neg fresh, found]

/-- Induction along a trail: a pointer leads nowhere, back to the trail, or to a component that
extends the trail. Ever fewer components are left. -/
theorem trailInduction (document : Document) {motive : List String → String → Prop}
    (nowhere : ∀ trail pointer, (∀ name target, ¬ document.Leads pointer name target) →
      motive trail pointer)
    (back : ∀ trail pointer name target, document.Leads pointer name target → name ∈ trail →
      motive trail pointer)
    (onward : ∀ trail pointer name target, document.Leads pointer name target → name ∉ trail →
      (∀ next, motive (name :: trail) next) → motive trail pointer)
    (trail : List String) (pointer : String) : motive trail pointer := by
  by_cases somewhere : ∃ name target, document.Leads pointer name target
  · obtain ⟨name, target, leads⟩ := somewhere
    by_cases onTrail : name ∈ trail
    · exact back trail pointer name target leads onTrail
    · exact onward trail pointer name target leads onTrail
        (trailInduction document nowhere back onward (name :: trail))
  · push Not at somewhere
    exact nowhere trail pointer somewhere
termination_by (document.untrodden trail).length
decreasing_by exact length_untrodden_lt leads.2 onTrail

/-! ## Cycles -/

/-- The cycles noticed while a pointer is followed are the names in its expansion, in order. -/
theorem component?_pointerNotices (trail : List String) (pointer : String) :
    (document.pointerNotices trail pointer).filterMap Notice.component? =
      (document.expandPointer trail pointer).symbols := by
  induction trail, pointer using document.trailInduction with
  | nowhere trail pointer nowhere =>
      rw [component?_pointerNotices_of_nowhere nowhere, expandPointer_of_nowhere nowhere]
      rfl
  | back trail pointer name target leads onTrail =>
      rw [pointerNotices_of_mem leads onTrail, expandPointer_of_mem leads onTrail]
      rfl
  | onward trail pointer name target leads fresh inductionHypothesis =>
      rw [pointerNotices_of_not_mem leads fresh, expandPointer_of_not_mem leads fresh, notices,
        expand, Schema.symbols_expandWith, List.filterMap_flatMap]
      exact List.flatMap_congr (fun next _ => inductionHypothesis next)

theorem component?_notices (trail : List String) (schema : Schema) :
    (document.notices trail schema).filterMap Notice.component? =
      (document.expand trail schema).symbols := by
  rw [notices, expand, Schema.symbols_expandWith, List.filterMap_flatMap]
  exact List.flatMap_congr (fun pointer _ => component?_pointerNotices trail pointer)

theorem cycle_mem_notices_iff {component : String} :
    Notice.cycle component ∈ document.notices trail schema ↔
      component ∈ (document.expand trail schema).symbols := by
  rw [← component?_notices, Notice.mem_filterMap_component?_iff]

/-! ## The reference graph -/

/-- A schema mentions a component: one of its pointers leads to it. -/
def Mentions (document : Document) (schema : Schema) (name : String) : Prop :=
  ∃ pointer ∈ schema.pointers, ∃ target, document.Leads pointer name target

/-- A component refers to another one: its schema mentions it. -/
def Refers (document : Document) (component other : String) : Prop :=
  ∃ schema, document.schema? component = some schema ∧ document.Mentions schema other

/-- A component can be reached from a schema through references. -/
def Reaches (document : Document) (schema : Schema) (component : String) : Prop :=
  ∃ first, document.Mentions schema first ∧ Relation.ReflTransGen document.Refers first component

/-- A component lies on a cycle of references. -/
def Cyclic (document : Document) (component : String) : Prop :=
  Relation.TransGen document.Refers component component

theorem Cyclic.exists_schema {component : String} (cyclic : document.Cyclic component) :
    ∃ schema, document.schema? component = some schema := by
  obtain ⟨_, ⟨schema, found, _⟩, _⟩ := Relation.TransGen.head'_iff.1 cyclic
  exact ⟨schema, found⟩

theorem cyclic_of_reaches {component : String} (found : document.schema? component = some schema)
    (reaches : document.Reaches schema component) : document.Cyclic component := by
  obtain ⟨first, mentions, path⟩ := reaches
  exact Relation.TransGen.head' ⟨schema, found, mentions⟩ path

/-- A name in the expansion of a pointer lies on a cycle, or it is on the trail and can be reached
from where the pointer leads. -/
theorem cyclic_or_mem_of_mem_expandPointer {component : String} (trail : List String)
    (pointer : String) (mentioned : component ∈ (document.expandPointer trail pointer).symbols) :
    document.Cyclic component ∨ component ∈ trail ∧
      ∃ first target, document.Leads pointer first target ∧
        Relation.ReflTransGen document.Refers first component := by
  induction trail, pointer using document.trailInduction with
  | nowhere trail pointer nowhere =>
      rw [expandPointer_of_nowhere nowhere] at mentioned
      cases mentioned
  | back trail pointer name target leads onTrail =>
      rw [expandPointer_of_mem leads onTrail] at mentioned
      simp only [Shape.symbols, List.mem_singleton] at mentioned
      subst mentioned
      exact Or.inr ⟨onTrail, component, target, leads, .refl⟩
  | onward trail pointer name target leads fresh inductionHypothesis =>
      rw [expandPointer_of_not_mem leads fresh, expand, Schema.symbols_expandWith] at mentioned
      obtain ⟨next, isPointer, inNext⟩ := List.mem_flatMap.1 mentioned
      rcases inductionHypothesis next inNext with
        cyclic | ⟨onTrail, first, firstTarget, nextLeads, path⟩
      · exact Or.inl cyclic
      · have step : document.Refers name first :=
          ⟨target, leads.2, next, isPointer, firstTarget, nextLeads⟩
        rcases List.mem_cons.1 onTrail with isName | earlier
        · subst isName
          exact Or.inl (Relation.TransGen.head' step path)
        · exact Or.inr ⟨earlier, name, target, leads, .head step path⟩

/-- A name in the expansion of a schema lies on a cycle, or it is on the trail and can be reached
from the schema. -/
theorem cyclic_or_mem_of_mem_expand {component : String}
    (mentioned : component ∈ (document.expand trail schema).symbols) :
    document.Cyclic component ∨ component ∈ trail ∧ document.Reaches schema component := by
  rw [expand, Schema.symbols_expandWith] at mentioned
  obtain ⟨pointer, isPointer, inExpansion⟩ := List.mem_flatMap.1 mentioned
  rcases cyclic_or_mem_of_mem_expandPointer trail pointer inExpansion with
    cyclic | ⟨onTrail, first, target, leads, path⟩
  · exact Or.inl cyclic
  · exact Or.inr ⟨onTrail, first, ⟨pointer, isPointer, target, leads⟩, path⟩

/-- Only components on cycles stay names in the expansion of a schema. -/
theorem cyclic_of_mem_expand_nil {component : String}
    (mentioned : component ∈ (document.expand [] schema).symbols) : document.Cyclic component := by
  rcases cyclic_or_mem_of_mem_expand mentioned with cyclic | ⟨onTrail, _⟩
  · exact cyclic
  · cases onTrail

theorem cyclic_of_mem_expand_self {component other : String}
    (found : document.schema? component = some schema)
    (mentioned : other ∈ (document.expand [component] schema).symbols) :
    document.Cyclic other := by
  rcases cyclic_or_mem_of_mem_expand mentioned with cyclic | ⟨onTrail, reaches⟩
  · exact cyclic
  · rw [List.mem_singleton] at onTrail
    subst onTrail
    exact cyclic_of_reaches found reaches

end Document

end TypedClient
