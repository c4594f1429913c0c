import TypedClient.Proofs.Reference.Trail
import TypedClient.Proofs.Schema.Exposed

/-!
Contract: which names an expansion shows, and the paths of references that lead to them.

Owns:
- `Visibility`, a choice of names in shapes and of pointers in schemas that expansion respects: all
  of them, or those below no array and no object;
- that a visible name can be reached through visible references, and that a component on a cycle of
  visible references is visible in its own expansion;
- that whatever can be reached from a schema is expanded somewhere inside it.

Does not own: declarations.
-/

namespace TypedClient

open Relation (ReflTransGen TransGen)

/-- A path can be cut so that it does not come back to its start. -/
theorem eq_or_exists_of_path {α : Type} {step : α → α → Prop} {start goal : α}
    (path : ReflTransGen step start goal) :
    start = goal ∨ ∃ next, step start next ∧ next ≠ start ∧
      ReflTransGen (fun before after => step before after ∧ after ≠ start) next goal := by
  induction path with
  | refl => exact Or.inl rfl
  | @tail middle goal _ last inductionHypothesis =>
      by_cases back : goal = start
      · exact Or.inl back.symm
      · rcases inductionHypothesis with rfl | ⟨next, first, away, path⟩
        · exact Or.inr ⟨goal, last, back, .refl⟩
        · exact Or.inr ⟨next, first, away, path.tail ⟨last, back⟩⟩

/-- Which names of a shape and which pointers of a schema are visible. An expansion shows the names
that the expansions of the visible pointers show. -/
structure Visibility where
  names : Shape → List String
  pointers : Schema → List String
  names_named : ∀ symbol, names (.named symbol) = [symbol]
  names_unknown : names .unknown = []
  names_expandWith : ∀ follow schema, names (schema.expandWith follow) =
    (pointers schema).flatMap (fun pointer => names (follow pointer))

namespace Visibility

/-- All names and all pointers are visible. -/
def everywhere : Visibility where
  names := Shape.symbols
  pointers := Schema.pointers
  names_named _ := rfl
  names_unknown := rfl
  names_expandWith := Schema.symbols_expandWith

/-- The names and pointers below no array and no object are visible. -/
def exposed : Visibility where
  names := Shape.exposed
  pointers := Schema.exposedPointers
  names_named _ := rfl
  names_unknown := rfl
  names_expandWith := Schema.exposed_expandWith

/-- A component shows another one: a visible pointer of its schema leads to it. -/
def Shows (visibility : Visibility) (document : Document) (component other : String) : Prop :=
  ∃ schema, document.schema? component = some schema ∧
    ∃ pointer ∈ visibility.pointers schema, ∃ target, document.Leads pointer other target

variable {visibility : Visibility} {document : Document} {trail : List String}
  {pointer name component goal : String} {schema target : Schema}

/-- Every visible name can be reached from where the pointer leads. -/
theorem exists_path_of_mem_expandPointer (trail : List String) (pointer : String)
    (visible : component ∈ visibility.names (document.expandPointer trail pointer)) :
    ∃ first target, document.Leads pointer first target ∧
      ReflTransGen (visibility.Shows document) first component := by
  induction trail, pointer using document.trailInduction with
  | nowhere trail pointer nowhere =>
      rw [Document.expandPointer_of_nowhere nowhere, visibility.names_unknown] at visible
      cases visible
  | back trail pointer name target leads onTrail =>
      rw [Document.expandPointer_of_mem leads onTrail, visibility.names_named,
        List.mem_singleton] at visible
      subst visible
      exact ⟨component, target, leads, .refl⟩
  | onward trail pointer name target leads fresh inductionHypothesis =>
      rw [Document.expandPointer_of_not_mem leads fresh, Document.expand,
        visibility.names_expandWith] at visible
      obtain ⟨next, isPointer, inNext⟩ := List.mem_flatMap.1 visible
      obtain ⟨first, firstTarget, nextLeads, path⟩ := inductionHypothesis next inNext
      exact ⟨name, target, leads,
        .head ⟨target, leads.2, next, isPointer, firstTarget, nextLeads⟩ path⟩

/-- A name that the expansion of the schema of a component shows can be reached from it. -/
theorem transGen_of_mem_expand (trail : List String)
    (found : document.schema? name = some schema)
    (visible : component ∈ visibility.names (document.expand trail schema)) :
    TransGen (visibility.Shows document) name component := by
  rw [Document.expand, visibility.names_expandWith] at visible
  obtain ⟨pointer, isPointer, inExpansion⟩ := List.mem_flatMap.1 visible
  obtain ⟨first, target, leads, path⟩ := exists_path_of_mem_expandPointer trail pointer inExpansion
  exact .head' ⟨schema, found, pointer, isPointer, target, leads⟩ path

/-- A path of visible references to a component of the trail makes it visible, if the path meets the
trail nowhere else. -/
theorem mem_expandPointer_of_path (trail : List String) (pointer : String)
    (leads : document.Leads pointer name target) (goalOnTrail : goal ∈ trail)
    (apart : name ∈ trail → name = goal)
    (path : ReflTransGen (fun before after => visibility.Shows document before after ∧
      (after ∈ trail → after = goal)) name goal) :
    goal ∈ visibility.names (document.expandPointer trail pointer) := by
  induction trail, pointer using document.trailInduction generalizing name target with
  | nowhere trail pointer nowhere => exact absurd leads (nowhere name target)
  | back trail pointer other otherTarget otherLeads onTrail =>
      obtain ⟨rfl, rfl⟩ := leads.unique otherLeads
      rw [Document.expandPointer_of_mem leads onTrail, apart onTrail, visibility.names_named]
      exact List.mem_singleton_self goal
  | onward trail pointer other otherTarget otherLeads fresh inductionHypothesis =>
      obtain ⟨rfl, rfl⟩ := leads.unique otherLeads
      rcases eq_or_exists_of_path path with rfl | ⟨next, ⟨shows, nextApart⟩, away, rest⟩
      · exact absurd goalOnTrail fresh
      · obtain ⟨schema, found, further, isPointer, nextTarget, nextLeads⟩ := shows
        rw [leads.2, Option.some.injEq] at found
        subst found
        rw [Document.expandPointer_of_not_mem leads fresh, Document.expand,
          visibility.names_expandWith]
        refine List.mem_flatMap_of_mem isPointer
          (inductionHypothesis further nextLeads (List.mem_cons_of_mem _ goalOnTrail) ?_ ?_)
        · intro onTrail
          exact nextApart ((List.mem_cons.1 onTrail).resolve_left away)
        · refine ReflTransGen.mono (fun before after step => ⟨step.1.1, fun onTrail => ?_⟩) _ _ rest
          exact step.1.2 ((List.mem_cons.1 onTrail).resolve_left step.2)

/-- A component on a cycle of visible references is visible in its own expansion. -/
theorem mem_expand_of_cycle (found : document.schema? component = some schema)
    (cycle : TransGen (visibility.Shows document) component component) :
    component ∈ visibility.names (document.expand [component] schema) := by
  obtain ⟨next, ⟨own, foundOwn, pointer, isPointer, target, leads⟩, path⟩ :=
    TransGen.head'_iff.1 cycle
  rw [found, Option.some.injEq] at foundOwn
  subst foundOwn
  rw [Document.expand, visibility.names_expandWith]
  refine List.mem_flatMap_of_mem isPointer
    (mem_expandPointer_of_path [component] pointer leads (List.mem_singleton_self _)
      List.mem_singleton.1 ?_)
  exact ReflTransGen.mono (fun _ _ shows => ⟨shows, List.mem_singleton.1⟩) _ _ path

/-- On the way back to a component of the trail some component becomes visible. -/
theorem exists_mem_expandPointer_of_path (trail : List String) (pointer : String)
    (leads : document.Leads pointer name target) (goalOnTrail : goal ∈ trail)
    (path : ReflTransGen (visibility.Shows document) name goal) :
    ∃ component ∈ visibility.names (document.expandPointer trail pointer),
      ReflTransGen (visibility.Shows document) name component ∧
        ReflTransGen (visibility.Shows document) component goal := by
  induction trail, pointer using document.trailInduction generalizing name target with
  | nowhere trail pointer nowhere => exact absurd leads (nowhere name target)
  | back trail pointer other otherTarget otherLeads onTrail =>
      obtain ⟨rfl, rfl⟩ := leads.unique otherLeads
      rw [Document.expandPointer_of_mem leads onTrail, visibility.names_named]
      exact ⟨name, List.mem_singleton_self name, .refl, path⟩
  | onward trail pointer other otherTarget otherLeads fresh inductionHypothesis =>
      obtain ⟨rfl, rfl⟩ := leads.unique otherLeads
      rcases ReflTransGen.cases_head path with rfl | ⟨next, shows, rest⟩
      · exact absurd goalOnTrail fresh
      · obtain ⟨schema, found, further, isPointer, nextTarget, nextLeads⟩ := id shows
        rw [leads.2, Option.some.injEq] at found
        subst found
        obtain ⟨component, visible, there, back⟩ :=
          inductionHypothesis further nextLeads (List.mem_cons_of_mem _ goalOnTrail) rest
        rw [Document.expandPointer_of_not_mem leads fresh, Document.expand,
          visibility.names_expandWith]
        exact ⟨component, List.mem_flatMap_of_mem isPointer visible, .head shows there, back⟩

end Visibility

namespace Document

variable {document : Document} {trail : List String} {pointer name component : String}
  {schema target : Schema}

/-- A component that can be reached from where a pointer leads, not through the trail, is expanded
inside the expansion of the pointer. -/
theorem exists_expand_of_path (trail : List String) (pointer : String)
    (leads : document.Leads pointer name target) (fresh : name ∉ trail)
    (path : ReflTransGen (fun before after => document.Refers before after ∧ after ∉ trail)
      name component) :
    ∃ further schema, document.schema? component = some schema ∧ component ∈ further ∧
      (document.expand further schema).symbols ⊆ (document.expandPointer trail pointer).symbols := by
  induction trail, pointer using document.trailInduction generalizing name target with
  | nowhere trail pointer nowhere => exact absurd leads (nowhere name target)
  | back trail pointer other otherTarget otherLeads onTrail =>
      obtain ⟨rfl, rfl⟩ := leads.unique otherLeads
      exact absurd onTrail fresh
  | onward trail pointer other otherTarget otherLeads _ inductionHypothesis =>
      obtain ⟨rfl, rfl⟩ := leads.unique otherLeads
      rw [expandPointer_of_not_mem leads fresh]
      rcases eq_or_exists_of_path path with rfl | ⟨next, ⟨refers, nextFresh⟩, away, rest⟩
      · exact ⟨name :: trail, target, leads.2, List.mem_cons_self, List.Subset.refl _⟩
      · obtain ⟨own, found, further, isPointer, nextTarget, nextLeads⟩ := refers
        rw [leads.2, Option.some.injEq] at found
        subst found
        obtain ⟨longer, schema, found, onTrail, within⟩ := inductionHypothesis further nextLeads
          (List.not_mem_cons_of_ne_of_not_mem away nextFresh)
          (ReflTransGen.mono (fun before after step =>
            ⟨step.1.1, List.not_mem_cons_of_ne_of_not_mem step.2 step.1.2⟩) _ _ rest)
        refine ⟨longer, schema, found, onTrail, List.Subset.trans within ?_⟩
        rw [expand, Schema.symbols_expandWith]
        exact fun symbol mentioned => List.mem_flatMap_of_mem isPointer mentioned

/-- A component that can be reached from a schema is expanded inside the expansion of the schema. -/
theorem exists_expand_of_reaches (reaches : document.Reaches schema component) :
    ∃ further target, document.schema? component = some target ∧ component ∈ further ∧
      (document.expand further target).symbols ⊆ (document.expand [] schema).symbols := by
  obtain ⟨first, ⟨pointer, isPointer, target, leads⟩, path⟩ := reaches
  obtain ⟨further, own, found, onTrail, within⟩ := exists_expand_of_path [] pointer leads
    List.not_mem_nil (ReflTransGen.mono (fun _ _ refers => ⟨refers, List.not_mem_nil⟩) _ _ path)
  refine ⟨further, own, found, onTrail, List.Subset.trans within ?_⟩
  rw [expand, Schema.symbols_expandWith]
  exact fun symbol mentioned => List.mem_flatMap_of_mem isPointer mentioned

/-- Every name in the expansion of a schema can be reached from it. -/
theorem reaches_of_mem_symbols (mentioned : component ∈ (document.expand trail schema).symbols) :
    document.Reaches schema component := by
  rw [expand, Schema.symbols_expandWith] at mentioned
  obtain ⟨pointer, isPointer, inExpansion⟩ := List.mem_flatMap.1 mentioned
  have visible : component ∈ Visibility.everywhere.names (document.expandPointer trail pointer) :=
    inExpansion
  obtain ⟨first, target, leads, path⟩ :=
    Visibility.exists_path_of_mem_expandPointer trail pointer visible
  exact ⟨first, ⟨pointer, isPointer, target, leads⟩, path⟩

end Document

end TypedClient
