import Mathlib.Logic.Relation
import TypedClient.Proofs.Reference.Symbols
import TypedClient.Proofs.Schema.Parts

/-!
Contract: resolving schemas step by step, with a stack of components.

Owns:
- `Walk`, a resolver at work: the components it is inside of, what is left to do, and the shapes
  made so far;
- `Walk.next`, one step, which takes any state to the next one and promises nothing about the end;
- that the steps for a schema lead to the shape and the resolver that resolving it gives, and leave
  the stack as they found it.

Does not own: which states can be reached.
-/

namespace TypedClient

/-- Any number of steps. -/
def StepsTo {α : Type} (next : α → Option α) : α → α → Prop :=
  Relation.ReflTransGen (fun state later => next state = some later)

section StepsTo

variable {α : Type} {next : α → Option α} {first second third : α}

theorem StepsTo.refl (state : α) : StepsTo next state state := Relation.ReflTransGen.refl

theorem StepsTo.single (step : next first = some second) : StepsTo next first second :=
  Relation.ReflTransGen.single step

theorem StepsTo.trans (before : StepsTo next first second) (after : StepsTo next second third) :
    StepsTo next first third :=
  Relation.ReflTransGen.trans before after

/-- What comes to an end takes no endless row of steps: each state has one next state at most. -/
theorem StepsTo.acc (steps : StepsTo next first second) (ended : next second = none) :
    Acc (fun later earlier => next earlier = some later) first := by
  induction steps using Relation.ReflTransGen.head_induction_on with
  | refl =>
      refine ⟨_, fun later step => ?_⟩
      rw [ended] at step
      cases step
  | head step _ inductionHypothesis =>
      refine ⟨_, fun later another => ?_⟩
      rw [step, Option.some.injEq] at another
      exact another ▸ inductionHypothesis

end StepsTo

inductive Task where
  | resolve (schema : Schema)
  /-- Put the shapes of the parts of a schema together. -/
  | assemble (schema : Schema)
  /-- Take the innermost component off the stack. -/
  | leave

structure Walk where
  resolver : Resolver
  /-- The components that are being resolved, the innermost first. -/
  stack : List String := []
  tasks : List Task := []
  /-- The shapes made so far, the latest first. -/
  shapes : List Shape := []

namespace Walk

def todo (walk : Walk) (task : Task) : Walk := { walk with tasks := task :: walk.tasks }

def made (walk : Walk) (shape : Shape) : Walk := { walk with shapes := shape :: walk.shapes }

def noticing (walk : Walk) (notice : Notice) : Walk :=
  { walk with resolver := walk.resolver.absorb notice }

/-- Go into a component: resolve its schema, then come back. -/
def enter (walk : Walk) (component : String) (target : Schema) : Walk :=
  ({ walk with stack := component :: walk.stack }.todo .leave).todo (.resolve target)

/-- What a pointer leads to is gone into, unless that is being resolved already. -/
def follow (walk : Walk) (pointer : String) : Walk :=
  match Pointer.target? Pointer.schemaPlaces pointer with
  | none => (walk.noticing (.warning (.foreignSchemaReference pointer))).made .unknown
  | some component =>
      match walk.resolver.document.schema? component with
      | none => (walk.noticing (.warning (.missingSchema pointer))).made .unknown
      | some target =>
          if component ∈ walk.stack then
            let named := walk.noticing (.cycle component)
            named.made (.named (named.resolver.symbolOf component))
          else walk.enter component target

def perform (walk : Walk) : Task → Walk
  | .resolve (.reference pointer) => walk.follow pointer
  | .resolve schema =>
      { walk with tasks := schema.parts.map .resolve ++ .assemble schema :: walk.tasks }
  | .assemble schema =>
      let count := schema.parts.length
      { walk with shapes := walk.shapes.drop count }.made
        (schema.assembled (walk.shapes.take count).reverse)
  | .leave => { walk with stack := walk.stack.tail }

/-- One step; none if nothing is left to do. -/
def next (walk : Walk) : Option Walk :=
  match walk.tasks with
  | [] => none
  | task :: rest => some ({ walk with tasks := rest }.perform task)

abbrev Steps : Walk → Walk → Prop := StepsTo next

theorem next_todo (walk : Walk) (task : Task) :
    (walk.todo task).next = some (walk.perform task) := rfl

theorem steps_perform (walk : Walk) (task : Task) : Steps (walk.todo task) (walk.perform task) :=
  .single (walk.next_todo task)

end Walk

/-! ## The symbols of the shapes made so far -/

namespace Resolver

variable {resolver later : Resolver} {trail : List String} {schema : Schema} {component : String}

theorem mem_keys_absorb_cycle (resolver : Resolver) (component : String) :
    component ∈ (resolver.absorb (.cycle component)).symbols.keys := by
  have named := mem_keys_withSymbol resolver component
  simp only [absorb]
  split
  · exact named
  · exact named

theorem mem_keys_absorbAll {notices : List Notice} (noticed : .cycle component ∈ notices) :
    component ∈ (resolver.absorbAll notices).symbols.keys := by
  induction notices generalizing resolver with
  | nil => exact absurd noticed List.not_mem_nil
  | cons notice rest inductionHypothesis =>
      rcases List.mem_cons.1 noticed with rfl | inRest
      · exact (absorbAll_extends _ rest).mem_keys (mem_keys_absorb_cycle resolver component)
      · exact inductionHypothesis inRest

/-- Whatever is resolved later, a shape keeps the symbols in it. -/
theorem Extends.shapeOf_eq (extended : (resolver.afterResolving trail schema).Extends later) :
    later.shapeOf trail schema = (resolver.afterResolving trail schema).shapeOf trail schema := by
  rw [shapeOf, shapeOf, extended.document]
  apply Shape.rename_congr
  intro component mentioned
  rw [(afterResolving_extends resolver trail schema).document] at mentioned
  exact extended.symbolOf_eq (mem_keys_absorbAll (Document.cycle_mem_notices_iff.2 mentioned))

theorem shapeOf_eq_assembled (plain : schema.isReference = false) :
    resolver.shapeOf trail schema =
      schema.assembled (schema.parts.map (resolver.shapeOf trail)) := by
  rw [shapeOf, Document.expand, Schema.expandWith_eq_assembled plain, Schema.rename_assembled,
    List.map_map]
  rfl

theorem afterResolving_of_parts (plain : schema.isReference = false) :
    resolver.afterResolving trail schema =
      resolver.absorbAll (schema.parts.flatMap (resolver.document.notices trail)) := by
  rw [afterResolving, Document.notices, Schema.pointers_eq_flatMap_parts plain, List.flatMap_assoc]
  rfl

end Resolver

namespace Walk

variable {walk : Walk} {pointer component : String} {schema target : Schema}

/-- The state when a schema is resolved. -/
def resolved (walk : Walk) (schema : Schema) : Walk :=
  let after := walk.resolver.afterResolving walk.stack schema
  { walk with resolver := after }.made (after.shapeOf walk.stack schema)

/-- The state when some schemas are resolved, one after the other. -/
def resolvedAll (walk : Walk) (schemas : List Schema) : Walk :=
  let after := walk.resolver.absorbAll
    (schemas.flatMap (walk.resolver.document.notices walk.stack))
  { walk with
    resolver := after
    shapes := (schemas.map (after.shapeOf walk.stack)).reverse ++ walk.shapes }

theorem resolvedAll_cons (walk : Walk) (first : Schema) (rest : List Schema) :
    (walk.resolved first).resolvedAll rest = walk.resolvedAll (first :: rest) := by
  have extended := Resolver.afterResolving_extends walk.resolver walk.stack first
  have sameShape : ∀ notices : List Notice,
      ((walk.resolver.afterResolving walk.stack first).absorbAll notices).shapeOf walk.stack first =
        (walk.resolver.afterResolving walk.stack first).shapeOf walk.stack first :=
    fun notices => (Resolver.absorbAll_extends _ notices).shapeOf_eq
  have sameResolver : (walk.resolver.afterResolving walk.stack first).absorbAll
      (rest.flatMap (walk.resolver.document.notices walk.stack)) =
        walk.resolver.absorbAll
          ((first :: rest).flatMap (walk.resolver.document.notices walk.stack)) := by
    rw [List.flatMap_cons, Resolver.absorbAll, Resolver.absorbAll, List.foldl_append]
    rfl
  have sameDocument : (walk.resolved first).resolver.document = walk.resolver.document :=
    extended.document
  rw [resolvedAll, resolvedAll, sameDocument, ← sameResolver, List.map_cons, List.reverse_cons,
    sameShape, List.append_assoc, List.singleton_append]
  rfl

/-! ## Following a pointer -/

theorem resolved_reference {notice : Notice} {shape : Shape}
    (noticed : walk.resolver.document.pointerNotices walk.stack pointer = [notice])
    (expanded : walk.resolver.document.expandPointer walk.stack pointer = shape) :
    walk.resolved (.reference pointer) =
      (walk.noticing notice).made (shape.rename (walk.noticing notice).resolver.symbolOf) := by
  have after : walk.resolver.afterResolving walk.stack (.reference pointer) =
      walk.resolver.absorb notice := by
    rw [Resolver.afterResolving, Document.notices, Schema.pointers, List.flatMap_singleton, noticed]
    rfl
  rw [resolved, after, Resolver.shapeOf, (Resolver.absorb_extends _ notice).document,
    Document.expand, Schema.expandWith, expanded]
  rfl

theorem follow_of_nowhere
    (nowhere : ∀ name target, ¬ walk.resolver.document.Leads pointer name target) :
    walk.follow pointer = walk.resolved (.reference pointer) := by
  have expanded : walk.resolver.document.expandPointer walk.stack pointer = .unknown :=
    Document.expandPointer_of_nowhere nowhere
  cases named : Pointer.target? Pointer.schemaPlaces pointer with
  | none =>
      have noticed : walk.resolver.document.pointerNotices walk.stack pointer =
          [.warning (.foreignSchemaReference pointer)] := by
        rw [Document.pointerNotices]
        simp only [named]
      rw [resolved_reference noticed expanded, follow]
      simp only [named]
      rfl
  | some component =>
      have missing : walk.resolver.document.schema? component = none := by
        rw [Option.eq_none_iff_forall_ne_some]
        exact fun target found => nowhere component target ⟨named, found⟩
      have noticed : walk.resolver.document.pointerNotices walk.stack pointer =
          [.warning (.missingSchema pointer)] := by
        rw [Document.pointerNotices]
        simp only [named]
        split
        · rfl
        · rename_i target found
          exact absurd ⟨named, found⟩ (nowhere component target)
      rw [resolved_reference noticed expanded, follow]
      simp only [named, missing]
      rfl

theorem follow_of_mem (leads : walk.resolver.document.Leads pointer component target)
    (onStack : component ∈ walk.stack) :
    walk.follow pointer = walk.resolved (.reference pointer) := by
  rw [resolved_reference (Document.pointerNotices_of_mem leads onStack)
    (Document.expandPointer_of_mem leads onStack), follow]
  simp only [leads.1, leads.2]
  rw [if_pos onStack]
  rfl

theorem follow_of_not_mem (leads : walk.resolver.document.Leads pointer component target)
    (fresh : component ∉ walk.stack) :
    walk.follow pointer = walk.enter component target := by
  rw [follow]
  simp only [leads.1, leads.2]
  rw [if_neg fresh]

/-- Inside of a component its schema is resolved as a pointer to it is from outside. -/
theorem leave_resolved (leads : walk.resolver.document.Leads pointer component target)
    (fresh : component ∉ walk.stack) :
    ({ walk with stack := component :: walk.stack }.resolved target).perform .leave =
      walk.resolved (.reference pointer) := by
  have sameResolver : walk.resolver.afterResolving walk.stack (.reference pointer) =
      walk.resolver.afterResolving (component :: walk.stack) target := by
    rw [Resolver.afterResolving, Document.notices, Schema.pointers, List.flatMap_singleton,
      Document.pointerNotices_of_not_mem leads fresh]
    rfl
  have sameShape : walk.resolver.document.expand walk.stack (.reference pointer) =
      walk.resolver.document.expand (component :: walk.stack) target :=
    Document.expandPointer_of_not_mem leads fresh
  have sameDocument :=
    (Resolver.afterResolving_extends walk.resolver (component :: walk.stack) target).document
  rw [resolved, resolved, perform, sameResolver, Resolver.shapeOf, Resolver.shapeOf, sameDocument,
    sameShape]
  rfl

/-! ## Resolving a schema -/

/-- Schemas of which each is resolved by steps are so one after the other. -/
theorem steps_all {document : Document} {stack : List String} {schemas : List Schema}
    (ofEach : ∀ schema ∈ schemas, ∀ walk : Walk, walk.resolver.document = document →
      walk.stack = stack → Steps (walk.todo (.resolve schema)) (walk.resolved schema))
    (walk : Walk) (sameDocument : walk.resolver.document = document)
    (sameStack : walk.stack = stack) :
    Steps { walk with tasks := schemas.map .resolve ++ walk.tasks } (walk.resolvedAll schemas) := by
  induction schemas generalizing walk with
  | nil => exact .refl walk
  | cons first rest inductionHypothesis =>
      rw [List.forall_mem_cons] at ofEach
      let others : Walk := { walk with tasks := rest.map .resolve ++ walk.tasks }
      have ofFirst : Steps (others.todo (.resolve first)) (others.resolved first) :=
        ofEach.1 others sameDocument sameStack
      have extended := Resolver.afterResolving_extends walk.resolver walk.stack first
      have ofRest := inductionHypothesis ofEach.2 (walk.resolved first)
        (extended.document.trans sameDocument) sameStack
      rw [← resolvedAll_cons]
      exact ofFirst.trans ofRest

theorem assemble_resolvedAll (plain : schema.isReference = false) :
    (walk.resolvedAll schema.parts).perform (.assemble schema) = walk.resolved schema := by
  have sameResolver : walk.resolver.afterResolving walk.stack schema = _ :=
    Resolver.afterResolving_of_parts plain
  have count : (schema.parts.map ((walk.resolver.afterResolving walk.stack schema).shapeOf
      walk.stack)).reverse.length = schema.parts.length := by simp
  rw [resolvedAll, perform, resolved, Resolver.shapeOf_eq_assembled plain, ← sameResolver]
  simp only [List.take_left' count, List.drop_left' count, List.reverse_reverse]

theorem steps_of_pointers {document : Document} {stack : List String}
    (ofPointers : ∀ (pointer : String) (walk : Walk), walk.resolver.document = document →
      walk.stack = stack →
      Steps (walk.todo (.resolve (.reference pointer))) (walk.resolved (.reference pointer)))
    (schema : Schema) : ∀ walk : Walk, walk.resolver.document = document → walk.stack = stack →
      Steps (walk.todo (.resolve schema)) (walk.resolved schema) := by
  induction schema using Schema.partInduction with
  | reference pointer => exact ofPointers pointer
  | whole schema plain ofParts =>
      intro walk sameDocument sameStack
      have begun : walk.perform (.resolve schema) =
          { walk.todo (.assemble schema) with
            tasks := schema.parts.map .resolve ++ (walk.todo (.assemble schema)).tasks } := by
        cases schema with
        | reference pointer => cases plain
        | _ => rfl
      have ofAll := steps_all ofParts (walk.todo (.assemble schema)) sameDocument sameStack
      rw [← begun] at ofAll
      have finished : Steps ((walk.todo (.assemble schema)).resolvedAll schema.parts)
          (walk.resolved schema) := by
        rw [← assemble_resolvedAll plain]
        exact steps_perform (walk.resolvedAll schema.parts) _
      exact ((steps_perform walk _).trans ofAll).trans finished

/-- The steps for a schema end, with the shape and the resolver that resolving it gives; the stack
and whatever else is left to do are as they were. -/
theorem steps_resolve (walk : Walk) (schema : Schema) :
    Steps (walk.todo (.resolve schema)) (walk.resolved schema) := by
  have ofPointers : ∀ (trail : List String) (pointer : String) (other : Walk),
      other.resolver.document = walk.resolver.document → other.stack = trail →
      Steps (other.todo (.resolve (.reference pointer)))
        (other.resolved (.reference pointer)) := by
    intro trail pointer
    induction trail, pointer using walk.resolver.document.trailInduction with
    | nowhere trail pointer nowhere =>
        intro other sameDocument sameStack
        rw [← sameDocument] at nowhere
        rw [← follow_of_nowhere nowhere]
        exact steps_perform other _
    | back trail pointer name target leads onTrail =>
        intro other sameDocument sameStack
        rw [← sameDocument] at leads
        rw [← follow_of_mem leads (sameStack ▸ onTrail)]
        exact steps_perform other _
    | onward trail pointer name target leads fresh inductionHypothesis =>
        intro other sameDocument sameStack
        let inside : Walk := { other with stack := name :: other.stack }.todo .leave
        have ofTarget : Steps (inside.todo (.resolve target)) (inside.resolved target) :=
          steps_of_pointers inductionHypothesis target inside sameDocument
            (congrArg (name :: ·) sameStack)
        rw [← sameDocument] at leads
        rw [← sameStack] at fresh
        have entered : Steps (other.todo (.resolve (.reference pointer)))
            (inside.todo (.resolve target)) := by
          have first := steps_perform other (.resolve (.reference pointer))
          rw [perform, follow_of_not_mem leads fresh] at first
          exact first
        have left : Steps (inside.resolved target) (other.resolved (.reference pointer)) := by
          rw [← leave_resolved leads fresh]
          exact steps_perform { inside.resolved target with tasks := other.tasks } .leave
        exact (entered.trans ofTarget).trans left
  exact steps_of_pointers (ofPointers walk.stack) schema walk rfl rfl

end Walk

end TypedClient
