import TypedClient.Proofs.Reference.Alias
import TypedClient.Proofs.Shape.Unfolding

/-!
Contract: what a schema means, down to a depth, and that expansion keeps it.

Owns:
- `Document.unfold`, a schema with each reference replaced by the component it leads to;
- `Document.declared?`, the shape that is declared for a component;
- that the expansion of a schema along any trail has the unfoldings of the schema, if the names in
  it stand for what is declared for their components.

Does not own: the symbols that components get.
-/

namespace TypedClient

/-- The outermost layer of a schema, the schemas below it seen in a given way. -/
def Schema.layer (see : Schema → Unfolding) : Schema → Unfolding
  | .reference _ => .unknown
  | .array items => .array (see items)
  | .object properties required additional =>
      .object (properties.map (fun property =>
          (property.1, decide (property.1 ∈ required), see property.2)))
        (additional.schema?.map see)
  | .enumeration values => .enumeration values
  | .primitive kind => .primitive kind
  | .union members => .union (members.map see)
  | .intersection members => .intersection (members.map see)
  | .unknown => .unknown

namespace Document

variable {document : Document} {trail : List String} {component : String} {schema : Schema}

/-- A schema down to a depth, each chain of references replaced by what stands behind it. -/
def unfold (document : Document) : Nat → Schema → Unfolding
  | 0, _ => .deeper
  | depth + 1, schema => (document.behind schema).layer (unfold document depth)

/-- The shape that is declared for a component: its expansion, with the component on the trail. -/
def declared? (document : Document) (component : String) : Option Shape :=
  (document.schema? component).map (fun schema =>
    Resolver.declaredShape (document.expand [component] schema))

end Document

theorem Resolver.declaredShape_of_ne_named {shape : Shape}
    (structured : ∀ symbol, shape ≠ .named symbol) : declaredShape shape = shape := by
  cases shape with
  | named symbol => exact absurd rfl (structured symbol)
  | _ => rfl

theorem Resolver.declaredShape_ne_named (shape : Shape) (symbol : String) :
    declaredShape shape ≠ .named symbol := by
  cases shape <;> simp [declaredShape]

theorem Schema.layer_expandWith {see : Schema → Unfolding} {seeExpanded : Shape → Unfolding}
    {follow : String → Shape} {schema : Schema} (plain : schema.isReference = false)
    (alike : ∀ inner : Schema, seeExpanded (inner.expandWith follow) = see inner) :
    Shape.layer seeExpanded (schema.expandWith follow) = schema.layer see := by
  cases schema with
  | reference pointer => cases plain
  | array items => simp [expandWith, Shape.layer, layer, alike]
  | object properties required additional =>
      rw [expandWith_object, Shape.layer, layer, List.map_map, Option.map_map]
      congr 1
      · apply List.map_congr_left
        intro property _
        simp [alike]
      · exact congrFun (congrArg Option.map (funext alike)) _
  | union members =>
      rw [expandWith_union, Shape.layer, layer, List.map_map]
      exact congrArg Unfolding.union (List.map_congr_left (fun member _ => alike member))
  | intersection members =>
      rw [expandWith_intersection, Shape.layer, layer, List.map_map]
      exact congrArg Unfolding.intersection (List.map_congr_left (fun member _ => alike member))
  | _ => simp [expandWith, Shape.layer, layer]

namespace Document

variable {document : Document} {trail : List String} {component : String} {schema : Schema}

/-- What is declared for a component has the structure behind its schema. -/
theorem declaredShape_expand (found : document.schema? component = some schema) :
    ∃ further, Resolver.declaredShape (document.expand [component] schema) =
      (document.behind schema).expandWith (document.expandPointer further) := by
  rcases document.expand_cases [component] schema with
    ⟨name, target, bare, _, _⟩ | ⟨further, structured⟩
  · have endless := endless_of_expand_eq_named found bare
    refine ⟨[], ?_⟩
    rw [bare, behind_eq_unknown endless, Resolver.declaredShape, Schema.expandWith]
  · refine ⟨further, ?_⟩
    rw [structured]
    exact Resolver.declaredShape_of_ne_named
      (fun symbol => expandWith_ne_named (isReference_behind schema))

/-- An expansion, or what is declared for the name that it is, has the structure behind the
schema. -/
theorem meaning_expand (trail : List String) (schema : Schema) :
    ∃ further, (document.expand trail schema).meaning document.declared? =
      (document.behind schema).expandWith (document.expandPointer further) := by
  rcases document.expand_cases trail schema with
    ⟨name, target, bare, found, sameEnd⟩ | ⟨further, structured⟩
  · obtain ⟨further, declared⟩ := declaredShape_expand found
    refine ⟨further, ?_⟩
    rw [bare, Shape.meaning, declared?, found, Option.map_some, Option.getD_some, declared, sameEnd]
  · refine ⟨further, ?_⟩
    rw [structured]
    have plain := document.isReference_behind schema
    cases ended : document.behind schema with
    | reference pointer =>
        rw [ended] at plain
        cases plain
    | object properties required additional =>
        rw [Schema.expandWith_object]
        rfl
    | _ => simp [Schema.expandWith, Shape.meaning]

/-- Expansion keeps the meaning of a schema: on every trail, and down to every depth. -/
theorem unfold_expand (depth : Nat) (trail : List String) (schema : Schema) :
    (document.expand trail schema).unfold document.declared? depth =
      document.unfold depth schema := by
  induction depth generalizing trail schema with
  | zero => rfl
  | succ depth inductionHypothesis =>
      obtain ⟨further, means⟩ := document.meaning_expand trail schema
      rw [Shape.unfold, means, unfold]
      exact Schema.layer_expandWith (isReference_behind schema)
        (fun inner => inductionHypothesis further inner)

/-- So does what is declared for a component. -/
theorem unfold_declaredShape (found : document.schema? component = some schema) (depth : Nat) :
    (Resolver.declaredShape (document.expand [component] schema)).unfold document.declared? depth =
      document.unfold depth schema := by
  cases depth with
  | zero => rfl
  | succ depth =>
      obtain ⟨further, structured⟩ := declaredShape_expand found
      have means : Shape.meaning document.declared?
          (Resolver.declaredShape (document.expand [component] schema)) =
            Resolver.declaredShape (document.expand [component] schema) := by
        cases shape : Resolver.declaredShape (document.expand [component] schema) with
        | named symbol => exact absurd shape (Resolver.declaredShape_ne_named _ symbol)
        | _ => rfl
      rw [Shape.unfold, means, structured, unfold]
      exact Schema.layer_expandWith (isReference_behind schema)
        (fun inner => unfold_expand depth further inner)

end Document

end TypedClient
