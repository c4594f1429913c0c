import TypedClient.Proofs.Shape.Renaming

/-!
Contract: what a structural type means, down to a depth.

Owns:
- `Unfolding`, a type without names, cut off at a depth;
- `Shape.unfold`, a shape with each name replaced by what it is declared to stand for;
- that renaming a shape together with the declarations changes nothing about its unfoldings.

Does not own: what the declarations are.
-/

namespace TypedClient

/-- A structural type without names, down to a depth. -/
inductive Unfolding where
  /-- What lies deeper. -/
  | deeper
  | array (items : Unfolding)
  | object (properties : List (String × Bool × Unfolding)) (others : Option Unfolding)
  | enumeration (values : List Json)
  | primitive (kind : Primitive)
  | union (members : List Unfolding)
  | intersection (members : List Unfolding)
  /-- A name that stands for nothing, or for another name. -/
  | undeclared (symbol : String)
  | unknown

namespace Shape

/-- The shape that a name is declared to stand for; every other shape stands for itself. -/
def meaning (declared? : String → Option Shape) : Shape → Shape
  | .named symbol => (declared? symbol).getD (.named symbol)
  | shape => shape

/-- The outermost layer of a shape, the shapes below it seen in a given way. -/
def layer (see : Shape → Unfolding) : Shape → Unfolding
  | .array items => .array (see items)
  | .object properties others =>
      .object (properties.map (fun property => (property.1, property.2.1, see property.2.2)))
        (others.map see)
  | .enumeration values => .enumeration values
  | .primitive kind => .primitive kind
  | .union members => .union (members.map see)
  | .intersection members => .intersection (members.map see)
  | .named symbol => .undeclared symbol
  | .unknown => .unknown

/-- A shape down to a depth, each name replaced by what it is declared to stand for. Names take no
depth: only the layers of the structure count. -/
def unfold (declared? : String → Option Shape) : Nat → Shape → Unfolding
  | 0, _ => .deeper
  | depth + 1, shape => layer (unfold declared? depth) (meaning declared? shape)

/-- The outermost layer is the same for two shapes that differ in names below it, if the shapes
below are seen alike. -/
theorem layer_rename {see seeRenamed : Shape → Unfolding} {newName : String → String}
    {shape : Shape} (structured : ∀ symbol, shape ≠ .named symbol)
    (alike : ∀ inner : Shape, (∀ symbol ∈ inner.symbols, symbol ∈ shape.symbols) →
      seeRenamed (inner.rename newName) = see inner) :
    layer seeRenamed (shape.rename newName) = layer see shape := by
  cases shape with
  | array items => simp [rename, layer, alike items (by simp [symbols])]
  | object properties others =>
      rw [symbols_object] at alike
      rw [rename_object, layer, layer, List.map_map]
      congr 1
      · apply List.map_congr_left
        intro property member
        simp only [Function.comp_apply]
        rw [alike property.2.2 (fun symbol mentioned =>
          List.mem_append_left _ (List.mem_flatMap_of_mem member mentioned))]
      · cases others with
        | none => rfl
        | some shape =>
            simp [alike shape (fun symbol mentioned =>
              List.mem_append_right _ (by simpa using mentioned))]
  | union members =>
      rw [symbols_union] at alike
      rw [rename_union, layer, layer, List.map_map]
      refine congrArg Unfolding.union (List.map_congr_left (fun member isMember => ?_))
      exact alike member (fun symbol mentioned => List.mem_flatMap_of_mem isMember mentioned)
  | intersection members =>
      rw [symbols_intersection] at alike
      rw [rename_intersection, layer, layer, List.map_map]
      refine congrArg Unfolding.intersection (List.map_congr_left (fun member isMember => ?_))
      exact alike member (fun symbol mentioned => List.mem_flatMap_of_mem isMember mentioned)
  | named symbol => exact absurd rfl (structured symbol)
  | _ => simp [rename, layer]

/-- Names that stand for structured shapes, among them all names in these shapes, can be renamed
together with their declarations. -/
theorem unfold_rename {declared? renamed? : String → Option Shape} {newName : String → String}
    (Known : String → Prop)
    (known : ∀ symbol, Known symbol → ∃ shape, declared? symbol = some shape ∧
      renamed? (newName symbol) = some (shape.rename newName) ∧
      (∀ inner ∈ shape.symbols, Known inner) ∧ ∀ other, shape ≠ .named other)
    (depth : Nat) (shape : Shape) (mentioned : ∀ symbol ∈ shape.symbols, Known symbol) :
    (shape.rename newName).unfold renamed? depth = shape.unfold declared? depth := by
  induction depth generalizing shape with
  | zero => rfl
  | succ depth inductionHypothesis =>
      rw [unfold, unfold]
      by_cases bare : ∃ symbol, shape = .named symbol
      · obtain ⟨symbol, rfl⟩ := bare
        obtain ⟨stands, declared, renamed, inner, structured⟩ :=
          known symbol (mentioned symbol (by simp [symbols]))
        rw [rename, meaning, meaning, declared, renamed, Option.getD_some, Option.getD_some]
        exact layer_rename structured (fun below within =>
          inductionHypothesis below (fun symbol isIn => inner symbol (within symbol isIn)))
      · push Not at bare
        have same : meaning renamed? (shape.rename newName) = shape.rename newName ∧
            meaning declared? shape = shape := by
          cases shape with
          | named symbol => exact absurd rfl (bare symbol)
          | object properties others =>
              rw [rename_object]
              exact ⟨rfl, rfl⟩
          | _ => simp [rename, meaning]
        rw [same.1, same.2]
        exact layer_rename bare (fun below within =>
          inductionHypothesis below (fun symbol isIn => mentioned symbol (within symbol isIn)))

end Shape

end TypedClient
