import TypedClient.Proofs.Reference.Chain
import TypedClient.Proofs.Schema.Components

/-!
Contract: a schema as its parts and what puts their shapes together.

Owns:
- `parts`, the schemas right below a schema, and `assembled`, the shape of a schema from the shapes
  of its parts;
- that expansion and pointers go part by part through every schema but a reference, and that
  renaming goes through the shapes of the parts.

Does not own: the order in which the parts are looked at.
-/

namespace TypedClient.Schema

def parts : Schema → List Schema
  | .array items => [items]
  | .object properties _ additional => properties.map Prod.snd ++ additional.schema?.toList
  | .union members => members
  | .intersection members => members
  | _ => []

/-- The shape of a schema from the shapes of its parts. A reference has no parts and no shape of its
own. -/
def assembled : Schema → List Shape → Shape
  | .array _, [items] => .array items
  | .object properties required _, shapes =>
      .object
        ((properties.zip shapes).map (fun (property, shape) =>
          (property.1, required.contains property.1, shape)))
        (shapes.drop properties.length).head?
  | .enumeration values, _ => .enumeration values
  | .primitive kind, _ => .primitive kind
  | .union _, shapes => .union shapes
  | .intersection _, shapes => .intersection shapes
  | _, _ => .unknown

variable {schema : Schema}

/-- A property of every reference, and of every other schema whose parts have it, is a property of
every schema. -/
@[elab_as_elim]
theorem partInduction {motive : Schema → Prop}
    (reference : ∀ pointer, motive (.reference pointer))
    (whole : ∀ schema : Schema, schema.isReference = false → (∀ part ∈ schema.parts, motive part) →
      motive schema) (schema : Schema) : motive schema := by
  induction schema with
  | reference pointer => exact reference pointer
  | array items ofItems => exact whole _ rfl (by simpa [parts] using ofItems)
  | object properties required additional ofProperties ofOthers =>
      refine whole _ rfl (fun part member => ?_)
      rw [parts, List.mem_append] at member
      rcases member with inProperties | isOthers
      · obtain ⟨property, isProperty, rfl⟩ := List.mem_map.1 inProperties
        exact ofProperties property isProperty
      · exact ofOthers part (by simpa using isOthers)
  | union members ofMembers => exact whole _ rfl ofMembers
  | intersection members ofMembers => exact whole _ rfl ofMembers
  | enumeration values => exact whole _ rfl (by simp [parts])
  | primitive kind => exact whole _ rfl (by simp [parts])
  | unknown => exact whole _ rfl (by simp [parts])

theorem expandWith_eq_assembled (plain : schema.isReference = false) (follow : String → Shape) :
    schema.expandWith follow = schema.assembled (schema.parts.map (expandWith follow)) := by
  cases schema with
  | reference pointer => cases plain
  | object properties required additional =>
      have ofProperties : properties.zip ((properties.map Prod.snd).map (expandWith follow) ++
          additional.schema?.toList.map (expandWith follow)) =
            properties.map (fun property => (property, expandWith follow property.2)) := by
        have sameLength : properties.length =
            ((properties.map Prod.snd).map (expandWith follow)).length := by simp
        have paired := @List.zip_append _ _ properties [] _ (additional.schema?.toList.map
          (expandWith follow)) sameLength
        rw [List.append_nil, List.zip_nil_left, List.append_nil] at paired
        rw [paired, List.map_map]
        exact List.map_prod_left_eq_zip.symm
      have ofOthers : (((properties.map Prod.snd).map (expandWith follow) ++
          additional.schema?.toList.map (expandWith follow)).drop properties.length).head? =
            additional.schema?.map (expandWith follow) := by
        rw [List.drop_left' (by simp)]
        cases additional.schema? <;> rfl
      rw [expandWith_object, assembled, parts, List.map_append, ofProperties, ofOthers,
        List.map_map]
      rfl
  | union members => rw [expandWith_union]; rfl
  | intersection members => rw [expandWith_intersection]; rfl
  | _ => simp [expandWith, assembled, parts]

theorem rename_assembled (newName : String → String) (schema : Schema) (shapes : List Shape) :
    (schema.assembled shapes).rename newName =
      schema.assembled (shapes.map (Shape.rename newName)) := by
  cases schema with
  | array items =>
      match shapes with
      | [] => rfl
      | [shape] => rfl
      | _ :: _ :: _ => rfl
  | object properties required additional =>
      rw [assembled, assembled, Shape.rename_object, List.map_map, List.zip_map_right,
        List.map_map, ← List.map_drop, List.head?_map]
      rfl
  | union members => exact Shape.rename_union newName shapes
  | intersection members => exact Shape.rename_intersection newName shapes
  | _ => rfl

theorem pointers_eq_flatMap_parts (plain : schema.isReference = false) :
    schema.pointers = schema.parts.flatMap pointers := by
  cases schema with
  | reference pointer => cases plain
  | object properties required additional =>
      rw [pointers_object, parts, List.flatMap_append, List.flatMap_map]
  | union members => rw [pointers, pointersOfMembers_eq_flatMap, parts]
  | intersection members => rw [pointers, pointersOfMembers_eq_flatMap, parts]
  | _ => simp [pointers, parts]

end TypedClient.Schema
