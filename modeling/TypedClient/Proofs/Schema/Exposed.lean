import TypedClient.Proofs.Schema.Components

/-!
Contract: the names and pointers that stand below no array and no object.

Owns:
- `Shape.exposed`, the declared names that a shape reaches through the members of unions and
  intersections alone, and `Schema.exposedPointers`, the pointers that a schema reaches so;
- both under renaming and expansion.

Does not own: where a pointer leads, and what a name is declared to stand for.
-/

namespace TypedClient

theorem flatMap_subset_flatMap {α β : Type} {members : List α} {fewer more : α → List β}
    (within : ∀ member ∈ members, fewer member ⊆ more member) :
    members.flatMap fewer ⊆ members.flatMap more := by
  intro item isItem
  obtain ⟨member, isMember, inMember⟩ := List.mem_flatMap.1 isItem
  exact List.mem_flatMap_of_mem isMember (within member isMember inMember)

namespace Shape

mutual

/-- The declared names in a shape that stand below no array and no object. -/
def exposed : Shape → List String
  | .array _ => []
  | .object _ _ => []
  | .enumeration _ => []
  | .primitive _ => []
  | .union members => exposedOfMembers members
  | .intersection members => exposedOfMembers members
  | .named symbol => [symbol]
  | .unknown => []

/-- `exposed` in each member. -/
def exposedOfMembers : List Shape → List String
  | [] => []
  | member :: rest => exposed member ++ exposedOfMembers rest

end

theorem exposedOfMembers_eq_flatMap (members : List Shape) :
    exposedOfMembers members = members.flatMap exposed := by
  induction members with
  | nil => rfl
  | cons member rest inductionHypothesis =>
      change _ ++ exposedOfMembers rest = _
      rw [inductionHypothesis, List.flatMap_cons]

theorem exposed_union (members : List Shape) :
    exposed (.union members) = members.flatMap exposed :=
  exposedOfMembers_eq_flatMap members

theorem exposed_intersection (members : List Shape) :
    exposed (.intersection members) = members.flatMap exposed :=
  exposedOfMembers_eq_flatMap members

theorem exposed_subset_symbols (shape : Shape) : shape.exposed ⊆ shape.symbols := by
  induction shape with
  | union members within =>
      rw [exposed_union, symbols_union]
      exact flatMap_subset_flatMap within
  | intersection members within =>
      rw [exposed_intersection, symbols_intersection]
      exact flatMap_subset_flatMap within
  | named symbol => exact List.Subset.refl _
  | _ => exact List.nil_subset _

theorem exposed_rename (newName : String → String) (shape : Shape) :
    (shape.rename newName).exposed = shape.exposed.map newName := by
  induction shape with
  | object properties others => rw [rename_object, exposed, exposed, List.map_nil]
  | union members ofMembers =>
      rw [rename_union, exposed_union, exposed_union, List.flatMap_map, List.map_flatMap]
      exact List.flatMap_congr ofMembers
  | intersection members ofMembers =>
      rw [rename_intersection, exposed_intersection, exposed_intersection, List.flatMap_map,
        List.map_flatMap]
      exact List.flatMap_congr ofMembers
  | _ => simp [rename, exposed]

end Shape

namespace Schema

mutual

/-- The pointers of a schema that stand below no array and no object. -/
def exposedPointers : Schema → List String
  | .reference pointer => [pointer]
  | .array _ => []
  | .object _ _ _ => []
  | .enumeration _ => []
  | .primitive _ => []
  | .union members => exposedPointersOfMembers members
  | .intersection members => exposedPointersOfMembers members
  | .unknown => []

/-- `exposedPointers` in each member. -/
def exposedPointersOfMembers : List Schema → List String
  | [] => []
  | member :: rest => exposedPointers member ++ exposedPointersOfMembers rest

end

theorem exposedPointersOfMembers_eq_flatMap (members : List Schema) :
    exposedPointersOfMembers members = members.flatMap exposedPointers := by
  induction members with
  | nil => rfl
  | cons member rest inductionHypothesis =>
      rw [exposedPointersOfMembers, inductionHypothesis, List.flatMap_cons]

theorem exposedPointers_subset_pointers (schema : Schema) :
    schema.exposedPointers ⊆ schema.pointers := by
  induction schema with
  | reference pointer => exact List.Subset.refl _
  | union members within =>
      rw [exposedPointers, pointers, exposedPointersOfMembers_eq_flatMap,
        pointersOfMembers_eq_flatMap]
      exact flatMap_subset_flatMap within
  | intersection members within =>
      rw [exposedPointers, pointers, exposedPointersOfMembers_eq_flatMap,
        pointersOfMembers_eq_flatMap]
      exact flatMap_subset_flatMap within
  | _ => exact List.nil_subset _

/-- An expanded schema exposes what the expansions of its exposed pointers expose. -/
theorem exposed_expandWith (follow : String → Shape) (schema : Schema) :
    (schema.expandWith follow).exposed =
      schema.exposedPointers.flatMap (fun pointer => (follow pointer).exposed) := by
  induction schema with
  | reference pointer => simp [expandWith, exposedPointers]
  | object properties required additional =>
      rw [expandWith_object, Shape.exposed, exposedPointers, List.flatMap_nil]
  | union members ofMembers =>
      rw [expandWith_union, Shape.exposed_union, exposedPointers,
        exposedPointersOfMembers_eq_flatMap, List.flatMap_map, List.flatMap_assoc]
      exact List.flatMap_congr ofMembers
  | intersection members ofMembers =>
      rw [expandWith_intersection, Shape.exposed_intersection, exposedPointers,
        exposedPointersOfMembers_eq_flatMap, List.flatMap_map, List.flatMap_assoc]
      exact List.flatMap_congr ofMembers
  | _ => simp [expandWith, exposedPointers, Shape.exposed]

end Schema

end TypedClient
