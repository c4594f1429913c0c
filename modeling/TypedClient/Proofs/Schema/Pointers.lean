import TypedClient.Proofs.Schema.Components

/-!
Contract: schemas whose pointers are replaced.

Owns:
- `Schema.mapPointers`, the schema with every pointer replaced by another one;
- that replacing the pointers and expanding is expanding what the new pointers give;
- that an expansion depends on nothing but what the pointers of the schema give.

Does not own: where a pointer leads.
-/

namespace TypedClient.Schema

mutual

/-- The schema with every pointer replaced. -/
def mapPointers (moved : String → String) : Schema → Schema
  | .reference pointer => .reference (moved pointer)
  | .array items => .array (mapPointers moved items)
  | .object properties required .closed =>
      .object (mapPointersOfProperties moved properties) required .closed
  | .object properties required .anything =>
      .object (mapPointersOfProperties moved properties) required .anything
  | .object properties required (.schema others) =>
      .object (mapPointersOfProperties moved properties) required
        (.schema (mapPointers moved others))
  | .enumeration values => .enumeration values
  | .primitive kind => .primitive kind
  | .union members => .union (mapPointersOfMembers moved members)
  | .intersection members => .intersection (mapPointersOfMembers moved members)
  | .unknown => .unknown

/-- `mapPointers` in each property. -/
def mapPointersOfProperties (moved : String → String) :
    List (String × Schema) → List (String × Schema)
  | [] => []
  | (name, schema) :: rest =>
      (name, mapPointers moved schema) :: mapPointersOfProperties moved rest

/-- `mapPointers` in each member. -/
def mapPointersOfMembers (moved : String → String) : List Schema → List Schema
  | [] => []
  | member :: rest => mapPointers moved member :: mapPointersOfMembers moved rest

end

/-- What an object admits besides its properties, with every pointer replaced. -/
def Additional.mapPointers (moved : String → String) : Additional → Additional
  | .closed => .closed
  | .anything => .anything
  | .schema others => .schema (others.mapPointers moved)

section Forms

variable (moved : String → String)

theorem mapPointersOfProperties_eq_map (properties : List (String × Schema)) :
    mapPointersOfProperties moved properties =
      properties.map (fun property => (property.1, mapPointers moved property.2)) := by
  induction properties with
  | nil => rfl
  | cons property rest inductionHypothesis =>
      rw [mapPointersOfProperties, inductionHypothesis, List.map_cons]

theorem mapPointersOfMembers_eq_map (members : List Schema) :
    mapPointersOfMembers moved members = members.map (mapPointers moved) := by
  induction members with
  | nil => rfl
  | cons member rest inductionHypothesis =>
      rw [mapPointersOfMembers, inductionHypothesis, List.map_cons]

theorem mapPointers_object (properties : List (String × Schema)) (required : List String)
    (additional : Additional) :
    mapPointers moved (.object properties required additional) =
      .object (properties.map (fun property => (property.1, mapPointers moved property.2)))
        required (additional.mapPointers moved) := by
  cases additional <;>
    simp [mapPointers, mapPointersOfProperties_eq_map, Additional.mapPointers]

theorem mapPointers_union (members : List Schema) :
    mapPointers moved (.union members) = .union (members.map (mapPointers moved)) := by
  rw [mapPointers, mapPointersOfMembers_eq_map]

theorem mapPointers_intersection (members : List Schema) :
    mapPointers moved (.intersection members) =
      .intersection (members.map (mapPointers moved)) := by
  rw [mapPointers, mapPointersOfMembers_eq_map]

theorem Additional.schema?_mapPointers (additional : Additional) :
    (additional.mapPointers moved).schema? =
      additional.schema?.map (Schema.mapPointers moved) := by
  cases additional <;> simp [Additional.mapPointers, Additional.schema?, Schema.mapPointers]

end Forms

/-- Nothing changes when every pointer is replaced by itself. -/
@[simp] theorem mapPointers_id (schema : Schema) : schema.mapPointers id = schema := by
  induction schema with
  | array items inductionHypothesis => rw [mapPointers, inductionHypothesis]
  | object properties required additional ofProperties ofOthers =>
      have sameProperties : properties.map (fun property =>
          (property.1, mapPointers id property.2)) = properties.map id :=
        List.map_congr_left (fun property member => by
          rw [ofProperties property member, id_eq])
      have sameOthers : additional.mapPointers id = additional := by
        cases additional with
        | schema others => rw [Additional.mapPointers, ofOthers others rfl]
        | _ => rfl
      rw [mapPointers_object, sameProperties, sameOthers, List.map_id]
  | union members ofMembers =>
      rw [mapPointers_union, List.map_congr_left ofMembers, List.map_id']
  | intersection members ofMembers =>
      rw [mapPointers_intersection, List.map_congr_left ofMembers, List.map_id']
  | _ => rfl

/-- Replacing the pointers first, an expansion follows the new pointers. -/
theorem expandWith_mapPointers (moved : String → String) (follow : String → Shape)
    (schema : Schema) :
    (schema.mapPointers moved).expandWith follow =
      schema.expandWith (fun pointer => follow (moved pointer)) := by
  induction schema with
  | array items inductionHypothesis =>
      rw [mapPointers, expandWith, expandWith, inductionHypothesis]
  | object properties required additional ofProperties ofOthers =>
      rw [mapPointers_object, expandWith_object, expandWith_object, List.map_map,
        Additional.schema?_mapPointers, Option.map_map]
      congr 1
      · apply List.map_congr_left
        intro property member
        rw [Function.comp_apply, ofProperties property member]
      · cases others : additional.schema? with
        | none => rfl
        | some schema =>
            rw [Option.map_some, Option.map_some, Function.comp_apply, ofOthers schema others]
  | union members ofMembers =>
      rw [mapPointers_union, expandWith_union, expandWith_union, List.map_map]
      exact congrArg Shape.union (List.map_congr_left ofMembers)
  | intersection members ofMembers =>
      rw [mapPointers_intersection, expandWith_intersection, expandWith_intersection,
        List.map_map]
      exact congrArg Shape.intersection (List.map_congr_left ofMembers)
  | _ => rfl

/-- An expansion depends on nothing but what the pointers of the schema give. -/
theorem expandWith_congr {follow other : String → Shape} {schema : Schema}
    (agree : ∀ pointer ∈ schema.pointers, follow pointer = other pointer) :
    schema.expandWith follow = schema.expandWith other := by
  induction schema with
  | reference pointer => exact agree pointer (List.mem_singleton_self pointer)
  | array items inductionHypothesis =>
      rw [expandWith, expandWith, inductionHypothesis agree]
  | object properties required additional ofProperties ofOthers =>
      rw [pointers_object] at agree
      rw [expandWith_object, expandWith_object]
      congr 1
      · apply List.map_congr_left
        intro property member
        rw [ofProperties property member (fun pointer isPointer =>
          agree pointer (List.mem_append_left _ (List.mem_flatMap_of_mem member isPointer)))]
      · cases others : additional.schema? with
        | none => rfl
        | some schema =>
            rw [others] at agree
            rw [Option.map_some, Option.map_some, ofOthers schema others (fun pointer isPointer =>
              agree pointer (List.mem_append_right _ (by simpa using isPointer)))]
  | union members ofMembers =>
      rw [pointers, pointersOfMembers_eq_flatMap] at agree
      rw [expandWith_union, expandWith_union]
      refine congrArg Shape.union (List.map_congr_left (fun member isMember => ?_))
      exact ofMembers member isMember (fun pointer isPointer =>
        agree pointer (List.mem_flatMap_of_mem isMember isPointer))
  | intersection members ofMembers =>
      rw [pointers, pointersOfMembers_eq_flatMap] at agree
      rw [expandWith_intersection, expandWith_intersection]
      refine congrArg Shape.intersection (List.map_congr_left (fun member isMember => ?_))
      exact ofMembers member isMember (fun pointer isPointer =>
        agree pointer (List.mem_flatMap_of_mem isMember isPointer))
  | _ => rfl

end TypedClient.Schema
