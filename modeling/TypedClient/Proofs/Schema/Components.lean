import Mathlib.Data.List.Basic
import TypedClient.Proofs.Shape.Renaming
import TypedClient.Reference.Expansion

/-!
Contract: schemas by their direct components.

Owns:
- the induction over schemas that hands over every property, member and item;
- the schema of the further properties of an object, if it admits any;
- expansion and pointers of a list of properties or members as maps;
- the symbols of an expanded schema: those of the expansions of its pointers, in order.

Does not own: where a pointer leads.
-/

namespace TypedClient.Schema

/-- The schema of the further properties of an object: an object that admits anything admits what a
schema without content admits. -/
def Additional.schema? : Additional → Option Schema
  | .closed => none
  | .anything => some .unknown
  | .schema others => some others

/-- Induction over schemas: a property of every schema is shown from the property of its direct
components. -/
@[elab_as_elim, induction_eliminator]
theorem componentInduction {motive : Schema → Prop}
    (reference : ∀ pointer, motive (.reference pointer))
    (array : ∀ items, motive items → motive (.array items))
    (object : ∀ properties required additional, (∀ property ∈ properties, motive property.2) →
      (∀ schema, additional.schema? = some schema → motive schema) →
      motive (.object properties required additional))
    (enumeration : ∀ values, motive (.enumeration values))
    (primitive : ∀ kind, motive (.primitive kind))
    (union : ∀ members, (∀ member ∈ members, motive member) → motive (.union members))
    (intersection : ∀ members, (∀ member ∈ members, motive member) →
      motive (.intersection members))
    (unknown : motive .unknown) (schema : Schema) : motive schema := by
  have again : ∀ smaller : Schema, sizeOf smaller < sizeOf schema → motive smaller :=
    fun smaller _ => componentInduction reference array object enumeration primitive union
      intersection unknown smaller
  cases schema with
  | reference pointer => exact reference pointer
  | array items => exact array items (again items (by simp))
  | object properties required additional =>
      refine object properties required additional ?_ ?_
      · intro property member
        apply again
        have below := List.sizeOf_lt_of_mem member
        obtain ⟨name, inner⟩ := property
        simp at below ⊢
        omega
      · intro inner found
        cases additional with
        | closed => simp [Additional.schema?] at found
        | anything =>
            simp only [Additional.schema?, Option.some.injEq] at found
            exact found ▸ unknown
        | schema others =>
            simp only [Additional.schema?, Option.some.injEq] at found
            subst found
            apply again
            simp
            omega
  | enumeration values => exact enumeration values
  | primitive kind => exact primitive kind
  | union members =>
      refine union members (fun member isMember => again member ?_)
      have below := List.sizeOf_lt_of_mem isMember
      simp
      omega
  | intersection members =>
      refine intersection members (fun member isMember => again member ?_)
      have below := List.sizeOf_lt_of_mem isMember
      simp
      omega
  | unknown => exact unknown
termination_by sizeOf schema

/-! ## Expansion -/

section Expansion

variable (follow : String → Shape)

theorem expandProperties_eq_map (required : List String) (properties : List (String × Schema)) :
    expandProperties follow required properties =
      properties.map (fun property =>
        (property.1, required.contains property.1, expandWith follow property.2)) := by
  induction properties with
  | nil => rfl
  | cons property rest inductionHypothesis =>
      rw [expandProperties, inductionHypothesis, List.map_cons]

theorem expandMembers_eq_map (members : List Schema) :
    expandMembers follow members = members.map (expandWith follow) := by
  induction members with
  | nil => rfl
  | cons member rest inductionHypothesis =>
      rw [expandMembers, inductionHypothesis, List.map_cons]

theorem expandWith_object (properties : List (String × Schema)) (required : List String)
    (additional : Additional) :
    expandWith follow (.object properties required additional) =
      .object
        (properties.map (fun property =>
          (property.1, required.contains property.1, expandWith follow property.2)))
        (additional.schema?.map (expandWith follow)) := by
  cases additional <;> simp [expandWith, expandProperties_eq_map, Additional.schema?]

theorem expandWith_union (members : List Schema) :
    expandWith follow (.union members) = .union (members.map (expandWith follow)) := by
  rw [expandWith, expandMembers_eq_map]

theorem expandWith_intersection (members : List Schema) :
    expandWith follow (.intersection members) =
      .intersection (members.map (expandWith follow)) := by
  rw [expandWith, expandMembers_eq_map]

end Expansion

/-! ## Pointers -/

theorem pointersOfProperties_eq_flatMap (properties : List (String × Schema)) :
    pointersOfProperties properties =
      properties.flatMap (fun property => pointers property.2) := by
  induction properties with
  | nil => rfl
  | cons property rest inductionHypothesis =>
      rw [pointersOfProperties, inductionHypothesis, List.flatMap_cons]

theorem pointersOfMembers_eq_flatMap (members : List Schema) :
    pointersOfMembers members = members.flatMap pointers := by
  induction members with
  | nil => rfl
  | cons member rest inductionHypothesis =>
      rw [pointersOfMembers, inductionHypothesis, List.flatMap_cons]

theorem pointers_object (properties : List (String × Schema)) (required : List String)
    (additional : Additional) :
    pointers (.object properties required additional) =
      properties.flatMap (fun property => pointers property.2) ++
        additional.schema?.toList.flatMap pointers := by
  cases additional <;> simp [pointers, pointersOfProperties_eq_flatMap, Additional.schema?]

/-- An expanded schema mentions what the expansions of its pointers mention, in the order of the
pointers. -/
theorem symbols_expandWith (follow : String → Shape) (schema : Schema) :
    (schema.expandWith follow).symbols =
      schema.pointers.flatMap (fun pointer => (follow pointer).symbols) := by
  induction schema with
  | reference pointer => simp [expandWith, pointers]
  | array items inductionHypothesis =>
      simpa [expandWith, pointers, Shape.symbols] using inductionHypothesis
  | object properties required additional ofProperties ofOthers =>
      rw [expandWith_object, pointers_object, Shape.symbols_object, List.flatMap_append,
        List.flatMap_map, List.flatMap_assoc]
      congr 1
      · exact List.flatMap_congr ofProperties
      · cases others : additional.schema? with
        | none => rfl
        | some schema => simpa using ofOthers schema others
  | union members ofMembers =>
      rw [expandWith_union, pointers, pointersOfMembers_eq_flatMap, Shape.symbols_union,
        List.flatMap_map, List.flatMap_assoc]
      exact List.flatMap_congr ofMembers
  | intersection members ofMembers =>
      rw [expandWith_intersection, pointers, pointersOfMembers_eq_flatMap,
        Shape.symbols_intersection, List.flatMap_map, List.flatMap_assoc]
      exact List.flatMap_congr ofMembers
  | _ => simp [expandWith, pointers, Shape.symbols]

end TypedClient.Schema
