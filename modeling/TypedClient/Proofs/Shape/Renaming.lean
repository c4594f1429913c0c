import Mathlib.Data.List.Basic
import TypedClient.Shape.Basic

/-!
Contract: renaming the declarations that a shape mentions.

Owns:
- the induction over shapes that hands over every component of a list of properties or members;
- the symbols of a renamed shape, and renaming in two ways that agree where it matters.

Does not own: which names the declarations have.
-/

namespace TypedClient.Shape

/-- Induction over shapes: a property of every shape is shown from the property of its direct
components. -/
@[elab_as_elim, induction_eliminator]
theorem componentInduction {motive : Shape → Prop}
    (array : ∀ items, motive items → motive (.array items))
    (object : ∀ properties others, (∀ property ∈ properties, motive property.2.2) →
      (∀ shape, others = some shape → motive shape) → motive (.object properties others))
    (enumeration : ∀ values, motive (.enumeration values))
    (primitive : ∀ kind, motive (.primitive kind))
    (union : ∀ members, (∀ member ∈ members, motive member) → motive (.union members))
    (intersection : ∀ members, (∀ member ∈ members, motive member) →
      motive (.intersection members))
    (named : ∀ symbol, motive (.named symbol))
    (unknown : motive .unknown) (shape : Shape) : motive shape := by
  have again : ∀ smaller : Shape, sizeOf smaller < sizeOf shape → motive smaller :=
    fun smaller _ => componentInduction array object enumeration primitive union intersection
      named unknown smaller
  cases shape with
  | array items => exact array items (again items (by simp))
  | object properties others =>
      refine object properties others ?_ ?_
      · intro property member
        apply again
        have below := List.sizeOf_lt_of_mem member
        obtain ⟨name, required, inner⟩ := property
        simp at below ⊢
        omega
      · rintro inner rfl
        apply again
        simp
        omega
  | enumeration values => exact enumeration values
  | primitive kind => exact primitive kind
  | union members =>
      refine union members (fun member isMember => again member ?_)
      have below := List.sizeOf_lt_of_mem isMember
      simp
      omega
  | intersection members =>
      refine intersection members (fun member isMember => again member ?_)
      have below := List.sizeOf_lt_of_mem isMember
      simp
      omega
  | named symbol => exact named symbol
  | unknown => exact unknown
termination_by sizeOf shape

/-! ## The lists as maps -/

theorem renameProperties_eq_map (newName : String → String)
    (properties : List (String × Bool × Shape)) :
    renameProperties newName properties =
      properties.map (fun property => (property.1, property.2.1, rename newName property.2.2)) := by
  induction properties with
  | nil => rfl
  | cons property rest inductionHypothesis =>
      change _ :: renameProperties newName rest = _
      rw [inductionHypothesis, List.map_cons]

theorem renameMembers_eq_map (newName : String → String) (members : List Shape) :
    renameMembers newName members = members.map (rename newName) := by
  induction members with
  | nil => rfl
  | cons member rest inductionHypothesis =>
      change _ :: renameMembers newName rest = _
      rw [inductionHypothesis, List.map_cons]

theorem symbolsOfProperties_eq_flatMap (properties : List (String × Bool × Shape)) :
    symbolsOfProperties properties =
      properties.flatMap (fun property => symbols property.2.2) := by
  induction properties with
  | nil => rfl
  | cons property rest inductionHypothesis =>
      change _ ++ symbolsOfProperties rest = _
      rw [inductionHypothesis, List.flatMap_cons]

theorem symbolsOfMembers_eq_flatMap (members : List Shape) :
    symbolsOfMembers members = members.flatMap symbols := by
  induction members with
  | nil => rfl
  | cons member rest inductionHypothesis =>
      change _ ++ symbolsOfMembers rest = _
      rw [inductionHypothesis, List.flatMap_cons]

theorem rename_object (newName : String → String) (properties : List (String × Bool × Shape))
    (others : Option Shape) :
    rename newName (.object properties others) =
      .object
        (properties.map (fun property => (property.1, property.2.1, rename newName property.2.2)))
        (others.map (rename newName)) := by
  rw [← renameProperties_eq_map]
  cases others <;> rfl

theorem rename_union (newName : String → String) (members : List Shape) :
    rename newName (.union members) = .union (members.map (rename newName)) :=
  congrArg Shape.union (renameMembers_eq_map newName members)

theorem rename_intersection (newName : String → String) (members : List Shape) :
    rename newName (.intersection members) = .intersection (members.map (rename newName)) :=
  congrArg Shape.intersection (renameMembers_eq_map newName members)

theorem symbols_object (properties : List (String × Bool × Shape)) (others : Option Shape) :
    symbols (.object properties others) =
      properties.flatMap (fun property => symbols property.2.2) ++
        others.toList.flatMap symbols := by
  rw [← symbolsOfProperties_eq_flatMap]
  cases others with
  | none => exact (List.append_nil _).symm
  | some shape =>
      rw [Option.toList_some, List.flatMap_singleton]
      rfl

theorem symbols_union (members : List Shape) :
    symbols (.union members) = members.flatMap symbols :=
  symbolsOfMembers_eq_flatMap members

theorem symbols_intersection (members : List Shape) :
    symbols (.intersection members) = members.flatMap symbols :=
  symbolsOfMembers_eq_flatMap members

/-! ## Laws of renaming -/

/-- A renamed shape mentions the new names of what the shape mentions, in the same order. -/
theorem symbols_rename (newName : String → String) (shape : Shape) :
    (shape.rename newName).symbols = shape.symbols.map newName := by
  induction shape with
  | array items inductionHypothesis => simpa [rename, symbols] using inductionHypothesis
  | object properties others ofProperties ofOthers =>
      rw [rename_object, symbols_object, symbols_object, List.map_append]
      congr 1
      · rw [List.flatMap_map, List.map_flatMap]
        exact List.flatMap_congr (fun property member => ofProperties property member)
      · cases others with
        | none => rfl
        | some shape => simpa using ofOthers shape rfl
  | union members ofMembers =>
      rw [rename_union, symbols_union, symbols_union, List.flatMap_map, List.map_flatMap]
      exact List.flatMap_congr ofMembers
  | intersection members ofMembers =>
      rw [rename_intersection, symbols_intersection, symbols_intersection, List.flatMap_map,
        List.map_flatMap]
      exact List.flatMap_congr ofMembers
  | _ => simp [rename, symbols]

/-- Nothing changes if every name is its own new name. -/
theorem rename_id (shape : Shape) : shape.rename id = shape := by
  induction shape with
  | array items inductionHypothesis => rw [rename, inductionHypothesis]
  | object properties others ofProperties ofOthers =>
      have sameProperties : properties.map (fun property =>
          (property.1, property.2.1, rename id property.2.2)) = properties.map id :=
        List.map_congr_left (fun property member => by rw [ofProperties property member, id_eq])
      have sameOthers : others.map (rename id) = others := by
        cases others with
        | none => rfl
        | some shape => rw [Option.map_some, ofOthers shape rfl]
      rw [rename_object, sameProperties, sameOthers, List.map_id]
  | union members ofMembers =>
      rw [rename_union, List.map_congr_left ofMembers, List.map_id']
  | intersection members ofMembers =>
      rw [rename_intersection, List.map_congr_left ofMembers, List.map_id']
  | _ => rfl

/-- Renaming twice is renaming once. -/
theorem rename_rename (first second : String → String) (shape : Shape) :
    (shape.rename first).rename second = shape.rename (second ∘ first) := by
  induction shape with
  | array items inductionHypothesis => rw [rename, rename, rename, inductionHypothesis]
  | object properties others ofProperties ofOthers =>
      rw [rename_object, rename_object, rename_object, List.map_map, Option.map_map]
      congr 1
      · apply List.map_congr_left
        intro property member
        rw [Function.comp_apply, ofProperties property member]
      · cases others with
        | none => rfl
        | some shape => rw [Option.map_some, Option.map_some, Function.comp_apply, ofOthers shape rfl]
  | union members ofMembers =>
      rw [rename_union, rename_union, rename_union, List.map_map]
      exact congrArg Shape.union (List.map_congr_left ofMembers)
  | intersection members ofMembers =>
      rw [rename_intersection, rename_intersection, rename_intersection, List.map_map]
      exact congrArg Shape.intersection (List.map_congr_left ofMembers)
  | _ => rfl

/-- Only a name becomes a name. -/
theorem exists_named_of_rename_eq_named {newName : String → String} {shape : Shape}
    {symbol : String} (bare : shape.rename newName = .named symbol) :
    ∃ other, shape = .named other := by
  cases shape with
  | named other => exact ⟨other, rfl⟩
  | object properties others =>
      rw [rename_object] at bare
      cases bare
  | _ => simp [rename] at bare

/-- Only the new names of what a shape mentions matter. -/
theorem rename_congr {first second : String → String} {shape : Shape}
    (agree : ∀ symbol ∈ shape.symbols, first symbol = second symbol) :
    shape.rename first = shape.rename second := by
  induction shape with
  | array items inductionHypothesis =>
      rw [rename, rename, inductionHypothesis (by simpa [symbols] using agree)]
  | object properties others ofProperties ofOthers =>
      rw [symbols_object] at agree
      rw [rename_object, rename_object]
      congr 1
      · apply List.map_congr_left
        intro property member
        rw [ofProperties property member]
        intro symbol mentioned
        exact agree symbol
          (List.mem_append_left _ (List.mem_flatMap_of_mem member mentioned))
      · cases others with
        | none => rfl
        | some shape =>
            have same := ofOthers shape rfl (fun symbol mentioned =>
              agree symbol (List.mem_append_right _ (by simpa using mentioned)))
            simp [same]
  | union members ofMembers =>
      rw [symbols_union] at agree
      rw [rename_union, rename_union]
      refine congrArg Shape.union (List.map_congr_left (fun member isMember => ?_))
      exact ofMembers member isMember (fun symbol mentioned =>
        agree symbol (List.mem_flatMap_of_mem isMember mentioned))
  | intersection members ofMembers =>
      rw [symbols_intersection] at agree
      rw [rename_intersection, rename_intersection]
      refine congrArg Shape.intersection (List.map_congr_left (fun member isMember => ?_))
      exact ofMembers member isMember (fun symbol mentioned =>
        agree symbol (List.mem_flatMap_of_mem isMember mentioned))
  | named symbol => rw [rename, rename, agree symbol (by simp [symbols])]
  | _ => simp [rename]

end TypedClient.Shape
