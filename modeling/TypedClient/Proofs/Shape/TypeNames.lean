import TypedClient.Proofs.Shape.Reading
import TypedClient.Proofs.TypeText.Names

/-!
Contract: the names of types in the text of a shape.

Owns:
- that the text of a number is never a plain name;
- that the names of types in the text of a shape are the symbols of the shape.

Does not own: what the symbols stand for.
-/

namespace TypedClient

open TypeText
open Script (isNameStart isPlainName)

/-! ## Numbers -/

namespace Json

theorem StartsNumber.not_isPlainName {text : List Char} (starts : StartsNumber text) :
    isPlainName text = false := by
  obtain ⟨first, rest, rfl, sign | isDigit⟩ := starts
  · rw [isPlainName, sign]
    rfl
  · rw [isPlainName, Script.isNameStart_of_isDigit isDigit, Bool.false_and]

theorem not_isTypeName_compact (value : Json.Number) :
    isTypeName (Number.compact value) = false := by
  rw [isTypeName, (startsNumber_compact value).not_isPlainName, Bool.false_and]

/-- A literal has no names of types. -/
theorem typeNames_literalType (value : Json) : value.literalType.typeNames = [] := by
  induction value with
  | null => rfl
  | boolean value => cases value <;> rfl
  | number value =>
      simp [literalType, TypeExpression.typeNames, TypeExpression.leaves, Leaf.typeName?,
        not_isTypeName_compact]
  | string text => rfl
  | array items ofItems =>
      rw [literalType, literalTypes_eq_map, TypeExpression.typeNames, TypeExpression.leaves,
        TypeExpression.leavesOfItems_eq_flatMap, List.flatMap_map, List.filterMap_cons,
        List.filterMap_flatMap]
      exact List.flatMap_eq_nil_iff.2 ofItems
  | object members ofMembers =>
      rw [literalType, literalMembers_eq_map, TypeExpression.typeNames,
        TypeExpression.leaves_object, List.flatMap_map, List.filterMap_cons,
        List.filterMap_flatMap]
      exact List.flatMap_eq_nil_iff.2 ofMembers

end Json

/-! ## Shapes -/

namespace Shape

theorem typeNames_join (joint : Joint) (types : List TypeExpression) :
    (TypeExpression.join joint types).typeNames = types.flatMap TypeExpression.typeNames := by
  rw [TypeExpression.typeNames, TypeExpression.leaves_join, List.filterMap_flatMap]
  rfl

/-- The names of types in what a shape denotes are its symbols. -/
theorem typeNames_denoted (shape : Shape) :
    shape.denoted.typeNames = shape.symbols.filter isTypeName := by
  induction shape with
  | array items ofItems => exact ofItems
  | object properties others ofProperties ofOthers =>
      rw [denoted_object, TypeExpression.typeNames, TypeExpression.leaves_object,
        List.filterMap_cons, List.flatMap_append, List.filterMap_append, List.flatMap_map,
        List.flatMap_map, List.filterMap_flatMap, List.filterMap_flatMap, symbols_object,
        List.filter_append, List.filter_flatMap, List.filter_flatMap]
      exact congrArg₂ (· ++ ·) (List.flatMap_congr ofProperties)
        (List.flatMap_congr (fun shape isOthers => ofOthers shape (by simpa using isOthers)))
  | enumeration values =>
      by_cases isEmpty : values = []
      · rw [isEmpty]
        rfl
      · rw [denoted_enumeration isEmpty, typeNames_join, List.flatMap_map]
        exact List.flatMap_eq_nil_iff.2 (fun value _ => value.typeNames_literalType)
  | primitive kind => cases kind <;> rfl
  | union members ofMembers =>
      by_cases isEmpty : members = []
      · rw [isEmpty]
        rfl
      · rw [denoted_union isEmpty, typeNames_join, List.flatMap_map, symbols_union,
          List.filter_flatMap]
        exact List.flatMap_congr ofMembers
  | intersection members ofMembers =>
      by_cases isEmpty : members = []
      · rw [isEmpty]
        rfl
      · rw [denoted_intersection isEmpty, typeNames_join, List.flatMap_map, symbols_intersection,
          List.filter_flatMap]
        exact List.flatMap_congr ofMembers
  | named symbol =>
      rw [denoted, symbols, List.filter_singleton]
      by_cases named : isTypeName symbol <;>
        simp [TypeExpression.typeNames, TypeExpression.leaves, Leaf.typeName?, named]
  | unknown => rfl

/-- The text of a shape has its symbols as names of types, if they are words. -/
theorem cites_render {shape : Shape} (words : ∀ symbol ∈ shape.symbols, IsWord symbol.toList)
    (level : Nat) : Cites (render level shape) (shape.symbols.filter isTypeName) := by
  apply Cites.of_denotes (denotes_render words level)
  rw [← typeNames_denoted, TypeExpression.typeNames, TypeExpression.typeNames, leaves_reading]

end Shape

end TypedClient
