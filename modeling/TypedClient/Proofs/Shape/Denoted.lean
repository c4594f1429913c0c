import TypedClient.Proofs.Json.LiteralType
import TypedClient.Proofs.Shape.Renaming
import TypedClient.Shape.Render

/-!
Contract: the type that a shape denotes.

Owns:
- `denoted`, by the members of a shape alone: no text, no parentheses;
- that it is flat, and mentions no value of the code;
- `IsGuarded`, the shapes in which no operand of `[]` or `&` hides several parts behind a union or
  an intersection of one member.

Does not own: the text of a shape, or how it is read.
-/

namespace TypedClient

open TypeText

def Primitive.denoted : Primitive → TypeExpression
  | .string => .word "string"
  | .number => .word "number"
  | .integer => .word "number"
  | .boolean => .word "boolean"
  | .null => .word "null"

namespace Shape

mutual

def denoted : Shape → TypeExpression
  | .array items => .array (denoted items)
  | .object properties none => .object (denotedProperties properties)
  | .object properties (some others) =>
      .object (denotedProperties properties ++ [(.others "string", denoted others)])
  | .enumeration [] => .word "never"
  | .enumeration values => .join .union (values.map Json.literalType)
  | .primitive kind => kind.denoted
  | .union [] => .word "unknown"
  | .union members => .join .union (denotedMembers members)
  | .intersection [] => .word "unknown"
  | .intersection members => .join .intersection (denotedMembers members)
  | .named symbol => .word symbol
  | .unknown => .word "unknown"

def denotedProperties : List (String × Bool × Shape) → List (MemberKey × TypeExpression)
  | [] => []
  | (name, required, shape) :: rest =>
      (.property name (!required), denoted shape) :: denotedProperties rest

def denotedMembers : List Shape → List TypeExpression
  | [] => []
  | member :: rest => denoted member :: denotedMembers rest

end

/-- The shape whose text a shape has: a union of one member has the text of that member, and so has
an intersection of one member that needs no parentheses. -/
def bare : Shape → Shape
  | .union [member] => bare member
  | .intersection [member] =>
      if isJoined member then .intersection [member] else bare member
  | shape => shape

/-- Whether the text of a shape has bars outside of any bracket. -/
def isAlternatives : Shape → Bool
  | .union members => 1 < members.length
  | .enumeration values => 1 < values.length
  | _ => false

/-- No operand hides several parts: what is an operand of `[]`, or one of several operands of `&`,
either has parentheses or does not need them. -/
inductive IsGuarded : Shape → Prop
  | array {items : Shape} (inside : IsGuarded items)
      (operand : items.isJoined = true ∨ items.bare.isJoined = false) : IsGuarded (.array items)
  | object {properties : List (String × Bool × Shape)} {others : Option Shape}
      (inProperties : ∀ property ∈ properties, IsGuarded property.2.2)
      (inOthers : ∀ shape, others = some shape → IsGuarded shape) :
      IsGuarded (.object properties others)
  | enumeration (values : List Json) : IsGuarded (.enumeration values)
  | primitive (kind : Primitive) : IsGuarded (.primitive kind)
  | union {members : List Shape} (inside : ∀ member ∈ members, IsGuarded member) :
      IsGuarded (.union members)
  | intersection {members : List Shape} (inside : ∀ member ∈ members, IsGuarded member)
      (operands : 1 < members.length → ∀ member ∈ members,
        member.isJoined = true ∨ member.bare.isAlternatives = false) :
      IsGuarded (.intersection members)
  | named (symbol : String) : IsGuarded (.named symbol)
  | unknown : IsGuarded .unknown

/-! ## The lists as maps -/

theorem denotedProperties_eq_map (properties : List (String × Bool × Shape)) :
    denotedProperties properties =
      properties.map
        (fun property => (.property property.1 (!property.2.1), denoted property.2.2)) := by
  induction properties with
  | nil => rfl
  | cons property rest inductionHypothesis =>
      change _ :: denotedProperties rest = _
      rw [inductionHypothesis, List.map_cons]

theorem denotedMembers_eq_map (members : List Shape) :
    denotedMembers members = members.map denoted := by
  induction members with
  | nil => rfl
  | cons member rest inductionHypothesis =>
      change _ :: denotedMembers rest = _
      rw [inductionHypothesis, List.map_cons]

theorem denoted_object (properties : List (String × Bool × Shape)) (others : Option Shape) :
    denoted (.object properties others) =
      .object
        (properties.map
            (fun property => (.property property.1 (!property.2.1), denoted property.2.2)) ++
          others.toList.map (fun shape => (.others "string", denoted shape))) := by
  rw [← denotedProperties_eq_map]
  cases others with
  | none => exact congrArg TypeExpression.object (List.append_nil _).symm
  | some shape => rfl

theorem denoted_union {members : List Shape} (nonempty : members ≠ []) :
    denoted (.union members) = .join .union (members.map denoted) := by
  obtain ⟨member, rest, rfl⟩ := List.exists_cons_of_ne_nil nonempty
  rw [← denotedMembers_eq_map]
  rfl

theorem denoted_intersection {members : List Shape} (nonempty : members ≠ []) :
    denoted (.intersection members) = .join .intersection (members.map denoted) := by
  obtain ⟨member, rest, rfl⟩ := List.exists_cons_of_ne_nil nonempty
  rw [← denotedMembers_eq_map]
  rfl

theorem denoted_enumeration {values : List Json} (nonempty : values ≠ []) :
    denoted (.enumeration values) = .join .union (values.map Json.literalType) := by
  obtain ⟨value, rest, rfl⟩ := List.exists_cons_of_ne_nil nonempty
  rfl

/-! ## What shapes denote is flat -/

theorem isFlat_denoted (shape : Shape) : shape.denoted.IsFlat := by
  induction shape with
  | array items inductionHypothesis =>
      rw [denoted]
      exact inductionHypothesis.leaves_ne_nil
  | object properties others =>
      rw [denoted_object]
      exact TypeExpression.isFlat_object _
  | enumeration values =>
      by_cases isEmpty : values = []
      · simp [isEmpty, denoted]
      · rw [denoted_enumeration isEmpty]
        apply TypeExpression.isFlat_join
        · simpa using isEmpty
        · exact List.forall_mem_map.2 (fun value _ => value.isFlat_literalType)
  | primitive kind =>
      cases kind <;> simp [denoted, Primitive.denoted]
  | union members ofMembers =>
      by_cases isEmpty : members = []
      · simp [isEmpty, denoted]
      · rw [denoted_union isEmpty]
        apply TypeExpression.isFlat_join
        · simpa using isEmpty
        · exact List.forall_mem_map.2 ofMembers
  | intersection members ofMembers =>
      by_cases isEmpty : members = []
      · simp [isEmpty, denoted]
      · rw [denoted_intersection isEmpty]
        apply TypeExpression.isFlat_join
        · simpa using isEmpty
        · exact List.forall_mem_map.2 ofMembers
  | named symbol => simp [denoted]
  | unknown => simp [denoted]

end Shape

/-! ## Types that mention no value -/

/-- No part of a type is the type of a value of the code. -/
def TypeText.TypeExpression.IsClosed (type : TypeExpression) : Prop :=
  ∀ name, .value name ∉ type.leaves

theorem TypeText.TypeExpression.isClosed_join {joint : Joint} {types : List TypeExpression}
    (closed : ∀ type ∈ types, type.IsClosed) : (join joint types).IsClosed := by
  intro name mentioned
  rw [leaves_join, List.mem_flatMap] at mentioned
  obtain ⟨type, member, inType⟩ := mentioned
  exact closed type member name inType

theorem TypeText.TypeExpression.isClosed_object {members : List (MemberKey × TypeExpression)}
    (closed : ∀ member ∈ members, member.2.IsClosed) : (object members).IsClosed := by
  intro name mentioned
  rw [leaves_object, List.mem_cons] at mentioned
  obtain ⟨entry, member, inType⟩ := List.mem_flatMap.1 (mentioned.resolve_left nofun)
  exact closed entry member name inType

theorem Json.isClosed_literalType (value : Json) : value.literalType.IsClosed := by
  induction value with
  | boolean value => cases value <;> simp [literalType, TypeExpression.IsClosed,
      TypeExpression.leaves]
  | array items ofItems =>
      intro name mentioned
      rw [literalType, literalTypes_eq_map, TypeExpression.leaves,
        TypeExpression.leavesOfItems_eq_flatMap, List.flatMap_map, List.mem_cons] at mentioned
      obtain ⟨item, member, inType⟩ := List.mem_flatMap.1 (mentioned.resolve_left (by simp))
      exact ofItems item member name inType
  | object members ofMembers =>
      rw [literalType, literalMembers_eq_map]
      exact TypeExpression.isClosed_object (List.forall_mem_map.2 ofMembers)
  | _ => simp [literalType, TypeExpression.IsClosed, TypeExpression.leaves]

theorem Shape.isClosed_denoted (shape : Shape) : shape.denoted.IsClosed := by
  have ofWord : ∀ text, (TypeExpression.word text).IsClosed :=
    fun text => by simp [TypeExpression.IsClosed, TypeExpression.leaves]
  induction shape with
  | array items inductionHypothesis => exact inductionHypothesis
  | object properties others ofProperties ofOthers =>
      rw [denoted_object]
      apply TypeExpression.isClosed_object
      rw [List.forall_mem_append]
      refine ⟨List.forall_mem_map.2 ofProperties, List.forall_mem_map.2 ?_⟩
      exact fun shape isOthers => ofOthers shape (by simpa using isOthers)
  | enumeration values =>
      by_cases isEmpty : values = []
      · rw [isEmpty]
        exact ofWord "never"
      · rw [denoted_enumeration isEmpty]
        apply TypeExpression.isClosed_join
        exact List.forall_mem_map.2 (fun value _ => value.isClosed_literalType)
  | primitive kind => cases kind <;> exact ofWord _
  | union members ofMembers =>
      by_cases isEmpty : members = []
      · rw [isEmpty]
        exact ofWord "unknown"
      · rw [denoted_union isEmpty]
        exact TypeExpression.isClosed_join (List.forall_mem_map.2 ofMembers)
  | intersection members ofMembers =>
      by_cases isEmpty : members = []
      · rw [isEmpty]
        exact ofWord "unknown"
      · rw [denoted_intersection isEmpty]
        exact TypeExpression.isClosed_join (List.forall_mem_map.2 ofMembers)
  | named symbol => exact ofWord symbol
  | unknown => exact ofWord "unknown"

end TypedClient
