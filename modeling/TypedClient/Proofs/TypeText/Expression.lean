import Mathlib.Data.List.Basic
import Mathlib.Data.List.Flatten
import Mathlib.Tactic.Common

/-!
Contract: types as they are read, up to how unions and intersections are nested.

Owns:
- `TypeExpression`, and `join`, the union or intersection of some types: one that is a union or an
  intersection itself contributes its parts, and a single type stands for itself;
- `leaves`, what a type is made of apart from parentheses and operators;
- that joining in groups is joining, and that equal joins of types with equally many leaves have
  equal parts.

Does not own: the text of a type.
-/

namespace TypedClient.TypeText

/-- How types are joined. -/
inductive Joint where
  | union
  | intersection
deriving DecidableEq, Repr

/-- What a member of an object type is for. -/
inductive MemberKey where
  | property (name : String) (isOptional : Bool)
  /-- All further properties, with the type of their keys. -/
  | others (keyType : String)
deriving DecidableEq, Repr

inductive TypeExpression where
  /-- A name, a keyword or a number. -/
  | word (text : String)
  /-- A literal between quotation marks. -/
  | quoted (value : String)
  | array (items : TypeExpression)
  | tuple (items : List TypeExpression)
  | object (members : List (MemberKey × TypeExpression))
  | joined (joint : Joint) (parts : List TypeExpression)
  /-- A generic type with its arguments. -/
  | application (name : String) (arguments : List TypeExpression)
  /-- The type of a value. -/
  | typeOf (value : String)
  | element (list : TypeExpression) (index : String)
deriving Repr, Inhabited

/-- What a type is made of, apart from parentheses and operators. -/
inductive Leaf where
  | word (text : String)
  | quoted (value : String)
  | value (name : String)
  | brackets
  | braces
deriving DecidableEq, Repr

namespace TypeExpression

mutual

def leaves : TypeExpression → List Leaf
  | .word text => [.word text]
  | .quoted value => [.quoted value]
  | .array items => leaves items
  | .tuple items => .brackets :: leavesOfItems items
  | .object members => .braces :: leavesOfMembers members
  | .joined _ parts => leavesOfItems parts
  | .application name arguments => .word name :: leavesOfItems arguments
  | .typeOf value => [.value value]
  | .element list _ => leaves list

def leavesOfItems : List TypeExpression → List Leaf
  | [] => []
  | item :: rest => leaves item ++ leavesOfItems rest

def leavesOfMembers : List (MemberKey × TypeExpression) → List Leaf
  | [] => []
  | (_, type) :: rest => leaves type ++ leavesOfMembers rest

end

theorem leavesOfItems_eq_flatMap (items : List TypeExpression) :
    leavesOfItems items = items.flatMap leaves := by
  induction items with
  | nil => rfl
  | cons item rest inductionHypothesis =>
      change _ ++ leavesOfItems rest = _
      rw [inductionHypothesis, List.flatMap_cons]

theorem leavesOfMembers_eq_flatMap (members : List (MemberKey × TypeExpression)) :
    leavesOfMembers members = members.flatMap (fun member => leaves member.2) := by
  induction members with
  | nil => rfl
  | cons member rest inductionHypothesis =>
      change _ ++ leavesOfMembers rest = _
      rw [inductionHypothesis, List.flatMap_cons]

theorem leaves_object (members : List (MemberKey × TypeExpression)) :
    (object members).leaves = .braces :: members.flatMap (fun member => member.2.leaves) :=
  congrArg (Leaf.braces :: ·) (leavesOfMembers_eq_flatMap members)

theorem leaves_joined (joint : Joint) (parts : List TypeExpression) :
    (joined joint parts).leaves = parts.flatMap leaves :=
  leavesOfItems_eq_flatMap parts

/-- The parts that a type contributes to a union or an intersection. -/
def parts (joint : Joint) : TypeExpression → List TypeExpression
  | .joined other parts => if other = joint then parts else [.joined other parts]
  | type => [type]

/-- The union or intersection of some types. -/
def join (joint : Joint) (types : List TypeExpression) : TypeExpression :=
  match types.flatMap (parts joint) with
  | [type] => type
  | all => .joined joint all

/-- Joints have two parts at least, none of them of the same joint, and something is joined. -/
def IsFlat : TypeExpression → Prop
  | .joined joint all =>
      2 ≤ all.length ∧ ∀ part ∈ all, part.parts joint = [part] ∧ part.leaves ≠ []
  | type => type.leaves ≠ []

@[simp] theorem isFlat_word (text : String) : (word text).IsFlat := List.cons_ne_nil _ _

@[simp] theorem isFlat_quoted (value : String) : (quoted value).IsFlat := List.cons_ne_nil _ _

@[simp] theorem isFlat_tuple (items : List TypeExpression) : (tuple items).IsFlat :=
  List.cons_ne_nil _ _

@[simp] theorem isFlat_object (members : List (MemberKey × TypeExpression)) :
    (object members).IsFlat :=
  List.cons_ne_nil _ _

variable {joint : Joint} {type other : TypeExpression} {types : List TypeExpression}

theorem leaves_parts (joint : Joint) (type : TypeExpression) :
    (type.parts joint).flatMap leaves = type.leaves := by
  cases type with
  | joined other all =>
      by_cases same : other = joint <;> simp [parts, same, leaves_joined]
  | _ => simp [parts]

theorem leaves_join (joint : Joint) (types : List TypeExpression) :
    (join joint types).leaves = types.flatMap leaves := by
  have ofParts : (types.flatMap (parts joint)).flatMap leaves = types.flatMap leaves := by
    rw [List.flatMap_assoc]
    exact List.flatMap_congr (fun type _ => leaves_parts joint type)
  rw [← ofParts, join]
  split
  · rename_i type isSingle
    rw [isSingle, List.flatMap_singleton]
  · exact leaves_joined _ _

theorem IsFlat.leaves_ne_nil (flat : type.IsFlat) : type.leaves ≠ [] := by
  cases type with
  | joined joint all =>
      obtain ⟨several, ofParts⟩ := flat
      obtain ⟨part, member⟩ := List.exists_mem_of_length_pos (by omega : 0 < all.length)
      intro empty
      rw [leaves_joined, List.flatMap_eq_nil_iff] at empty
      exact (ofParts part member).2 (empty part member)
  | _ => exact flat

/-- A flat type contributes itself, or two parts at least. -/
theorem IsFlat.parts_cases (flat : type.IsFlat) (joint : Joint) :
    type.parts joint = [type] ∨
      (type = .joined joint (type.parts joint) ∧ 2 ≤ (type.parts joint).length) := by
  cases type with
  | joined other all =>
      by_cases same : other = joint
      · subst same
        right
        simpa [parts] using flat.1
      · left
        simp [parts, same]
  | _ => exact Or.inl rfl

theorem IsFlat.of_mem_parts (flat : type.IsFlat) (member : other ∈ type.parts joint) :
    other.parts joint = [other] ∧ other.leaves ≠ [] := by
  rcases flat.parts_cases joint with alone | ⟨isJoined, _⟩
  · rw [alone, List.mem_singleton] at member
    rw [member]
    exact ⟨alone, flat.leaves_ne_nil⟩
  · rw [isJoined] at flat
    exact flat.2 other member

theorem IsFlat.parts_ne_nil (flat : type.IsFlat) (joint : Joint) : type.parts joint ≠ [] := by
  intro empty
  apply flat.leaves_ne_nil
  rw [← leaves_parts joint, empty, List.flatMap_nil]

/-- A join of several flat types keeps all their parts, and is flat. -/
theorem join_spec (nonempty : types ≠ []) (flat : ∀ type ∈ types, type.IsFlat) :
    (join joint types).IsFlat ∧ (join joint types).parts joint = types.flatMap (parts joint) := by
  rw [join]
  split
  · rename_i part isSingle
    -- One part in all: there is one type, and it is the part.
    obtain ⟨first, rest, rfl⟩ := List.exists_cons_of_ne_nil nonempty
    rw [List.forall_mem_cons] at flat
    rw [List.flatMap_cons, List.append_eq_singleton_iff] at isSingle
    obtain ⟨empty, _⟩ | ⟨single, restEmpty⟩ := isSingle
    · exact absurd empty (flat.1.parts_ne_nil joint)
    · rw [List.flatMap_cons, restEmpty, List.append_nil, single]
      rcases flat.1.parts_cases joint with alone | ⟨_, several⟩
      · rw [alone, List.singleton_inj] at single
        rw [← single]
        exact ⟨flat.1, alone⟩
      · rw [single] at several
        simp at several
  · rename_i all notSingle
    have ofParts : ∀ part ∈ types.flatMap (parts joint),
        part.parts joint = [part] ∧ part.leaves ≠ [] := by
      intro part member
      obtain ⟨type, isType, isPart⟩ := List.mem_flatMap.1 member
      exact (flat type isType).of_mem_parts isPart
    refine ⟨⟨?_, ofParts⟩, by simp [parts]⟩
    obtain ⟨first, rest, rfl⟩ := List.exists_cons_of_ne_nil nonempty
    have firstParts : (first.parts joint) ≠ [] := (flat first List.mem_cons_self).parts_ne_nil joint
    have positive := List.length_pos_iff.2 firstParts
    by_contra few
    have one : ((first :: rest).flatMap (parts joint)).length = 1 := by
      rw [List.flatMap_cons, List.length_append] at few ⊢
      omega
    obtain ⟨part, isSingle⟩ := List.length_eq_one_iff.1 one
    exact notSingle part isSingle

theorem isFlat_join (nonempty : types ≠ []) (flat : ∀ type ∈ types, type.IsFlat) :
    (join joint types).IsFlat :=
  (join_spec nonempty flat).1

theorem parts_join (nonempty : types ≠ []) (flat : ∀ type ∈ types, type.IsFlat) :
    (join joint types).parts joint = types.flatMap (parts joint) :=
  (join_spec nonempty flat).2

/-- Several types joined are a join indeed. -/
theorem join_several (joint : Joint) (several : 2 ≤ types.length)
    (flat : ∀ type ∈ types, type.IsFlat) : ∃ all, join joint types = .joined joint all := by
  match types, several with
  | first :: second :: rest, _ =>
    have ofFirst := List.length_pos_iff.2 ((flat first (by simp)).parts_ne_nil joint)
    have ofSecond := List.length_pos_iff.2 ((flat second (by simp)).parts_ne_nil joint)
    rw [join]
    split
    · rename_i single
      have length := congrArg List.length single
      rw [List.flatMap_cons, List.flatMap_cons, List.length_append, List.length_append,
        List.length_singleton] at length
      omega
    · exact ⟨_, rfl⟩

theorem IsFlat.flatMap_parts (flat : type.IsFlat) :
    (type.parts joint).flatMap (parts joint) = type.parts joint := by
  conv_rhs => rw [← List.flatMap_singleton' (type.parts joint)]
  exact List.flatMap_congr (fun part member => (flat.of_mem_parts member).1)

/-- Only the parts matter for a join. -/
theorem join_congr {first second : List TypeExpression}
    (same : first.flatMap (parts joint) = second.flatMap (parts joint)) :
    join joint first = join joint second := by
  rw [join, same, ← join]

theorem join_parts (joint : Joint) (flat : type.IsFlat) : join joint (type.parts joint) = type := by
  rw [join, flat.flatMap_parts]
  rcases flat.parts_cases joint with alone | ⟨isJoined, several⟩
  · rw [alone]
  · split
    · rename_i single
      rw [single] at several
      simp at several
    · exact isJoined.symm

theorem join_singleton (flat : type.IsFlat) : join joint [type] = type := by
  have sameParts : [type].flatMap (parts joint) = (type.parts joint).flatMap (parts joint) := by
    rw [List.flatMap_singleton, flat.flatMap_parts]
  rw [join_congr sameParts, join_parts joint flat]

/-- Joining in groups is joining. -/
theorem join_flatten {groups : List (List TypeExpression)} (nonempty : ∀ group ∈ groups, group ≠ [])
    (flat : ∀ group ∈ groups, ∀ type ∈ group, type.IsFlat) :
    join joint groups.flatten = join joint (groups.map (join joint)) := by
  apply join_congr
  rw [List.flatMap_map, ← List.flatMap_id, List.flatMap_assoc]
  refine List.flatMap_congr (fun group member => ?_)
  exact (parts_join (nonempty group member) (flat group member)).symm

/-- Two rows of types with the same parts in all, of which the first ones have equally many leaves,
begin with the same parts. -/
theorem append_inj_of_leaves {first second rest more : List TypeExpression}
    (solid : ∀ type ∈ first ++ second, type.leaves ≠ [])
    (same : first ++ rest = second ++ more)
    (sameLeaves : first.flatMap leaves = second.flatMap leaves) : first = second ∧ rest = more := by
  have noneBetween : ∀ between : List TypeExpression, (∀ type ∈ between, type.leaves ≠ []) →
      between.flatMap leaves = [] → between = [] := by
    intro between solid empty
    rw [List.flatMap_eq_nil_iff] at empty
    cases between with
    | nil => rfl
    | cons type _ => exact absurd (empty type List.mem_cons_self) (solid type List.mem_cons_self)
  rcases List.append_eq_append_iff.1 same with ⟨between, rfl, rfl⟩ | ⟨between, rfl, rfl⟩
  · rw [List.flatMap_append, List.self_eq_append_right] at sameLeaves
    have empty := noneBetween between (fun type member => solid type (by simp [member])) sameLeaves
    simp [empty]
  · rw [List.flatMap_append, List.append_right_eq_self] at sameLeaves
    have empty := noneBetween between (fun type member => solid type (by simp [member])) sameLeaves
    simp [empty]

/-- Equal joins have equal types, if these are made of the same leaves one by one. -/
theorem join_map_inj {α : Type} {members : List α} {first second : α → TypeExpression}
    (flatFirst : ∀ member ∈ members, (first member).IsFlat)
    (flatSecond : ∀ member ∈ members, (second member).IsFlat)
    (sameLeaves : ∀ member ∈ members, (first member).leaves = (second member).leaves)
    (same : join joint (members.map first) = join joint (members.map second)) :
    ∀ member ∈ members, first member = second member := by
  cases isEmpty : members with
  | nil => simp
  | cons someMember someRest =>
  rw [← isEmpty]
  have nonempty : members ≠ [] := by simp [isEmpty]
  have sameParts := congrArg (parts joint) same
  rw [parts_join (by simpa using nonempty) (by simpa using flatFirst),
    parts_join (by simpa using nonempty) (by simpa using flatSecond), List.flatMap_map,
    List.flatMap_map] at sameParts
  clear same nonempty isEmpty someMember someRest
  induction members with
  | nil => simp
  | cons member rest inductionHypothesis =>
      rw [List.forall_mem_cons] at flatFirst flatSecond sameLeaves ⊢
      rw [List.flatMap_cons, List.flatMap_cons] at sameParts
      have solid : ∀ type ∈ (first member).parts joint ++ (second member).parts joint,
          type.leaves ≠ [] := by
        intro type isPart
        rcases List.mem_append.1 isPart with ofFirst | ofSecond
        · exact (flatFirst.1.of_mem_parts ofFirst).2
        · exact (flatSecond.1.of_mem_parts ofSecond).2
      obtain ⟨here, later⟩ := append_inj_of_leaves solid sameParts
        (by rw [leaves_parts, leaves_parts, sameLeaves.1])
      refine ⟨?_, inductionHypothesis flatFirst.2 flatSecond.2 sameLeaves.2 later⟩
      rw [← join_parts joint flatFirst.1, here, join_parts joint flatSecond.1]

end TypeExpression

end TypedClient.TypeText
