import Mathlib.Algebra.BigOperators.Group.List.Basic
import Mathlib.Data.List.Induction
import Mathlib.Data.List.ModifyLast
import TypedClient.Proofs.TypeText.Expression

/-!
Contract: the operands of a type expression.

Owns:
- `Layout`, the alternatives between bars, each with its factors between ampersands, and the type
  that they make together;
- going on with more operands in the last alternative, and changing the last operand;
- that these agree with joining types.

Does not own: how operands are read.
-/

namespace TypedClient.TypeText

/-- The operands read so far: the alternatives, each with its factors. -/
abbrev Layout := List (List TypeExpression)

namespace Layout

/-- The type of some operands: an ampersand binds tighter than a bar. -/
def closed (layout : Layout) : TypeExpression :=
  .join .union (layout.map (.join .intersection))

/-- The operands of two layouts, where the second goes on in the last alternative of the first. -/
def extend : Layout → Layout → Layout
  | [], more => more
  | [factors], [] => [factors]
  | [factors], first :: more => (factors ++ first) :: more
  | alternative :: next :: rest, more => alternative :: extend (next :: rest) more

/-- The last operand changed. -/
def onOperand (change : TypeExpression → TypeExpression) (layout : Layout) : Layout :=
  layout.modifyLast (List.modifyLast change)

def operand? (layout : Layout) : Option TypeExpression :=
  layout.getLast?.bind List.getLast?

/-- No operand is missing, and every operand is flat. -/
structure IsComplete (layout : Layout) : Prop where
  nonempty : layout ≠ []
  factors : ∀ factors ∈ layout, factors ≠ []
  flat : ∀ factors ∈ layout, ∀ type ∈ factors, type.IsFlat

variable {first second third : Layout} {type : TypeExpression}

@[simp] theorem extend_single_nil (factors : List TypeExpression) :
    extend [factors] [] = [factors] := rfl

@[simp] theorem extend_single_cons (factors next : List TypeExpression) (more : Layout) :
    extend [factors] (next :: more) = (factors ++ next) :: more := rfl

@[simp] theorem extend_cons_cons (factors next : List TypeExpression) (rest more : Layout) :
    extend (factors :: next :: rest) more = factors :: extend (next :: rest) more := rfl

theorem extend_nil_singleton (nonempty : second ≠ []) : extend [[]] second = second := by
  cases second with
  | nil => exact absurd rfl nonempty
  | cons factors rest => rfl

theorem extend_nil (layout : Layout) : extend layout [] = layout := by
  induction layout with
  | nil => rfl
  | cons factors rest inductionHypothesis =>
      cases rest with
      | nil => rfl
      | cons next more => rw [extend_cons_cons, inductionHypothesis]

theorem extend_bar (first : Layout) (nonempty : second ≠ []) :
    extend (first ++ [[]]) second = first ++ second := by
  induction first with
  | nil => exact extend_nil_singleton nonempty
  | cons factors rest inductionHypothesis =>
      rw [List.cons_append, List.cons_append, ← inductionHypothesis]
      cases rest <;> rfl

theorem extend_append (first third : Layout) (nonempty : second ≠ []) :
    extend first (second ++ third) = extend first second ++ third := by
  induction first with
  | nil => rfl
  | cons factors rest inductionHypothesis =>
      cases rest with
      | nil =>
          cases second with
          | nil => exact absurd rfl nonempty
          | cons next more => rfl
      | cons next more => rw [extend_cons_cons, inductionHypothesis, extend_cons_cons, List.cons_append]

theorem extend_concat (first second : Layout) (factors : List TypeExpression) :
    extend (first ++ [factors]) second = first ++ extend [factors] second := by
  induction first with
  | nil => rfl
  | cons other rest inductionHypothesis =>
      rw [List.cons_append, List.cons_append, ← inductionHypothesis]
      cases rest <;> rfl

theorem extend_assoc (first third : Layout) (nonempty : second ≠ []) :
    extend (extend first second) third = extend first (extend second third) := by
  induction first with
  | nil => rfl
  | cons factors rest inductionHypothesis =>
      cases rest with
      | nil =>
          cases second with
          | nil => exact absurd rfl nonempty
          | cons next more =>
              cases more with
              | nil => cases third <;> simp
              | cons other others => rfl
      | cons next more =>
          rw [extend_cons_cons, extend_cons_cons, ← inductionHypothesis]
          cases extended : extend (next :: more) second with
          | nil =>
              exfalso
              cases more with
              | nil => cases second <;> simp at extended
              | cons _ _ => simp at extended
          | cons _ _ => rfl

theorem flatten_extend (first second : Layout) :
    (extend first second).flatten = first.flatten ++ second.flatten := by
  induction first with
  | nil => rfl
  | cons factors rest inductionHypothesis =>
      cases rest with
      | nil => cases second <;> simp
      | cons next more =>
          rw [extend_cons_cons, List.flatten_cons, inductionHypothesis, ← List.append_assoc]
          rfl

theorem length_le_extend_left (first second : Layout) :
    first.length ≤ (extend first second).length := by
  induction first with
  | nil => simp
  | cons factors rest inductionHypothesis =>
      cases rest with
      | nil => cases second <;> simp
      | cons next more =>
          rw [extend_cons_cons, List.length_cons, List.length_cons]
          exact Nat.succ_le_succ inductionHypothesis

theorem length_le_extend_right (nonempty : first ≠ []) (second : Layout) :
    second.length ≤ (extend first second).length := by
  obtain ⟨earlier, last, rfl⟩ := List.eq_nil_or_concat first |>.resolve_left nonempty
  rw [List.concat_eq_append, extend_concat]
  cases second <;> simp

/-- Layouts of one alternative each make one alternative together. -/
theorem foldr_extend_of_single {layouts : List Layout} (nonempty : layouts ≠ [])
    (single : ∀ layout ∈ layouts, layout.length = 1) :
    layouts.foldr extend [] = [layouts.flatten.flatten] := by
  induction layouts, nonempty using List.recNeNil with
  | singleton layout =>
      obtain ⟨factors, rfl⟩ := List.length_eq_one_iff.1 (single layout List.mem_cons_self)
      simp
  | cons layout rest several inductionHypothesis =>
      rw [List.forall_mem_cons] at single
      obtain ⟨factors, rfl⟩ := List.length_eq_one_iff.1 single.1
      rw [List.foldr_cons, inductionHypothesis single.2]
      simp

theorem flatten_foldr_extend (layouts : List Layout) :
    (layouts.foldr extend []).flatten = layouts.flatten.flatten := by
  induction layouts with
  | nil => rfl
  | cons layout rest inductionHypothesis =>
      rw [List.foldr_cons, flatten_extend, inductionHypothesis, List.flatten_cons,
        List.flatten_append]

theorem length_le_foldr_extend {layouts : List Layout} {layout : Layout}
    (nonempty : ∀ layout ∈ layouts, layout ≠ []) (member : layout ∈ layouts) :
    layout.length ≤ (layouts.foldr extend []).length := by
  induction layouts with
  | nil => exact absurd member List.not_mem_nil
  | cons first rest inductionHypothesis =>
      rw [List.forall_mem_cons] at nonempty
      rw [List.foldr_cons]
      rcases List.mem_cons.1 member with rfl | later
      · exact length_le_extend_left _ _
      · exact Nat.le_trans (inductionHypothesis nonempty.2 later)
          (length_le_extend_right nonempty.1 _)

theorem onOperand_singleton (change : TypeExpression → TypeExpression) (type : TypeExpression) :
    onOperand change [[type]] = [[change type]] := rfl

/-- Rows without an empty one have as many entries as there are rows, at least. -/
theorem length_le_flatten {α : Type} {rows : List (List α)} (nonempty : ∀ row ∈ rows, row ≠ []) :
    rows.length ≤ rows.flatten.length := by
  have positive : ∀ count ∈ rows.map List.length, 1 ≤ count :=
    List.forall_mem_map.2 (fun row member => List.length_pos_iff.2 (nonempty row member))
  simpa [List.length_flatten] using List.length_le_sum_of_one_le (rows.map List.length) positive

namespace IsComplete

theorem singleton (flat : type.IsFlat) : IsComplete [[type]] where
  nonempty := by simp
  factors := by simp
  flat := by simpa using flat

theorem append (ofFirst : first.IsComplete) (ofSecond : second.IsComplete) :
    IsComplete (first ++ second) where
  nonempty := by simp [ofFirst.nonempty]
  factors := fun factors member =>
    (List.mem_append.1 member).elim (ofFirst.factors factors) (ofSecond.factors factors)
  flat := fun factors member =>
    (List.mem_append.1 member).elim (ofFirst.flat factors) (ofSecond.flat factors)

/-- A complete layout, with its last operand in view. -/
theorem exists_last (complete : first.IsComplete) :
    ∃ earlier factors type, first = earlier ++ [factors ++ [type]] := by
  obtain ⟨earlier, last, rfl⟩ := List.eq_nil_or_concat first |>.resolve_left complete.nonempty
  have hasOperand := complete.factors last (by simp)
  obtain ⟨factors, type, rfl⟩ := List.eq_nil_or_concat last |>.resolve_left hasOperand
  exact ⟨earlier, factors, type, by simp⟩

theorem extend (ofFirst : first.IsComplete) (ofSecond : second.IsComplete) :
    IsComplete (first.extend second) := by
  obtain ⟨earlier, factors, type, rfl⟩ := ofFirst.exists_last
  obtain ⟨next, more, rfl⟩ := List.exists_cons_of_ne_nil ofSecond.nonempty
  have isExtended : Layout.extend (earlier ++ [factors ++ [type]]) (next :: more) =
      earlier ++ (factors ++ [type] ++ next) :: more := extend_concat _ _ _
  rw [isExtended]
  constructor
  · simp
  · intro group member
    rcases List.mem_append.1 member with isEarlier | isLater
    · exact ofFirst.factors group (List.mem_append_left _ isEarlier)
    · rcases List.mem_cons.1 isLater with rfl | isMore
      · simp
      · exact ofSecond.factors group (List.mem_cons_of_mem _ isMore)
  · intro group member type isType
    rcases List.mem_append.1 member with isEarlier | isLater
    · exact ofFirst.flat group (List.mem_append_left _ isEarlier) type isType
    · rcases List.mem_cons.1 isLater with rfl | isMore
      · rcases List.mem_append.1 isType with ofLast | ofNext
        · exact ofFirst.flat _ (List.mem_append_right _ List.mem_cons_self) type ofLast
        · exact ofSecond.flat next List.mem_cons_self type ofNext
      · exact ofSecond.flat group (List.mem_cons_of_mem _ isMore) type isType

end IsComplete

theorem onOperand_concat (change : TypeExpression → TypeExpression) (earlier : Layout)
    (factors : List TypeExpression) (type : TypeExpression) :
    onOperand change (earlier ++ [factors ++ [type]]) = earlier ++ [factors ++ [change type]] := by
  rw [onOperand, List.modifyLast_concat, List.modifyLast_concat]

theorem IsComplete.onOperand {change : TypeExpression → TypeExpression}
    (complete : first.IsComplete)
    (keepsFlat : ∀ type : TypeExpression, type.leaves ≠ [] → (change type).IsFlat) :
    (first.onOperand change).IsComplete := by
  obtain ⟨earlier, factors, type, rfl⟩ := complete.exists_last
  rw [onOperand_concat]
  have flatLast := complete.flat (factors ++ [type]) (by simp)
  constructor
  · simp
  · intro group member
    rcases List.mem_append.1 member with isEarlier | isLast
    · exact complete.factors group (List.mem_append_left _ isEarlier)
    · rw [List.mem_singleton.1 isLast]
      simp
  · intro group member other isOther
    rcases List.mem_append.1 member with isEarlier | isLast
    · exact complete.flat group (List.mem_append_left _ isEarlier) other isOther
    · rw [List.mem_singleton.1 isLast] at isOther
      rcases List.mem_append.1 isOther with isFactor | isChanged
      · exact flatLast other (List.mem_append_left _ isFactor)
      · rw [List.mem_singleton.1 isChanged]
        exact keepsFlat type (flatLast type (by simp)).leaves_ne_nil

theorem extend_onOperand (change : TypeExpression → TypeExpression) (layout : Layout)
    (complete : second.IsComplete) :
    onOperand change (extend layout second) = extend layout (onOperand change second) := by
  obtain ⟨earlier, factors, type, rfl⟩ := complete.exists_last
  rw [onOperand_concat]
  cases earlier with
  | nil =>
      cases List.eq_nil_or_concat layout with
      | inl empty => rw [empty]; exact onOperand_concat change [] factors type
      | inr concat =>
          obtain ⟨others, last, rfl⟩ := concat
          rw [List.concat_eq_append]
          have isExtended : ∀ final : TypeExpression,
              extend (others ++ [last]) ([] ++ [factors ++ [final]]) =
                others ++ [(last ++ factors) ++ [final]] := by
            intro final
            rw [extend_concat, List.append_assoc]
            rfl
          rw [isExtended, isExtended, onOperand_concat]
  | cons next more =>
      rw [extend_append _ _ (by simp), onOperand_concat, extend_append _ _ (by simp)]

theorem IsComplete.length_eq_one (complete : first.IsComplete)
    (single : first.flatten.length = 1) : first.length = 1 := by
  have positive := List.length_pos_iff.2 complete.nonempty
  have enough := length_le_flatten complete.factors
  omega

theorem closed_singleton (flat : type.IsFlat) : closed [[type]] = type := by
  rw [closed, List.map_singleton, TypeExpression.join_singleton flat,
    TypeExpression.join_singleton flat]

/-- The operands of several layouts between bars make the union of their types. -/
theorem closed_flatten {layouts : List Layout}
    (complete : ∀ layout ∈ layouts, layout.IsComplete) :
    closed layouts.flatten = .join .union (layouts.map closed) := by
  rw [closed, List.map_flatten, TypeExpression.join_flatten, List.map_map]
  · rfl
  · intro group member
    obtain ⟨layout, isLayout, rfl⟩ := List.mem_map.1 member
    simpa using (complete layout isLayout).nonempty
  · intro group member type isType
    obtain ⟨layout, isLayout, rfl⟩ := List.mem_map.1 member
    obtain ⟨factors, isFactors, rfl⟩ := List.mem_map.1 isType
    exact TypeExpression.isFlat_join ((complete layout isLayout).factors factors isFactors)
      ((complete layout isLayout).flat factors isFactors)

theorem IsComplete.isFlat_alternatives (complete : first.IsComplete) :
    ∀ type ∈ List.map (TypeExpression.join .intersection) first, type.IsFlat := by
  intro type member
  obtain ⟨factors, isFactors, rfl⟩ := List.mem_map.1 member
  exact TypeExpression.isFlat_join (complete.factors factors isFactors)
    (complete.flat factors isFactors)

theorem IsComplete.isFlat_closed (complete : first.IsComplete) : first.closed.IsFlat := by
  apply TypeExpression.isFlat_join
  · simpa using complete.nonempty
  · exact complete.isFlat_alternatives

theorem closed_single {factors : List TypeExpression} (complete : IsComplete [factors]) :
    closed [factors] = .join .intersection factors :=
  TypeExpression.join_singleton (complete.isFlat_alternatives _ (by simp))

/-- Two alternatives at least make a union. -/
theorem IsComplete.closed_of_several (complete : first.IsComplete) (several : 2 ≤ first.length) :
    ∃ all, first.closed = .joined .union all := by
  apply TypeExpression.join_several
  · rwa [List.length_map]
  · exact complete.isFlat_alternatives

/-- Two operands at least make a union or an intersection. -/
theorem IsComplete.closed_of_operands (complete : first.IsComplete)
    (several : 2 ≤ first.flatten.length) : ∃ joint all, first.closed = .joined joint all := by
  by_cases alternatives : 2 ≤ first.length
  · obtain ⟨all, isUnion⟩ := complete.closed_of_several alternatives
    exact ⟨.union, all, isUnion⟩
  · have positive := List.length_pos_iff.2 complete.nonempty
    obtain ⟨factors, rfl⟩ := List.length_eq_one_iff.1 (by omega : first.length = 1)
    rw [closed_single complete]
    rw [List.flatten_singleton] at several
    obtain ⟨all, isIntersection⟩ := TypeExpression.join_several .intersection several
      (complete.flat factors List.mem_cons_self)
    exact ⟨.intersection, all, isIntersection⟩

theorem IsComplete.operands_pos (complete : first.IsComplete) : 0 < first.flatten.length := by
  obtain ⟨earlier, factors, type, rfl⟩ := complete.exists_last
  rw [List.flatten_append, List.flatten_singleton, List.length_append, List.length_append,
    List.length_singleton]
  omega

/-- One operand in all. -/
theorem IsComplete.eq_singleton (complete : first.IsComplete) (single : first.flatten.length = 1) :
    ∃ type, type.IsFlat ∧ first = [[type]] := by
  obtain ⟨earlier, factors, type, rfl⟩ := complete.exists_last
  have noEarlier : earlier = [] := by
    cases earlier with
    | nil => rfl
    | cons group rest =>
        have nonempty := List.length_pos_iff.2 (complete.factors group (by simp))
        simp only [List.cons_append, List.flatten_cons, List.flatten_append, List.flatten_nil,
          List.append_nil, List.length_append, List.length_singleton] at single
        omega
  subst noEarlier
  have noFactors : factors = [] := by
    rw [List.nil_append, List.flatten_singleton, List.length_append, List.length_singleton]
      at single
    exact List.length_eq_zero_iff.1 (by omega)
  subst noFactors
  exact ⟨type, complete.flat _ List.mem_cons_self type List.mem_cons_self, rfl⟩

/-- The operands of several layouts between ampersands make the intersection of their types, if
none of them has several alternatives. -/
theorem closed_foldr_extend {layouts : List Layout} (nonempty : layouts ≠ [])
    (complete : ∀ layout ∈ layouts, layout.IsComplete)
    (single : ∀ layout ∈ layouts, layout.length = 1) :
    closed (layouts.foldr extend []) = .join .intersection (layouts.map closed) := by
  obtain ⟨groups, rfl⟩ : ∃ groups : List (List TypeExpression),
      layouts = groups.map (fun factors => [factors]) := by
    refine ⟨layouts.map List.flatten, ?_⟩
    rw [List.map_map]
    refine (List.map_id _).symm.trans (List.map_congr_left (fun layout member => ?_))
    obtain ⟨factors, rfl⟩ := List.length_eq_one_iff.1 (single layout member)
    simp
  rw [List.forall_mem_map] at complete
  have several : groups ≠ [] := by simpa using nonempty
  have factorsNonempty : ∀ factors ∈ groups, factors ≠ [] :=
    fun factors member => (complete factors member).factors factors List.mem_cons_self
  have factorsFlat : ∀ factors ∈ groups, ∀ type ∈ factors, type.IsFlat :=
    fun factors member => (complete factors member).flat factors List.mem_cons_self
  have wholeComplete : IsComplete [groups.flatten] := by
    constructor
    · simp
    · obtain ⟨factors, rest, rfl⟩ := List.exists_cons_of_ne_nil several
      simp [factorsNonempty factors List.mem_cons_self]
    · intro whole isWhole type isType
      rw [List.mem_singleton.1 isWhole] at isType
      obtain ⟨factors, isFactors, inFactors⟩ := List.mem_flatten.1 isType
      exact factorsFlat factors isFactors type inFactors
  have ofGroups : (groups.map (fun factors => [factors])).map closed =
      groups.map (.join .intersection) := by
    rw [List.map_map]
    exact List.map_congr_left (fun factors member => closed_single (complete factors member))
  rw [foldr_extend_of_single nonempty single, ← List.flatMap_def, List.flatMap_singleton',
    closed_single wholeComplete, ofGroups,
    TypeExpression.join_flatten factorsNonempty factorsFlat]

theorem IsComplete.length_flatten_onOperand {change : TypeExpression → TypeExpression}
    (complete : first.IsComplete) :
    (first.onOperand change).flatten.length = first.flatten.length := by
  obtain ⟨earlier, factors, type, rfl⟩ := complete.exists_last
  rw [onOperand_concat]
  simp

/-- Brackets make an array of a whole type only if it is one operand. -/
theorem IsComplete.closed_onOperand_array (complete : first.IsComplete) :
    (first.onOperand .array).closed = .array type ↔
      first.flatten.length = 1 ∧ first.closed = type := by
  constructor
  · intro isArray
    have single : first.flatten.length = 1 := by
      by_contra several
      have positive := complete.operands_pos
      have completeChanged : (first.onOperand .array).IsComplete :=
        complete.onOperand (fun _ solid => solid)
      obtain ⟨joint, all, isJoined⟩ := completeChanged.closed_of_operands
        (by rw [complete.length_flatten_onOperand]; omega)
      rw [isArray] at isJoined
      cases isJoined
    refine ⟨single, ?_⟩
    obtain ⟨operand, flat, rfl⟩ := complete.eq_singleton single
    have flatArray : (TypeExpression.array operand).IsFlat := flat.leaves_ne_nil
    rw [onOperand_singleton, closed_singleton flatArray, TypeExpression.array.injEq] at isArray
    rw [closed_singleton flat, isArray]
  · rintro ⟨single, rfl⟩
    obtain ⟨operand, flat, rfl⟩ := complete.eq_singleton single
    have flatArray : (TypeExpression.array operand).IsFlat := flat.leaves_ne_nil
    rw [onOperand_singleton, closed_singleton flatArray, closed_singleton flat]

theorem leaves_closed (layout : Layout) :
    layout.closed.leaves = layout.flatten.flatMap TypeExpression.leaves := by
  rw [closed, TypeExpression.leaves_join, List.flatMap_map, ← List.flatMap_id, List.flatMap_assoc]
  exact List.flatMap_congr (fun factors _ => TypeExpression.leaves_join _ factors)

theorem leaves_foldr_extend (layouts : List Layout) :
    (layouts.foldr extend []).closed.leaves =
      layouts.flatMap (fun layout => layout.closed.leaves) := by
  rw [leaves_closed, flatten_foldr_extend]
  induction layouts with
  | nil => rfl
  | cons layout rest inductionHypothesis =>
      rw [List.flatten_cons, List.flatten_append, List.flatMap_append, inductionHypothesis,
        List.flatMap_cons, leaves_closed]

theorem leaves_onOperand {change : TypeExpression → TypeExpression}
    (keepsLeaves : ∀ type, (change type).leaves = type.leaves) (complete : first.IsComplete) :
    (first.onOperand change).closed.leaves = first.closed.leaves := by
  obtain ⟨earlier, factors, type, rfl⟩ := complete.exists_last
  rw [onOperand_concat, leaves_closed, leaves_closed]
  simp [keepsLeaves]

end Layout

end TypedClient.TypeText
