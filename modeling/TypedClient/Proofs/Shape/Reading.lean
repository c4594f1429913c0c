import TypedClient.Proofs.Shape.Denoted
import TypedClient.Proofs.Shape.Spelling
import TypedClient.Proofs.TypeText.Denotation

/-!
Contract: reading the text of a shape back.

Owns:
- the operands with which the text of a shape is read, and that they are made of the same leaves as
  the type that the shape denotes;
- that the text is read as that type exactly for the guarded shapes.

Does not own: how texts become tokens, and how tokens are read.
-/

namespace TypedClient.Shape

open TypeText

/-- The operands of an operand: parentheses make one of them. -/
def operandLayout (joined : Bool) (layout : Layout) : Layout :=
  if joined then [[layout.closed]] else layout

mutual

/-- The operands with which the text of a shape is read. -/
def layout : Shape → Layout
  | .array items => (operandLayout (isJoined items) (layout items)).onOperand .array
  | .object properties none => [[.object (readProperties properties)]]
  | .object properties (some others) =>
      [[.object (readProperties properties ++ [(.others "string", (layout others).closed)])]]
  | .enumeration [] => [[.word "never"]]
  | .enumeration values => values.map (fun value => [value.literalType])
  | .primitive kind => [[.word kind.typeName]]
  | .union [] => [[.word "unknown"]]
  | .union members => (layoutsOfMembers members).flatten
  | .intersection [] => [[.word "unknown"]]
  | .intersection members => (layoutsOfOperands members).foldr Layout.extend []
  | .named symbol => [[.word symbol]]
  | .unknown => [[.word "unknown"]]

def readProperties : List (String × Bool × Shape) → List (MemberKey × TypeExpression)
  | [] => []
  | (name, required, shape) :: rest =>
      (.property name (!required), (layout shape).closed) :: readProperties rest

def layoutsOfMembers : List Shape → List Layout
  | [] => []
  | member :: rest => layout member :: layoutsOfMembers rest

def layoutsOfOperands : List Shape → List Layout
  | [] => []
  | member :: rest => operandLayout (isJoined member) (layout member) :: layoutsOfOperands rest

end

/-- The type as which the text of a shape is read. -/
def reading (shape : Shape) : TypeExpression := shape.layout.closed

/-! ## The lists as maps -/

theorem readProperties_eq_map (properties : List (String × Bool × Shape)) :
    readProperties properties =
      properties.map
        (fun property => (.property property.1 (!property.2.1), reading property.2.2)) := by
  induction properties with
  | nil => rfl
  | cons property rest inductionHypothesis =>
      change _ :: readProperties rest = _
      rw [inductionHypothesis, List.map_cons, reading]

theorem layoutsOfMembers_eq_map (members : List Shape) :
    layoutsOfMembers members = members.map layout := by
  induction members with
  | nil => rfl
  | cons member rest inductionHypothesis =>
      change _ :: layoutsOfMembers rest = _
      rw [inductionHypothesis, List.map_cons]

theorem layoutsOfOperands_eq_map (members : List Shape) :
    layoutsOfOperands members =
      members.map (fun member => operandLayout (isJoined member) (layout member)) := by
  induction members with
  | nil => rfl
  | cons member rest inductionHypothesis =>
      change _ :: layoutsOfOperands rest = _
      rw [inductionHypothesis, List.map_cons]

theorem layout_object (properties : List (String × Bool × Shape)) (others : Option Shape) :
    layout (.object properties others) =
      [[.object
        (properties.map
            (fun property => (.property property.1 (!property.2.1), reading property.2.2)) ++
          others.toList.map (fun shape => (.others "string", reading shape)))]] := by
  rw [← readProperties_eq_map]
  cases others with
  | none =>
      rw [Option.toList_none, List.map_nil, List.append_nil]
      rfl
  | some shape => rfl

theorem layout_union {members : List Shape} (nonempty : members ≠ []) :
    layout (.union members) = members.flatMap layout := by
  obtain ⟨member, rest, rfl⟩ := List.exists_cons_of_ne_nil nonempty
  rw [List.flatMap, ← layoutsOfMembers_eq_map]
  rfl

theorem layout_intersection {members : List Shape} (nonempty : members ≠ []) :
    layout (.intersection members) =
      (members.map (fun member => operandLayout (isJoined member) (layout member))).foldr
        Layout.extend [] := by
  obtain ⟨member, rest, rfl⟩ := List.exists_cons_of_ne_nil nonempty
  rw [← layoutsOfOperands_eq_map]
  rfl

/-! ## The tokens are read with the layout -/

theorem reads_operand {tokens : List Token} {layout : Layout} (joined : Bool)
    (reads : Reads tokens layout) :
    Reads (operandTokens joined tokens) (operandLayout joined layout) := by
  cases joined with
  | true => exact reads.group
  | false => exact reads

theorem readsMember_property {type : List Token} {layout : Layout} (name : String)
    (required : Bool) (reads : Reads type layout) :
    ReadsMember (propertyTokens name required type)
      (.property name (!required), layout.closed) := by
  have readsKey : ∀ earlier frames,
      State.run ⟨.members earlier, frames⟩
          (keyToken name :: (if required then [] else [.question]) ++ [.colon]) =
        some (State.stepMember earlier (.property name (!required)) frames) := by
    intro earlier frames
    unfold keyToken
    cases required <;> split <;> rfl
  simpa [propertyTokens] using ReadsMember.of_key readsKey reads

theorem readsMember_signature {type : List Token} {layout : Layout} (reads : Reads type layout) :
    ReadsMember (signatureTokens type) (.others "string", layout.closed) :=
  .of_key (fun _ _ => rfl) reads

theorem reads_tokens (shape : Shape) : Reads shape.tokens shape.layout := by
  induction shape with
  | array items ofItems =>
      rw [tokens, layout]
      exact (reads_operand _ ofItems).array
  | object properties others ofProperties ofOthers =>
      let lines : List (List Token × (MemberKey × TypeExpression)) :=
        properties.map (fun property =>
          (propertyTokens property.1 property.2.1 (tokens property.2.2),
            (.property property.1 (!property.2.1), reading property.2.2))) ++
        others.toList.map (fun shape =>
          (signatureTokens (tokens shape), (.others "string", reading shape)))
      have ofLines : ∀ line ∈ lines, ReadsMember line.1 line.2 := by
        intro line isLine
        rcases List.mem_append.1 isLine with isProperty | isOthers
        · obtain ⟨property, member, rfl⟩ := List.mem_map.1 isProperty
          exact readsMember_property _ _ (ofProperties property member)
        · obtain ⟨shape, member, rfl⟩ := List.mem_map.1 isOthers
          exact readsMember_signature (ofOthers shape (by simpa using member))
      have whole := Reads.object_terminated ofLines
      rw [layout_object]
      cases others <;>
        simpa [lines, tokens, tokensOfProperties_eq_flatMap, List.flatMap_map,
          Function.comp_def] using whole
  | enumeration values =>
      cases values with
      | nil => exact .word "never"
      | cons value rest =>
          have asUnion := Reads.bars (List.cons_ne_nil value rest)
            (fun other _ => other.reads_tokens)
          rw [← List.map_eq_flatMap] at asUnion
          exact asUnion
  | primitive kind => exact .word _
  | union members ofMembers =>
      cases members with
      | nil => exact .word "unknown"
      | cons member rest =>
          rw [layout_union (by simp), tokens, tokensOfMembers_eq_map]
          · exact .bars (by simp) ofMembers
          · simp
  | intersection members ofMembers =>
      cases members with
      | nil => exact .word "unknown"
      | cons member rest =>
          rw [layout_intersection (by simp), tokens, tokensOfOperands_eq_map]
          · exact .ampersands (by simp)
              (fun other isMember => reads_operand _ (ofMembers other isMember))
          · simp
  | named symbol => exact .word symbol
  | unknown => exact .word "unknown"

theorem isComplete_layout (shape : Shape) : shape.layout.IsComplete := shape.reads_tokens.isComplete

theorem isFlat_reading (shape : Shape) : shape.reading.IsFlat :=
  shape.isComplete_layout.isFlat_closed

theorem isComplete_operandLayout (joined : Bool) (shape : Shape) :
    (operandLayout joined shape.layout).IsComplete :=
  (reads_operand joined shape.reads_tokens).isComplete

theorem closed_operandLayout (joined : Bool) (shape : Shape) :
    (operandLayout joined shape.layout).closed = shape.reading := by
  cases joined with
  | true => exact Layout.closed_singleton shape.isFlat_reading
  | false => rfl

theorem reading_union {members : List Shape} (nonempty : members ≠ []) :
    reading (.union members) = .join .union (members.map reading) := by
  have complete : ∀ layout ∈ members.map Shape.layout, layout.IsComplete :=
    List.forall_mem_map.2 (fun member _ => member.isComplete_layout)
  rw [reading, layout_union nonempty, List.flatMap_def, Layout.closed_flatten complete,
    List.map_map]
  rfl

theorem reading_enumeration (values : List Json) :
    reading (.enumeration values) = denoted (.enumeration values) := by
  cases values with
  | nil => rfl
  | cons value rest =>
      have ofValues : ((value :: rest).map (fun other => [other.literalType])).map
          (.join .intersection) = (value :: rest).map Json.literalType := by
        rw [List.map_map]
        exact List.map_congr_left
          (fun other _ => TypeExpression.join_singleton other.isFlat_literalType)
      rw [denoted_enumeration (by simp), ← ofValues]
      rfl

theorem reading_array (items : Shape) (type : TypeExpression) :
    reading (.array items) = .array type ↔
      (operandLayout items.isJoined items.layout).flatten.length = 1 ∧ items.reading = type := by
  rw [reading, layout, (isComplete_operandLayout _ items).closed_onOperand_array,
    closed_operandLayout]

/-! ## The leaves of a reading -/

theorem leaves_reading (shape : Shape) : shape.reading.leaves = shape.denoted.leaves := by
  induction shape with
  | array items ofItems =>
      have keepsLeaves : ∀ type : TypeExpression, type.array.leaves = type.leaves := fun _ => rfl
      rw [reading, layout,
        Layout.leaves_onOperand keepsLeaves (isComplete_operandLayout _ items),
        closed_operandLayout, ofItems, denoted, TypeExpression.leaves]
  | object properties others ofProperties ofOthers =>
      rw [reading, layout_object, Layout.closed_singleton (by simp), denoted_object,
        TypeExpression.leaves_object, TypeExpression.leaves_object, List.flatMap_append,
        List.flatMap_append, List.flatMap_map, List.flatMap_map, List.flatMap_map,
        List.flatMap_map, List.flatMap_congr ofProperties]
      cases others with
      | none => rfl
      | some shape => simp [ofOthers shape rfl]
  | enumeration values => rw [reading_enumeration]
  | primitive kind => cases kind <;> rfl
  | union members ofMembers =>
      by_cases isEmpty : members = []
      · rw [isEmpty]
        rfl
      · rw [reading_union isEmpty, denoted_union isEmpty, TypeExpression.leaves_join,
          TypeExpression.leaves_join, List.flatMap_map, List.flatMap_map]
        exact List.flatMap_congr ofMembers
  | intersection members ofMembers =>
      by_cases isEmpty : members = []
      · rw [isEmpty]
        rfl
      · rw [reading, layout_intersection isEmpty, denoted_intersection isEmpty,
          Layout.leaves_foldr_extend, TypeExpression.leaves_join, List.flatMap_map,
          List.flatMap_map]
        refine List.flatMap_congr (fun member isMember => ?_)
        rw [closed_operandLayout, ofMembers member isMember]
  | named symbol => rfl
  | unknown => rfl

/-! ## Operands that hide nothing -/

theorem layout_bare (shape : Shape) : shape.bare.layout = shape.layout := by
  fun_induction bare shape with
  | case1 member inductionHypothesis =>
      rw [inductionHypothesis, layout_union (by simp), List.flatMap_singleton]
  | case2 member joined => rfl
  | case3 member notJoined inductionHypothesis =>
      rw [inductionHypothesis, layout_intersection (by simp)]
      simp [operandLayout, notJoined, Layout.extend_nil]
  | case4 => rfl

theorem two_le_length_of_isAlternatives {shape : Shape} (several : shape.isAlternatives = true) :
    2 ≤ shape.layout.length := by
  cases shape with
  | union members =>
      have count : 2 ≤ members.length := of_decide_eq_true several
      have nonempty : members ≠ [] := List.length_pos_iff.1 (by omega)
      have rows : ∀ row ∈ members.map layout, row ≠ [] :=
        List.forall_mem_map.2 (fun member _ => member.isComplete_layout.nonempty)
      have enough := Layout.length_le_flatten rows
      rw [List.length_map] at enough
      rw [layout_union nonempty, List.flatMap_def]
      omega
  | enumeration values =>
      have count : 2 ≤ values.length := of_decide_eq_true several
      have nonempty : values ≠ [] := List.length_pos_iff.1 (by omega)
      obtain ⟨value, rest, rfl⟩ := List.exists_cons_of_ne_nil nonempty
      rw [layout, List.length_map]
      · exact count
      · simp
  | _ => cases several

theorem two_le_operands_of_isJoined {shape : Shape} (joined : shape.isJoined = true) :
    2 ≤ shape.layout.flatten.length := by
  have ofAlternatives : shape.isAlternatives = true → 2 ≤ shape.layout.flatten.length :=
    fun several => Nat.le_trans (two_le_length_of_isAlternatives several)
      (Layout.length_le_flatten shape.isComplete_layout.factors)
  cases shape with
  | union members => exact ofAlternatives joined
  | enumeration values => exact ofAlternatives joined
  | intersection members =>
      have count : 2 ≤ members.length := of_decide_eq_true joined
      have nonempty : members ≠ [] := List.length_pos_iff.1 (by omega)
      have rows : ∀ row ∈ members.map
          (fun member => (operandLayout member.isJoined member.layout).flatten), row ≠ [] :=
        List.forall_mem_map.2 (fun member _ =>
          List.length_pos_iff.1 (isComplete_operandLayout _ member).operands_pos)
      have enough := Layout.length_le_flatten rows
      rw [List.length_map] at enough
      rw [layout_intersection nonempty, Layout.flatten_foldr_extend, List.flatten_flatten,
        List.map_map]
      exact Nat.le_trans count enough
  | _ => cases joined

/-- An operand of `&` is one alternative exactly if it has parentheses or no bars. -/
theorem length_operandLayout_iff {member : Shape}
    (single : member.bare.isAlternatives = false → member.layout.length = 1) :
    (operandLayout member.isJoined member.layout).length = 1 ↔
      member.isJoined = true ∨ member.bare.isAlternatives = false := by
  cases joined : member.isJoined with
  | true => exact ⟨fun _ => Or.inl rfl, fun _ => rfl⟩
  | false =>
      refine ⟨fun one => Or.inr ?_, fun noBars => single (noBars.resolve_left nofun)⟩
      by_contra bars
      have several := two_le_length_of_isAlternatives (by simpa using bars)
      rw [layout_bare] at several
      change member.layout.length = 1 at one
      omega

/-- An operand of `[]` is one operand exactly if it has parentheses or no operators. -/
theorem operands_operandLayout_iff {member : Shape}
    (single : member.bare.isJoined = false → member.layout.flatten.length = 1) :
    (operandLayout member.isJoined member.layout).flatten.length = 1 ↔
      member.isJoined = true ∨ member.bare.isJoined = false := by
  cases joined : member.isJoined with
  | true => exact ⟨fun _ => Or.inl rfl, fun _ => rfl⟩
  | false =>
      refine ⟨fun one => Or.inr ?_, fun noOperator => single (noOperator.resolve_left nofun)⟩
      by_contra operators
      have several := two_le_operands_of_isJoined (by simpa using operators)
      rw [layout_bare] at several
      change member.layout.flatten.length = 1 at one
      omega

/-- What a guarded shape has without bars outside of brackets is one alternative, and what it has
without any operator outside of brackets is one operand. -/
theorem IsGuarded.single {shape : Shape} (guarded : shape.IsGuarded) :
    (shape.bare.isAlternatives = false → shape.layout.length = 1) ∧
      (shape.bare.isJoined = false → shape.layout.flatten.length = 1) := by
  induction guarded with
  | @array items inside operand inductionHypothesis =>
      have ofOperand := (operands_operandLayout_iff inductionHypothesis.2).2 operand
      have oneOperand : (layout (.array items)).flatten.length = 1 := by
        rw [layout, (isComplete_operandLayout _ items).length_flatten_onOperand, ofOperand]
      exact ⟨fun _ => (isComplete_layout _).length_eq_one oneOperand, fun _ => oneOperand⟩
  | object inProperties inOthers =>
      rw [layout_object]
      exact ⟨fun _ => rfl, fun _ => rfl⟩
  | enumeration values =>
      match values with
      | [] => exact ⟨fun _ => rfl, fun _ => rfl⟩
      | [value] => exact ⟨fun _ => rfl, fun _ => rfl⟩
      | _ :: _ :: _ => exact ⟨nofun, nofun⟩
  | primitive kind => exact ⟨fun _ => rfl, fun _ => rfl⟩
  | @union members inside inductionHypothesis =>
      match members with
      | [] => exact ⟨fun _ => rfl, fun _ => rfl⟩
      | [member] =>
          rw [bare, layout_union (by simp), List.flatMap_singleton]
          exact inductionHypothesis member List.mem_cons_self
      | _ :: _ :: _ => exact ⟨nofun, nofun⟩
  | @intersection members inside operands inductionHypothesis =>
      match members with
      | [] => exact ⟨fun _ => rfl, fun _ => rfl⟩
      | [member] =>
          have whole : layout (.intersection [member]) =
              operandLayout member.isJoined member.layout := by
            rw [layout_intersection (by simp), List.map_singleton, List.foldr_cons, List.foldr_nil,
              Layout.extend_nil]
          rw [whole, bare]
          cases member.isJoined with
          | true => exact ⟨fun _ => rfl, fun _ => rfl⟩
          | false => exact inductionHypothesis member List.mem_cons_self
      | first :: second :: rest =>
          refine ⟨fun _ => ?_, nofun⟩
          rw [layout_intersection (by simp), Layout.foldr_extend_of_single (by simp)]
          · rfl
          · refine List.forall_mem_map.2 (fun member isMember => ?_)
            exact (length_operandLayout_iff (inductionHypothesis member isMember).1).2
              (operands (by simp) member isMember)
  | named symbol => exact ⟨fun _ => rfl, fun _ => rfl⟩
  | unknown => exact ⟨fun _ => rfl, fun _ => rfl⟩

/-! ## Readings that are what a shape denotes -/

/-- Several operands of `&` are read as their intersection exactly if none of them has bars. -/
theorem reading_intersection_iff {members : List Shape} (several : 1 < members.length) :
    reading (.intersection members) = denoted (.intersection members) ↔
      (∀ member ∈ members, (operandLayout member.isJoined member.layout).length = 1) ∧
        ∀ member ∈ members, member.reading = member.denoted := by
  have nonempty : members ≠ [] := List.length_pos_iff.1 (by omega)
  have complete : ∀ row ∈ members.map (fun member => operandLayout member.isJoined member.layout),
      row.IsComplete :=
    List.forall_mem_map.2 (fun member _ => isComplete_operandLayout _ member)
  have closedRows : (members.map (fun member => operandLayout member.isJoined member.layout)).map
      Layout.closed = members.map reading := by
    rw [List.map_map]
    exact List.map_congr_left (fun member _ => closed_operandLayout _ member)
  have whole : (∀ member ∈ members, (operandLayout member.isJoined member.layout).length = 1) →
      reading (.intersection members) = .join .intersection (members.map reading) := by
    intro single
    rw [reading, layout_intersection nonempty, Layout.closed_foldr_extend (by simpa using nonempty)
      complete (List.forall_mem_map.2 single), closedRows]
  constructor
  · intro same
    have single : ∀ member ∈ members,
        (operandLayout member.isJoined member.layout).length = 1 := by
      -- A member with bars would make the whole a union.
      intro member isMember
      by_contra bars
      have positive := List.length_pos_iff.2
        (isComplete_operandLayout member.isJoined member).nonempty
      have enough := Layout.length_le_foldr_extend (fun row isRow => (complete row isRow).nonempty)
        (List.mem_map_of_mem isMember)
      rw [← layout_intersection nonempty] at enough
      obtain ⟨all, isUnion⟩ :=
        (isComplete_layout (.intersection members)).closed_of_several (by omega)
      have flat : ∀ type ∈ members.map denoted, type.IsFlat :=
        List.forall_mem_map.2 (fun other _ => other.isFlat_denoted)
      obtain ⟨parts, isIntersection⟩ := TypeExpression.join_several .intersection
        (by rw [List.length_map]; omega) flat
      rw [denoted_intersection nonempty, isIntersection, reading, isUnion] at same
      cases same
    refine ⟨single, ?_⟩
    rw [whole single, denoted_intersection nonempty] at same
    exact TypeExpression.join_map_inj (fun member _ => member.isFlat_reading)
      (fun member _ => member.isFlat_denoted) (fun member _ => member.leaves_reading) same
  · rintro ⟨single, same⟩
    rw [whole single, denoted_intersection nonempty, List.map_congr_left same]

/-- The text of a shape is read as the type that the shape denotes exactly if no operand hides
several parts. -/
theorem reading_eq_denoted_iff (shape : Shape) :
    shape.reading = shape.denoted ↔ shape.IsGuarded := by
  induction shape with
  | array items ofItems =>
      rw [denoted, reading_array, ofItems]
      constructor
      · rintro ⟨single, guarded⟩
        exact .array guarded ((operands_operandLayout_iff guarded.single.2).1 single)
      · intro guarded
        cases guarded with
        | array inside operand =>
            exact ⟨(operands_operandLayout_iff inside.single.2).2 operand, inside⟩
  | object properties others ofProperties ofOthers =>
      rw [reading, layout_object, Layout.closed_singleton (by simp), denoted_object,
        TypeExpression.object.injEq]
      constructor
      · intro same
        obtain ⟨sameProperties, sameOthers⟩ := List.append_inj same (by simp)
        rw [List.map_inj_left] at sameProperties sameOthers
        refine .object (fun property member => (ofProperties property member).1 ?_)
          (fun shape isOthers => (ofOthers shape isOthers).1 ?_)
        · exact congrArg Prod.snd (sameProperties property member)
        · exact congrArg Prod.snd (sameOthers shape (by simp [isOthers]))
      · intro guarded
        cases guarded with
        | object inProperties inOthers =>
            congr 1
            · refine List.map_congr_left (fun property member => ?_)
              rw [(ofProperties property member).2 (inProperties property member)]
            · refine List.map_congr_left (fun shape member => ?_)
              have isOthers : others = some shape := by simpa using member
              rw [(ofOthers shape isOthers).2 (inOthers shape isOthers)]
  | enumeration values => exact ⟨fun _ => .enumeration values, fun _ => reading_enumeration values⟩
  | primitive kind =>
      refine ⟨fun _ => .primitive kind, fun _ => ?_⟩
      cases kind <;> rfl
  | union members ofMembers =>
      by_cases isEmpty : members = []
      · subst isEmpty
        exact ⟨fun _ => .union (by simp), fun _ => rfl⟩
      rw [reading_union isEmpty, denoted_union isEmpty]
      constructor
      · intro same
        have each := TypeExpression.join_map_inj (fun member _ => member.isFlat_reading)
          (fun member _ => member.isFlat_denoted) (fun member _ => member.leaves_reading) same
        exact .union (fun member isMember => (ofMembers member isMember).1 (each member isMember))
      · intro guarded
        cases guarded with
        | union inside =>
            congr 1
            exact List.map_congr_left
              (fun member isMember => (ofMembers member isMember).2 (inside member isMember))
  | intersection members ofMembers =>
      rcases members with _ | ⟨member, _ | ⟨second, rest⟩⟩
      · exact ⟨fun _ => .intersection (by simp) (by simp), fun _ => rfl⟩
      · have ofMember := ofMembers member List.mem_cons_self
        have asMember : reading (.intersection [member]) = member.reading := by
          rw [reading, layout_intersection (by simp), List.map_singleton, List.foldr_cons,
            List.foldr_nil, Layout.extend_nil, closed_operandLayout]
        rw [asMember, denoted_intersection (by simp), List.map_singleton,
          TypeExpression.join_singleton member.isFlat_denoted, ofMember]
        constructor
        · exact fun guarded => .intersection (by simpa using guarded) (by simp)
        · intro guarded
          cases guarded with
          | intersection inside operands => exact inside member List.mem_cons_self
      · rw [reading_intersection_iff (by simp)]
        constructor
        · rintro ⟨single, same⟩
          have inside : ∀ part ∈ member :: second :: rest, part.IsGuarded :=
            fun part isPart => (ofMembers part isPart).1 (same part isPart)
          refine .intersection inside (fun _ part isPart => ?_)
          exact (length_operandLayout_iff (inside part isPart).single.1).1
            (single part isPart)
        · intro guarded
          cases guarded with
          | intersection inside operands =>
              refine ⟨fun part isPart => ?_, fun part isPart => ?_⟩
              · exact (length_operandLayout_iff (inside part isPart).single.1).2
                  (operands (by simp) part isPart)
              · exact (ofMembers part isPart).2 (inside part isPart)
  | named symbol => exact ⟨fun _ => .named symbol, fun _ => rfl⟩
  | unknown => exact ⟨fun _ => .unknown, fun _ => rfl⟩

/-! ## From the text to the type -/

theorem isWord_of_mem_tokens {shape : Shape}
    (words : ∀ symbol ∈ shape.symbols, IsWord symbol.toList) :
    ∀ word, .word word ∈ shape.tokens → IsWord word.toList := by
  intro word member
  rcases word_of_mem_tokens member with isSymbol | isWord
  · exact words word isSymbol
  · exact isWord

theorem denotes_render {shape : Shape} (words : ∀ symbol ∈ shape.symbols, IsWord symbol.toList)
    (level : Nat) : Denotes (render level shape) shape.reading :=
  ⟨shape.tokens, shape.layout, shape.writes_render level, isWord_of_mem_tokens words,
    shape.reads_tokens, rfl⟩

theorem scan_render {shape : Shape} (words : ∀ symbol ∈ shape.symbols, IsWord symbol.toList)
    (level : Nat) : scan (render level shape) = some shape.tokens :=
  (shape.writes_render level).spelled.scan (isWord_of_mem_tokens words)

theorem readType_tokens (shape : Shape) : readType shape.tokens = some shape.reading :=
  shape.reads_tokens.readType

/-- The text of a shape is its tokens one after the other. These are read as the type that the shape
denotes exactly if the shape is guarded, and so is the text if the names in it are words. -/
theorem rendered_reads_back_iff (shape : Shape) (level : Nat) :
    Spelled (render level shape).toList shape.tokens ∧
      (readType shape.tokens = some shape.denoted ↔ shape.IsGuarded) ∧
      ((∀ symbol ∈ shape.symbols, IsWord symbol.toList) →
        ((scan (render level shape)).bind readType = some shape.denoted ↔ shape.IsGuarded)) := by
  have readBack : readType shape.tokens = some shape.denoted ↔ shape.IsGuarded := by
    rw [readType_tokens, Option.some_inj, reading_eq_denoted_iff]
  refine ⟨(shape.writes_render level).spelled, readBack, fun words => ?_⟩
  rw [scan_render words, Option.bind_some, readBack]

/-- A list whose items are a tree node or nothing is read back. -/
theorem rendered_list_reads_back :
    (scan (render 0 (.array (.union [.named "Node", .primitive .null])))).bind readType =
      some (denoted (.array (.union [.named "Node", .primitive .null]))) := by
  refine ((rendered_reads_back_iff _ 0).2.2 ?_).2 ?_
  · intro symbol member
    have isNode : symbol = "Node" := by
      simpa [symbols, symbolsOfMembers] using member
    rw [isNode]
    exact isWord_of_isPlainName rfl
  · refine .array (.union (List.forall_mem_cons.2 ⟨.named "Node", ?_⟩)) (Or.inl rfl)
    exact List.forall_mem_singleton.2 (.primitive .null)

/-- In a list whose items are one choice between several things, the brackets apply to the last of
these alone. -/
theorem nested_choice_reads_differently :
    (scan (render 0 (.array (.union [.union [.primitive .string, .primitive .null]])))).bind
        readType = some (.joined .union [.word "string", .array (.word "null")]) ∧
      some (.joined .union [.word "string", .array (.word "null")]) ≠
        some (denoted (.array (.union [.union [.primitive .string, .primitive .null]]))) := by
  constructor
  · have noNames : symbols (.array (.union [.union [.primitive .string, .primitive .null]])) = [] :=
      rfl
    rw [scan_render (by simp [noNames]), Option.bind_some, readType_tokens]
    rfl
  · rw [denoted, ne_eq, Option.some_inj]
    exact TypeExpression.noConfusion

end TypedClient.Shape
