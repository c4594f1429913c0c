import TypedClient.Proofs.Json.NumberText
import TypedClient.Proofs.TypeText.Reading
import TypedClient.Proofs.TypeText.Spelling

/-!
Contract: a JSON value as a literal type.

Owns:
- `literalType`, the type of one value, and the tokens of its compact text;
- that the compact text writes these tokens, all words among them being words indeed;
- that these tokens are read as the type.

Does not own: where literals stand in a type.
-/

namespace TypedClient.Json

open TypeText

/-- Induction over values that hands over every item and every member. -/
@[elab_as_elim, induction_eliminator]
theorem componentInduction {motive : Json → Prop} (null : motive .null)
    (boolean : ∀ value, motive (.boolean value)) (number : ∀ value, motive (.number value))
    (string : ∀ text, motive (.string text))
    (array : ∀ items, (∀ item ∈ items, motive item) → motive (.array items))
    (object : ∀ members, (∀ member ∈ members, motive member.2) → motive (.object members))
    (value : Json) : motive value := by
  have again : ∀ smaller : Json, sizeOf smaller < sizeOf value → motive smaller :=
    fun smaller _ => componentInduction null boolean number string array object smaller
  cases value with
  | null => exact null
  | boolean value => exact boolean value
  | number value => exact number value
  | string text => exact string text
  | array items =>
      refine array items (fun item isItem => again item ?_)
      have below := List.sizeOf_lt_of_mem isItem
      simp
      omega
  | object members =>
      refine object members (fun member isMember => again member.2 ?_)
      have below := List.sizeOf_lt_of_mem isMember
      obtain ⟨key, inner⟩ := member
      simp at below ⊢
      omega
termination_by sizeOf value

mutual

/-- The type of one literal value. -/
def literalType : Json → TypeExpression
  | .null => .word "null"
  | .boolean true => .word "true"
  | .boolean false => .word "false"
  | .number value => .word (Number.compact value)
  | .string text => .quoted text
  | .array items => .tuple (literalTypes items)
  | .object members => .object (literalMembers members)

def literalTypes : List Json → List TypeExpression
  | [] => []
  | item :: rest => literalType item :: literalTypes rest

def literalMembers : List (String × Json) → List (MemberKey × TypeExpression)
  | [] => []
  | (key, value) :: rest => (.property key false, literalType value) :: literalMembers rest

end

mutual

def tokens : Json → List Token
  | .null => [.word "null"]
  | .boolean true => [.word "true"]
  | .boolean false => [.word "false"]
  | .number value => [.word (Number.compact value)]
  | .string text => [.quoted text]
  | .array items =>
      .openBracket :: [.comma].intercalate (tokensOfItems items) ++ [.closeBracket]
  | .object members =>
      .openBrace :: [.comma].intercalate (tokensOfMembers members) ++ [.closeBrace]

def tokensOfItems : List Json → List (List Token)
  | [] => []
  | item :: rest => tokens item :: tokensOfItems rest

def tokensOfMembers : List (String × Json) → List (List Token)
  | [] => []
  | (key, value) :: rest => (.quoted key :: .colon :: tokens value) :: tokensOfMembers rest

end

/-! ## The lists as maps -/

theorem compactItems_eq_map (items : List Json) : compactItems items = items.map compact := by
  induction items with
  | nil => rfl
  | cons item rest inductionHypothesis => rw [compactItems, inductionHypothesis, List.map_cons]

theorem compactMembers_eq_map (members : List (String × Json)) :
    compactMembers members =
      members.map (fun member => literal member.1 ++ ":" ++ compact member.2) := by
  induction members with
  | nil => rfl
  | cons member rest inductionHypothesis => rw [compactMembers, inductionHypothesis, List.map_cons]

theorem tokensOfItems_eq_map (items : List Json) : tokensOfItems items = items.map tokens := by
  induction items with
  | nil => rfl
  | cons item rest inductionHypothesis => rw [tokensOfItems, inductionHypothesis, List.map_cons]

theorem tokensOfMembers_eq_map (members : List (String × Json)) :
    tokensOfMembers members =
      members.map (fun member => .quoted member.1 :: .colon :: tokens member.2) := by
  induction members with
  | nil => rfl
  | cons member rest inductionHypothesis => rw [tokensOfMembers, inductionHypothesis, List.map_cons]

theorem literalTypes_eq_map (items : List Json) : literalTypes items = items.map literalType := by
  induction items with
  | nil => rfl
  | cons item rest inductionHypothesis => rw [literalTypes, inductionHypothesis, List.map_cons]

theorem literalMembers_eq_map (members : List (String × Json)) :
    literalMembers members =
      members.map (fun member => (.property member.1 false, literalType member.2)) := by
  induction members with
  | nil => rfl
  | cons member rest inductionHypothesis => rw [literalMembers, inductionHypothesis, List.map_cons]

/-! ## The text writes the tokens -/

theorem writes_compact (value : Json) : Writes value.compact value.tokens := by
  induction value with
  | null => exact .word "null"
  | boolean value => cases value <;> exact .word _
  | number value => exact .word _
  | string text => exact (Exact.literal text).writes
  | array items ofItems =>
      rw [compact, tokens, compactItems_eq_map, tokensOfItems_eq_map]
      apply Exact.writes
      cases items with
      | nil => exact .of_marks rfl rfl
      | cons item rest =>
          have inside : Writes (",".intercalate ((item :: rest).map compact))
              ([.comma].intercalate ((item :: rest).map tokens)) :=
            .intercalate (.of_marks rfl rfl) (.of_head rfl) (by simp) ofItems
          have opened : Exact "[" [.openBracket] := .of_marks rfl rfl
          exact (opened.append_writes inside).append_exact (.of_head rfl) (.of_marks rfl rfl)
  | object members ofMembers =>
      rw [compact, tokens, compactMembers_eq_map, tokensOfMembers_eq_map]
      apply Exact.writes
      cases members with
      | nil => exact .of_marks rfl rfl
      | cons member rest =>
          have ofMember : ∀ other ∈ member :: rest,
              Writes (literal other.1 ++ ":" ++ compact other.2)
                (.quoted other.1 :: .colon :: tokens other.2) := by
            intro other isMember
            have ofKey : Exact (literal other.1 ++ ":") [.quoted other.1, .colon] :=
              (Exact.literal other.1).append (.of_marks rfl rfl)
            exact ofKey.append_writes (ofMembers other isMember)
          have inside : Writes
              (",".intercalate ((member :: rest).map
                (fun other => literal other.1 ++ ":" ++ compact other.2)))
              ([.comma].intercalate ((member :: rest).map
                (fun other => .quoted other.1 :: .colon :: tokens other.2))) :=
            .intercalate (.of_marks rfl rfl) (.of_head rfl) (by simp) ofMember
          have opened : Exact "\x7b" [.openBrace] := .of_marks rfl rfl
          exact (opened.append_writes inside).append_exact (.of_head rfl) (.of_marks rfl rfl)

/-! ## The words of a value -/

theorem isDelimiter_of_isNumeric {character : Char} (numeric : isNumeric character = true) :
    isDelimiter character = false := by
  rw [isNumeric, Bool.or_eq_true, List.contains_iff_mem] at numeric
  rcases numeric with isDigit | isSign
  · exact isDelimiter_of_isNamePart (by simp [Script.isNamePart, Char.isAlphanum, isDigit])
  · simp only [List.mem_cons, List.not_mem_nil, or_false] at isSign
    rcases isSign with rfl | rfl | rfl | rfl <;> rfl

theorem isWord_compact (value : Json.Number) : IsWord (Number.compact value).toList := by
  obtain ⟨first, rest, written, -⟩ := startsNumber_compact value
  refine ⟨by simp [written], fun character member => ?_⟩
  exact isDelimiter_of_isNumeric (inNumber_compact value character member)

theorem isWord_of_mem_tokens {value : Json} {word : String} (member : .word word ∈ value.tokens) :
    IsWord word.toList := by
  induction value with
  | null => exact isWord_of_mem_singleton member rfl
  | boolean value => cases value <;> exact isWord_of_mem_singleton member rfl
  | number value =>
      rw [tokens, List.mem_singleton, Token.word.injEq] at member
      rw [member]
      exact isWord_compact value
  | string text => simp [tokens] at member
  | array items ofItems =>
      have inside : .word word ∈ [Token.comma].intercalate (items.map tokens) := by
        simpa [tokens, tokensOfItems_eq_map] using member
      obtain isComma | ⟨part, isPart, inPart⟩ := Text.mem_intercalate inside
      · cases isComma
      · obtain ⟨item, isItem, rfl⟩ := List.mem_map.1 isPart
        exact ofItems item isItem inPart
  | object members ofMembers =>
      have inside : .word word ∈ [Token.comma].intercalate
          (members.map (fun member => .quoted member.1 :: .colon :: tokens member.2)) := by
        simpa [tokens, tokensOfMembers_eq_map] using member
      obtain isComma | ⟨part, isPart, inPart⟩ := Text.mem_intercalate inside
      · cases isComma
      · obtain ⟨other, isMember, rfl⟩ := List.mem_map.1 isPart
        exact ofMembers other isMember (by simpa using inPart)

/-! ## The tokens are read as the type -/

theorem isFlat_literalType (value : Json) : value.literalType.IsFlat := by
  unfold literalType
  split <;> simp

theorem reads_tokens (value : Json) : Reads value.tokens [[value.literalType]] := by
  induction value with
  | null => exact .word "null"
  | boolean value => cases value <;> exact .word _
  | number value => exact .word _
  | string text => exact .quoted text
  | array items ofItems =>
      rw [tokens, tokensOfItems_eq_map, literalType, literalTypes_eq_map]
      have asTuple := Reads.tuple ofItems
      simpa [Layout.closed_singleton, isFlat_literalType] using asTuple
  | object members ofMembers =>
      rw [tokens, tokensOfMembers_eq_map, literalType, literalMembers_eq_map]
      refine .object_separated (Or.inr rfl) (fun member isMember => ?_)
      have readsKey : ∀ earlier frames,
          State.run ⟨.members earlier, frames⟩ [.quoted member.1, .colon] =
            some (State.stepMember earlier (.property member.1 false) frames) :=
        fun _ _ => rfl
      have ofMember := ReadsMember.of_key readsKey (ofMembers member isMember)
      rwa [Layout.closed_singleton (isFlat_literalType _)] at ofMember

end TypedClient.Json
