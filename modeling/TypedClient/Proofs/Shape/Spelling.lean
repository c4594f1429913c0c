import TypedClient.Proofs.Json.LiteralType
import TypedClient.Proofs.Shape.Renaming
import TypedClient.Shape.Render

/-!
Contract: the text of a shape, token by token.

Owns:
- the tokens of a shape;
- that the text of a shape at any level writes these tokens;
- that all words among them are words indeed, if the names of the declarations are.

Does not own: how these tokens are read.
-/

namespace TypedClient

open TypeText

namespace Shape

/-- The token of a key: a word if the key is a plain name. -/
def keyToken (name : String) : Token :=
  if Script.isPlainName name.toList then .word name else .quoted name

/-- The tokens of an operand. -/
def operandTokens (joined : Bool) (tokens : List Token) : List Token :=
  if joined then .openGroup :: tokens ++ [.closeGroup] else tokens

/-- The tokens of a property, or of any member with the given type, up to the semicolon. -/
def propertyTokens (name : String) (required : Bool) (type : List Token) : List Token :=
  keyToken name :: (if required then [] else [.question]) ++ .colon :: type

def signatureTokens (type : List Token) : List Token :=
  [.openBracket, .word "key", .colon, .word "string", .closeBracket, .colon] ++ type

mutual

def tokens : Shape → List Token
  | .array items => operandTokens (isJoined items) (tokens items) ++ [.openBracket, .closeBracket]
  | .object properties none => .openBrace :: tokensOfProperties properties ++ [.closeBrace]
  | .object properties (some others) =>
      .openBrace :: (tokensOfProperties properties ++ (signatureTokens (tokens others) ++
        [.semicolon])) ++ [.closeBrace]
  | .enumeration [] => [.word "never"]
  | .enumeration values => [.bar].intercalate (values.map Json.tokens)
  | .primitive kind => [.word kind.typeName]
  | .union [] => [.word "unknown"]
  | .union members => [.bar].intercalate (tokensOfMembers members)
  | .intersection [] => [.word "unknown"]
  | .intersection members => [.ampersand].intercalate (tokensOfOperands members)
  | .named symbol => [.word symbol]
  | .unknown => [.word "unknown"]

def tokensOfProperties : List (String × Bool × Shape) → List Token
  | [] => []
  | (name, required, shape) :: rest =>
      propertyTokens name required (tokens shape) ++ [.semicolon] ++ tokensOfProperties rest

def tokensOfMembers : List Shape → List (List Token)
  | [] => []
  | member :: rest => tokens member :: tokensOfMembers rest

def tokensOfOperands : List Shape → List (List Token)
  | [] => []
  | member :: rest => operandTokens (isJoined member) (tokens member) :: tokensOfOperands rest

end

/-! ## The lists as maps -/

theorem renderProperties_eq_map (level : Nat) (properties : List (String × Bool × Shape)) :
    renderProperties level properties =
      properties.map (fun property =>
        Script.indentation level ++ Script.key property.1 ++
          (if property.2.1 then "" else "?") ++ ": " ++ render level property.2.2 ++ ";\n") := by
  induction properties with
  | nil => rfl
  | cons property rest inductionHypothesis =>
      rw [renderProperties, inductionHypothesis, List.map_cons]

theorem renderMembers_eq_map (level : Nat) (members : List Shape) :
    renderMembers level members = members.map (render level) := by
  induction members with
  | nil => rfl
  | cons member rest inductionHypothesis =>
      rw [renderMembers, inductionHypothesis, List.map_cons]

theorem renderOperands_eq_map (level : Nat) (members : List Shape) :
    renderOperands level members =
      members.map (fun member => operand (isJoined member) (render level member)) := by
  induction members with
  | nil => rfl
  | cons member rest inductionHypothesis =>
      rw [renderOperands, inductionHypothesis, List.map_cons]

theorem tokensOfProperties_eq_flatMap (properties : List (String × Bool × Shape)) :
    tokensOfProperties properties =
      properties.flatMap (fun property =>
        propertyTokens property.1 property.2.1 (tokens property.2.2) ++ [.semicolon]) := by
  induction properties with
  | nil => rfl
  | cons property rest inductionHypothesis =>
      rw [tokensOfProperties, inductionHypothesis, List.flatMap_cons]

theorem tokensOfMembers_eq_map (members : List Shape) :
    tokensOfMembers members = members.map tokens := by
  induction members with
  | nil => rfl
  | cons member rest inductionHypothesis =>
      rw [tokensOfMembers, inductionHypothesis, List.map_cons]

theorem tokensOfOperands_eq_map (members : List Shape) :
    tokensOfOperands members =
      members.map (fun member => operandTokens (isJoined member) (tokens member)) := by
  induction members with
  | nil => rfl
  | cons member rest inductionHypothesis =>
      rw [tokensOfOperands, inductionHypothesis, List.map_cons]

/-! ## The text writes the tokens -/

theorem writes_key (name : String) : Writes (Script.key name) [keyToken name] := by
  unfold Script.key keyToken
  split
  · exact .word name
  · exact (Exact.quotedKey name).writes

theorem writes_operand {text : String} {tokens : List Token} (joined : Bool)
    (writes : Writes text tokens) : Writes (operand joined text) (operandTokens joined tokens) := by
  unfold operand operandTokens
  split
  · have opened : Exact "(" [.openGroup] := .of_marks rfl rfl
    exact ((opened.append_writes writes).append_exact (.of_head rfl) (.of_marks rfl rfl)).writes
  · exact writes

theorem exact_property {type : String} {tokens : List Token} (level : Nat) (name : String)
    (required : Bool) (writes : Writes type tokens) :
    Exact (Script.indentation level ++ Script.key name ++ (if required then "" else "?") ++ ": " ++
      type ++ ";\n") (propertyTokens name required tokens ++ [.semicolon]) := by
  have ofKey := (Exact.indentation level).append_writes (writes_key name)
  have ofMarker : Exact ((if required then "" else "?") ++ ": ")
      ((if required then [] else [.question]) ++ [.colon]) := by
    cases required <;> exact .of_marks rfl rfl
  have opens : Opens ((if required then "" else "?") ++ ": ") := by
    cases required <;> exact .of_head rfl
  have ofLine := ((ofKey.append_exact opens ofMarker).append_writes writes).append_exact
    (.of_head rfl) (.of_marks rfl rfl : Exact ";\n" [.semicolon])
  simpa [propertyTokens, String.append_assoc] using ofLine

theorem exact_signature {type : String} {tokens : List Token} (level : Nat)
    (writes : Writes type tokens) :
    Exact (Script.indentation level ++ "[key: string]: " ++ type ++ ";\n")
      (signatureTokens tokens ++ [.semicolon]) := by
  have opened : Exact "[" [.openBracket] := .of_marks rfl rfl
  have ofKey := (opened.append_writes (.word "key")).append_exact
    (.of_head rfl) (.of_marks rfl rfl : Exact ": " [.colon])
  have ofKeyType := (ofKey.append_writes (.word "string")).append_exact (.of_head rfl)
    (.of_marks rfl rfl : Exact "]: " [.closeBracket, .colon])
  have isWhole : "[" ++ "key" ++ ": " ++ "string" ++ "]: " = "[key: string]: " := rfl
  rw [isWhole] at ofKeyType
  exact (((Exact.indentation level).append ofKeyType).append_writes writes).append_exact
    (.of_head rfl) (.of_marks rfl rfl)

/-- The text of a shape, at any level, writes its tokens. -/
theorem writes_render (shape : Shape) (level : Nat) : Writes (render level shape) shape.tokens := by
  induction shape generalizing level with
  | array items ofItems =>
      rw [render, tokens]
      exact ((writes_operand _ (ofItems level)).append_exact (.of_head rfl)
        (.of_marks rfl rfl)).writes
  | object properties others ofProperties ofOthers =>
      have ofLines : Exact (String.join (renderProperties (level + 1) properties))
          (tokensOfProperties properties) := by
        rw [renderProperties_eq_map, tokensOfProperties_eq_flatMap]
        exact .join (fun property member =>
          exact_property _ _ _ (ofProperties property member (level + 1)))
      have opened : Exact "\x7b\n" [.openBrace] := .of_marks rfl rfl
      have closed : Exact (Script.indentation level ++ "\x7d") [.closeBrace] :=
        (Exact.indentation level).append (.of_marks rfl rfl)
      apply Exact.writes
      cases others with
      | some shape =>
          have ofOthersLine := exact_signature (level + 1) (ofOthers shape rfl (level + 1))
          have whole := ((opened.append ofLines).append ofOthersLine).append closed
          simpa [render, tokens, String.append_assoc] using whole
      | none =>
          cases properties with
          | nil =>
              have empty : Exact "\x7b\x7d" [.openBrace, .closeBrace] := .of_marks rfl rfl
              simpa [render, tokens, tokensOfProperties] using empty
          | cons property rest =>
              have whole := (opened.append ofLines).append closed
              simpa [render, tokens, String.append_assoc] using whole
  | enumeration values =>
      cases values with
      | nil => exact .word "never"
      | cons value rest =>
          exact .intercalate (.of_marks rfl rfl) (.of_head rfl) (by simp)
            (fun value _ => value.writes_compact)
  | primitive kind => exact .word _
  | union members ofMembers =>
      cases members with
      | nil => exact .word "unknown"
      | cons member rest =>
          rw [render, tokens, renderMembers_eq_map, tokensOfMembers_eq_map]
          · exact .intercalate (.of_marks rfl rfl) (.of_head rfl) (by simp)
              (fun other isMember => ofMembers other isMember level)
          all_goals simp
  | intersection members ofMembers =>
      cases members with
      | nil => exact .word "unknown"
      | cons member rest =>
          rw [render, tokens, renderOperands_eq_map, tokensOfOperands_eq_map]
          · exact .intercalate (.of_marks rfl rfl) (.of_head rfl) (by simp)
              (fun other isMember => writes_operand _ (ofMembers other isMember level))
          all_goals simp
  | named symbol => exact .word symbol
  | unknown => exact .word "unknown"

/-! ## The words of a shape -/

theorem word_of_mem_operandTokens {joined : Bool} {tokens : List Token} {word : String}
    (member : .word word ∈ operandTokens joined tokens) : .word word ∈ tokens := by
  cases joined <;> simpa [operandTokens] using member

theorem isWord_of_mem_propertyTokens {name word : String} {required : Bool} {type : List Token}
    (member : .word word ∈ propertyTokens name required type) :
    IsWord word.toList ∨ .word word ∈ type := by
  rw [propertyTokens, List.cons_append, List.mem_cons] at member
  rcases member with isKey | member
  · left
    by_cases plain : Script.isPlainName name.toList
    · rw [keyToken, if_pos plain, Token.word.injEq] at isKey
      rw [isKey]
      exact isWord_of_isPlainName plain
    · rw [keyToken, if_neg plain] at isKey
      cases isKey
  · right
    cases required <;> simpa using member

/-- A word of a shape is the name of a declaration, or a word indeed. -/
theorem word_of_mem_tokens {shape : Shape} {word : String} (member : .word word ∈ shape.tokens) :
    word ∈ shape.symbols ∨ IsWord word.toList := by
  induction shape with
  | array items ofItems =>
      rw [tokens, List.mem_append] at member
      exact ofItems (word_of_mem_operandTokens (member.resolve_right (by simp)))
  | object properties others ofProperties ofOthers =>
      have inside : .word word ∈ tokensOfProperties properties ∨
          ∃ shape, others = some shape ∧ .word word ∈ signatureTokens shape.tokens := by
        cases others <;> simpa [tokens] using member
      rw [symbols_object]
      rcases inside with inProperties | ⟨shape, isOthers, inSignature⟩
      · rw [tokensOfProperties_eq_flatMap, List.mem_flatMap] at inProperties
        obtain ⟨property, isProperty, inLine⟩ := inProperties
        have inProperty := (List.mem_append.1 inLine).resolve_right (by simp)
        rcases isWord_of_mem_propertyTokens inProperty with isWord | inType
        · exact Or.inr isWord
        · refine (ofProperties property isProperty inType).imp_left (fun isSymbol => ?_)
          exact List.mem_append_left _ (List.mem_flatMap.2 ⟨property, isProperty, isSymbol⟩)
      · subst isOthers
        have found : word = "key" ∨ word = "string" ∨ .word word ∈ shape.tokens := by
          simpa [signatureTokens] using inSignature
        rcases found with rfl | rfl | inType
        · exact Or.inr (isWord_of_isPlainName rfl)
        · exact Or.inr (isWord_of_isPlainName rfl)
        · refine (ofOthers shape rfl inType).imp_left (fun isSymbol => ?_)
          simp [isSymbol]
  | enumeration values =>
      right
      cases values with
      | nil =>
          exact isWord_of_mem_singleton member rfl
      | cons value rest =>
          have inside : .word word ∈ [Token.bar].intercalate ((value :: rest).map Json.tokens) :=
            member
          obtain isBar | ⟨part, isPart, inPart⟩ := Text.mem_intercalate inside
          · cases isBar
          · obtain ⟨other, _, rfl⟩ := List.mem_map.1 isPart
            exact Json.isWord_of_mem_tokens inPart
  | primitive kind =>
      right
      cases kind <;> exact isWord_of_mem_singleton member rfl
  | union members ofMembers =>
      cases members with
      | nil =>
          right
          exact isWord_of_mem_singleton member rfl
      | cons first rest =>
          have inside : .word word ∈ [Token.bar].intercalate ((first :: rest).map tokens) := by
            rw [← tokensOfMembers_eq_map]
            exact member
          obtain isBar | ⟨part, isPart, inPart⟩ := Text.mem_intercalate inside
          · cases isBar
          · obtain ⟨other, isMember, rfl⟩ := List.mem_map.1 isPart
            refine (ofMembers other isMember inPart).imp_left (fun isSymbol => ?_)
            rw [symbols_union]
            exact List.mem_flatMap.2 ⟨other, isMember, isSymbol⟩
  | intersection members ofMembers =>
      cases members with
      | nil =>
          right
          exact isWord_of_mem_singleton member rfl
      | cons first rest =>
          have inside : .word word ∈ [Token.ampersand].intercalate
              ((first :: rest).map (fun other => operandTokens other.isJoined other.tokens)) := by
            rw [← tokensOfOperands_eq_map]
            exact member
          obtain isAmpersand | ⟨part, isPart, inPart⟩ := Text.mem_intercalate inside
          · cases isAmpersand
          · obtain ⟨other, isMember, rfl⟩ := List.mem_map.1 isPart
            refine (ofMembers other isMember (word_of_mem_operandTokens inPart)).imp_left ?_
            intro isSymbol
            rw [symbols_intersection]
            exact List.mem_flatMap.2 ⟨other, isMember, isSymbol⟩
  | named symbol =>
      rw [tokens, List.mem_singleton, Token.word.injEq] at member
      rw [member]
      exact Or.inl List.mem_cons_self
  | unknown =>
      right
      exact isWord_of_mem_singleton member rfl

end Shape

end TypedClient
