import TypedClient.Proofs.ScriptText.Written
import TypedClient.Proofs.Shape.Spelling

/-!
Contract: types as pieces of code.

Owns:
- rules by which texts put together are scanned as trees of their own: operands of an operator,
  brackets, and members between semicolons;
- that literals of JSON are literals of the code, too, and that a number is scanned sign by sign;
- `IsWrittenShape`, that the symbols of a shape are words and its keys are on one line, and that the
  text of such a shape is scanned as trees of its own;
- the same for the type that is read off a function at a position.

Does not own: which type some trees are.
-/

namespace TypedClient.ScriptText

/-! ## Texts put together -/

section Rules

variable {first second text : String} {row : Row} {texts : List String}

theorem Exact.isCode (exact : Exact text row) (nonempty : row ≠ []) : IsCode text :=
  (exact.writesRow nonempty).isCode

theorem IsCode.append_exact (isCode : IsCode first) (opens : Opens second)
    (exact : Exact second row) : IsCode (first ++ second) :=
  (isCode.writes.append_exact opens exact).isCode
    (List.append_ne_nil_of_left_ne_nil isCode.nonempty _)

theorem Exact.append_isCode (exact : Exact first row) (isCode : IsCode second) :
    IsCode (first ++ second) :=
  WritesRow.isCode ⟨exact.append_writes isCode.writes,
    List.append_ne_nil_of_right_ne_nil _ isCode.nonempty⟩

/-- Two operands with an operator between them. -/
theorem IsCode.operate {operator : String} (isCode : IsCode first) (opens : Opens operator)
    (ofOperator : Exact operator row) (isOther : IsCode second) :
    IsCode (first ++ operator ++ second) := by
  rw [String.append_assoc]
  exact WritesRow.isCode ⟨isCode.writes.append (opens.append_right _)
    (ofOperator.append_writes isOther.writes),
    List.append_ne_nil_of_left_ne_nil isCode.nonempty _⟩

theorem rows_of_isCode (areCode : ∀ text ∈ texts, IsCode text) :
    List.Forall₂ WritesRow texts (texts.map treesOfText) := by
  rw [List.forall₂_map_right_iff, List.forall₂_same]
  exact areCode

theorem IsCode.group (isCode : IsCode text) : IsCode ("(" ++ text ++ ")") := by
  have whole := Exact.arguments (rows_of_isCode (List.forall_mem_singleton.2 isCode))
  rw [String.intercalate_singleton] at whole
  exact whole.isCode (List.cons_ne_nil _ _)

/-- Operands with an operator between them. -/
theorem IsCode.intercalate {operator : String} (ofOperator : Exact operator row)
    (opens : Opens operator) (nonempty : texts ≠ []) (areCode : ∀ text ∈ texts, IsCode text) :
    IsCode (operator.intercalate texts) := by
  induction texts, nonempty using List.recNeNil with
  | singleton text =>
      rw [String.intercalate_singleton]
      exact areCode text List.mem_cons_self
  | cons text others several inductionHypothesis =>
      obtain ⟨next, remaining, rfl⟩ := List.exists_cons_of_ne_nil several
      rw [List.forall_mem_cons] at areCode
      rw [String.intercalate_cons_cons]
      exact areCode.1.operate opens ofOperator (inductionHypothesis areCode.2)

/-- Members between semicolons: several of them look like statements. -/
def fieldsTree : List Row → Tree
  | [row] => .group .brace [row]
  | rows => .group .block rows

theorem Exact.fields (nonempty : texts ≠ []) (areCode : ∀ text ∈ texts, IsCode text) :
    Exact ("\x7b " ++ "; ".intercalate texts ++ " \x7d") [fieldsTree (texts.map treesOfText)] := by
  have enters : Enters "\x7b " .brace := fun _ _ _ => rfl
  have closes : ∀ {bracket : Bracket}, bracket = .brace ∨ bracket = .block →
      Closes bracket " \x7d" := by
    rintro bracket (rfl | rfl) <;> exact ⟨.of_head rfl, fun _ _ _ _ _ => rfl⟩
  obtain ⟨text, others, rfl⟩ := List.exists_cons_of_ne_nil nonempty
  rw [List.forall_mem_cons] at areCode
  rw [String.append_assoc]
  cases others with
  | nil =>
      refine enters.group fun opened before rest => ?_
      rw [String.intercalate_singleton, String.toList_append, List.append_assoc,
        areCode.1.writes _ _ _ ((closes (.inl rfl)).opens _), (closes (.inl rfl)).scan_eq,
        List.nil_append, List.nil_append, ended_of_ne areCode.1.nonempty]
  | cons next remaining =>
      have isFirst : Ends .brace [] "; " .block := ends_semicolon (.inr ⟨rfl, rfl⟩) (.inr rfl)
      have whole : "; ".intercalate (text :: next :: remaining) ++ " \x7d" =
          (text ++ "; ") ++ ("; ".intercalate (next :: remaining) ++ " \x7d") := by
        rw [String.intercalate_cons_cons, String.append_assoc]
      refine enters.group fun opened before rest => ?_
      rw [whole, String.toList_append, List.append_assoc, isFirst.scan_row areCode.1]
      exact scan_rows (fun _ => ends_semicolon (.inl rfl) (.inr rfl)) (closes (.inr rfl))
        (rows_of_isCode areCode.2) _ opened before rest

/-- A field: a name, a colon and a type. -/
theorem writesRow_field {name type : String} (isWord : isWord name.toList = true)
    (isCode : IsCode type) :
    WritesRow (name ++ ": " ++ type)
      (.token (.word name) :: .token .colon :: treesOfText type) := by
  have colon : Exact ": " [.token .colon] := fun _ _ _ => rfl
  rw [String.append_assoc]
  exact ⟨(Writes.word isWord).append (.append rfl _) (colon.append_writes isCode.writes),
    List.cons_ne_nil _ _⟩

end Rules

/-! ## Literals of JSON -/

section Literals

open Script (LiteralMode scanLiteral)

variable {rest written : List Char}

theorem scanLiteral_code {first second : Char} {high low : Nat}
    (isFirst : Text.digitValue? 16 first = some high)
    (isSecond : Text.digitValue? 16 second = some low)
    (isValid : (high * 16 + low).isValidChar) :
    scanLiteral .plain written ('\\' :: 'u' :: '0' :: '0' :: first :: second :: rest) =
      scanLiteral .plain (written ++ [Char.ofNat (high * 16 + low)]) rest := by
  have isZero : Text.digitValue? 16 '0' = some 0 := by decide
  simp [scanLiteral, LiteralMode.step, LiteralMode.stepPlain, LiteralMode.mayEnd,
    LiteralMode.numbered?, isZero, isFirst, isSecond, isValid]

/-- The escapes of JSON are undone. -/
theorem scanLiteral_escapeChar (character : Char) :
    scanLiteral .plain written (Json.escapeChar character ++ rest) =
      scanLiteral .plain (written ++ [character]) rest := by
  by_cases isShort : character ∈ TypeText.shortEscapes
  · simp only [TypeText.shortEscapes, List.mem_cons, List.not_mem_nil, or_false] at isShort
    rcases isShort with rfl | rfl | rfl | rfl | rfl | rfl | rfl <;>
      simp [Json.escapeChar, scanLiteral, LiteralMode.step, LiteralMode.stepPlain,
        LiteralMode.escaped?, LiteralMode.mayEnd]
  by_cases isControl : character.toNat < 32
  · obtain ⟨first, second, escaped, isFirst, isSecond⟩ :=
      TypeText.exists_code_of_control isControl isShort
    have number := Nat.div_add_mod' character.toNat 16
    have isValid : (character.toNat / 16 * 16 + character.toNat % 16).isValidChar := by
      rw [number]
      exact character.valid
    rw [escaped]
    refine (scanLiteral_code isFirst isSecond isValid).trans ?_
    rw [number, Char.ofNat_toNat]
    rfl
  · simp only [TypeText.shortEscapes, List.mem_cons, List.not_mem_nil, or_false, not_or] at isShort
    simp [Json.escapeChar, isShort, isControl, scanLiteral, LiteralMode.step,
      LiteralMode.stepPlain, LiteralMode.isLineEnd]

theorem scanLiteral_flatMap (value : List Char) :
    scanLiteral .plain written (value.flatMap Json.escapeChar ++ '"' :: rest) =
      some (String.ofList (written ++ value), rest) := by
  induction value generalizing written with
  | nil =>
      rw [List.append_nil]
      rfl
  | cons character value inductionHypothesis =>
      rw [List.flatMap_cons, List.append_assoc, scanLiteral_escapeChar, inductionHypothesis,
        List.append_assoc, List.singleton_append]

theorem Exact.jsonLiteral (value : String) :
    Exact (Json.literal value) [.token (.quoted value)] := by
  intro opened before rest
  have reads := @scanLiteral_flatMap rest [] value.toList
  rw [List.nil_append, String.ofList_toList] at reads
  rw [Json.literal, String.toList_ofList, List.cons_append, List.cons_append, List.append_assoc]
  exact scan_quoted reads

end Literals

/-! ## Numbers -/

theorem mem_of_isDigit {character : Char} (isDigit : character.isDigit = true) :
    character ∈ ['0', '1', '2', '3', '4', '5', '6', '7', '8', '9'] := by
  obtain ⟨low, high⟩ := Char.isDigit_iff_toNat.1 isDigit
  have below : character.toNat < 58 := Nat.lt_succ_of_le high
  have all : ∀ number < 58, 48 ≤ number →
      Char.ofNat number ∈ ['0', '1', '2', '3', '4', '5', '6', '7', '8', '9'] := by decide
  rw [← Char.ofNat_toNat character]
  exact all _ below low

/-- A character of a number starts a word, or it is a token of its own. -/
theorem start_of_isNumeric {character : Char} (numeric : Json.isNumeric character = true) :
    isWordStart character = true ∨
      ∃ token, ∀ state : State, state.start character = some (state.push token) := by
  rw [Json.isNumeric, Bool.or_eq_true, List.contains_iff_mem] at numeric
  rcases numeric with isDigit | isOther
  · have member := mem_of_isDigit isDigit
    simp only [List.mem_cons, List.not_mem_nil, or_false] at member
    rcases member with rfl | rfl | rfl | rfl | rfl | rfl | rfl | rfl | rfl | rfl <;>
      exact .inr ⟨_, fun _ => rfl⟩
  · simp only [List.mem_cons, List.not_mem_nil, or_false] at isOther
    rcases isOther with rfl | rfl | rfl | rfl
    · exact .inr ⟨.dot, fun _ => rfl⟩
    · exact .inr ⟨.sign '-', fun _ => rfl⟩
    · exact .inr ⟨.sign '+', fun _ => rfl⟩
    · exact .inl rfl

/-- From some mode on, a text is scanned as some trees. -/
def Scans (mode : Mode) (text : List Char) (row : Row) : Prop :=
  ∀ opened before rest, EndsWord rest →
    scan ⟨mode, opened, before⟩ (text ++ rest) = scan ⟨.between, opened, before ++ row⟩ rest

/-- The characters of a number are scanned one by one, or as part of a word. -/
theorem exists_scans_number {text : List Char} (inNumber : Json.InNumber text) :
    (∃ row, Scans .between text row ∧ (text ≠ [] → row ≠ [])) ∧
      ∀ read, ∃ row, Scans (.word read) text row ∧ row ≠ [] := by
  induction text with
  | nil =>
      have nothing : Scans .between [] [] := by
        intro opened before rest _
        rw [List.append_nil, List.nil_append]
      exact ⟨⟨[], nothing, absurd rfl⟩, fun read => ⟨[.token (.word (String.ofList read))],
        fun opened before rest ends => scan_word_of_endsWord ends read, List.cons_ne_nil _ _⟩⟩
  | cons character text inductionHypothesis =>
      rw [Json.inNumber_cons] at inNumber
      obtain ⟨⟨row, ofText, -⟩, inWord⟩ := inductionHypothesis inNumber.2
      have between : ∃ row, Scans .between (character :: text) row ∧ row ≠ [] := by
        rcases start_of_isNumeric inNumber.1 with startsWord | ⟨token, starts⟩
        · obtain ⟨row, ofWord, nonempty⟩ := inWord [character]
          refine ⟨row, fun opened before rest ends => ?_, nonempty⟩
          rw [List.cons_append, scan_start, State.start, if_pos startsWord]
          exact ofWord opened before rest ends
        · refine ⟨.token token :: row, fun opened before rest ends => ?_, List.cons_ne_nil _ _⟩
          have behind := ofText opened (before ++ [.token token]) rest ends
          rw [List.append_assoc, List.singleton_append] at behind
          rw [List.cons_append, scan_start, starts]
          exact behind
      obtain ⟨whole, ofWhole, nonempty⟩ := between
      refine ⟨⟨whole, ofWhole, fun _ => nonempty⟩, fun read => ?_⟩
      cases isPart : isWordPart character with
      | true =>
          obtain ⟨row, ofWord, nonempty⟩ := inWord (read ++ [character])
          refine ⟨row, fun opened before rest ends => ?_, nonempty⟩
          rw [← ofWord opened before rest ends]
          simp only [List.cons_append, scan, State.step, if_pos isPart, Option.bind_some]
      | false =>
          refine ⟨.token (.word (String.ofList read)) :: whole, fun opened before rest ends => ?_,
            List.cons_ne_nil _ _⟩
          have wordEnds : EndsWord (character :: text ++ rest) := by
            intro first isFirst
            obtain rfl := Option.some.inj isFirst
            exact isPart
          rw [scan_word_of_endsWord wordEnds, ofWhole opened _ rest ends, List.append_assoc,
            List.singleton_append]

theorem isCode_number {text : String} (inNumber : Json.InNumber text.toList)
    (nonempty : text.toList ≠ []) : IsCode text := by
  obtain ⟨⟨row, scans, rows⟩, -⟩ := exists_scans_number inNumber
  exact WritesRow.isCode ⟨scans, rows nonempty⟩

/-! ## Values of JSON -/

theorem isCode_compact (value : Json) : IsCode value.compact := by
  induction value with
  | null => exact .word (by decide)
  | boolean value => cases value <;> exact .word (by decide)
  | number value =>
      obtain ⟨first, rest, written, -⟩ := Json.startsNumber_compact value
      have nonempty : (Json.Number.compact value).toList ≠ [] := by
        rw [written]
        exact List.cons_ne_nil first rest
      exact isCode_number (Json.inNumber_compact value) nonempty
  | string text => exact (Exact.jsonLiteral text).isCode (List.cons_ne_nil _ _)
  | array items ofItems =>
      have rows := rows_of_isCode (List.forall_mem_map.2 ofItems)
      have whole : Exact ("[" ++ ",".intercalate (items.map Json.compact) ++ "]")
          [.group .square ((items.map Json.compact).map treesOfText)] :=
        .separated (fun _ _ _ => rfl) (ends_comma (by decide) (.inr (.inr rfl)))
          ⟨.of_head rfl, fun _ _ _ _ _ => rfl⟩ rows
      rw [Json.compact, Json.compactItems_eq_map]
      exact whole.isCode (List.cons_ne_nil _ _)
  | object members ofMembers =>
      have ofMember : ∀ member ∈ members,
          IsCode (Json.literal member.1 ++ ":" ++ member.2.compact) := by
        intro member isMember
        have colon : Exact ":" [.token .colon] := fun _ _ _ => rfl
        exact ((Exact.jsonLiteral member.1).append colon).append_isCode
          (ofMembers member isMember)
      have rows := rows_of_isCode (List.forall_mem_map.2 ofMember)
      have whole := @Exact.separated .brace "\x7b" "\x7d" "," _ _ (fun _ _ _ => rfl)
        (ends_comma (by decide) (.inr (.inr rfl))) ⟨.of_head rfl, fun _ _ _ _ _ => rfl⟩ rows
      rw [Json.compact, Json.compactMembers_eq_map]
      exact whole.isCode (List.cons_ne_nil _ _)

/-! ## Shapes -/

/-- The symbols of a shape are words, and its keys are on one line. -/
inductive IsWrittenShape : Shape → Prop
  | array {items : Shape} (inside : IsWrittenShape items) : IsWrittenShape (.array items)
  | object {properties : List (String × Bool × Shape)} {others : Option Shape}
      (keys : ∀ property ∈ properties, Script.OnOneLine property.1.toList)
      (inProperties : ∀ property ∈ properties, IsWrittenShape property.2.2)
      (inOthers : ∀ shape, others = some shape → IsWrittenShape shape) :
      IsWrittenShape (.object properties others)
  | enumeration (values : List Json) : IsWrittenShape (.enumeration values)
  | primitive (kind : Primitive) : IsWrittenShape (.primitive kind)
  | union {members : List Shape} (inside : ∀ member ∈ members, IsWrittenShape member) :
      IsWrittenShape (.union members)
  | intersection {members : List Shape} (inside : ∀ member ∈ members, IsWrittenShape member) :
      IsWrittenShape (.intersection members)
  | named {symbol : String} (isWord : isWord symbol.toList = true) : IsWrittenShape (.named symbol)
  | unknown : IsWrittenShape .unknown

theorem isCode_operand {text : String} (joined : Bool) (isCode : IsCode text) :
    IsCode (Shape.operand joined text) := by
  cases joined with
  | true => exact isCode.group
  | false => exact isCode

/-- The line of a property, up to its semicolon. -/
theorem isCode_property {type : String} (level : Nat) {name : String} (required : Bool)
    (onOneLine : Script.OnOneLine name.toList) (isCode : IsCode type) :
    IsCode (Script.indentation level ++ Script.key name ++ (if required then "" else "?") ++ ": " ++
      type) := by
  have ofKey : IsCode (Script.indentation level ++ Script.key name) :=
    (Exact.indentation level).append_isCode (writes_key onOneLine).isCode
  have mark : Exact "?" [.token .question] := fun _ _ _ => rfl
  have colon : Exact ": " [.token .colon] := fun _ _ _ => rfl
  have ofMark : Exact ((if required then "" else "?") ++ ": ")
      ((if required then [] else [.token .question]) ++ [.token .colon]) := by
    cases required with
    | true => exact Exact.empty.append colon
    | false => exact mark.append colon
  have opens : Opens ((if required then "" else "?") ++ ": ") := by
    cases required <;> exact .of_head rfl
  have whole := (ofKey.writes.append_exact opens ofMark).append_isCode isCode
  rwa [← String.append_assoc] at whole

theorem isCode_signature {type : String} (level : Nat) (isCode : IsCode type) :
    IsCode (Script.indentation level ++ "[key: string]: " ++ type) := by
  have colon : Exact ": " [.token .colon] := fun _ _ _ => rfl
  have ofKey : IsCode ("key" ++ (": " ++ "string")) :=
    WritesRow.isCode ⟨(Writes.word (by decide)).append (.append rfl _)
      (colon.append_writes (.word (by decide))), List.cons_ne_nil _ _⟩
  have ofSquare := Exact.list (rows_of_isCode (List.forall_mem_singleton.2 ofKey))
  exact ((Exact.indentation level).append (ofSquare.append colon)).append_isCode isCode

/-- Members on a line each, in braces. -/
theorem isCode_lines {texts : List String} (areCode : ∀ text ∈ texts, IsCode text) (level : Nat) :
    IsCode ("\x7b\n" ++ String.join (texts.map (· ++ ";\n")) ++
      (Script.indentation level ++ "\x7d")) :=
  (Exact.statements (rows_of_isCode areCode) level).isCode (List.cons_ne_nil _ _)

/-- The text of a shape, at any level, is scanned as trees of its own. -/
theorem IsWrittenShape.isCode_render {shape : Shape} (written : IsWrittenShape shape)
    (level : Nat) : IsCode (Shape.render level shape) := by
  have bar : Exact " | " [.token (.sign '|')] := fun _ _ _ => rfl
  have ampersand : Exact " & " [.token (.sign '&')] := fun _ _ _ => rfl
  have word : ∀ text : String, isWord text.toList = true → IsCode text := fun _ => .word
  induction written generalizing level with
  | array _ inductionHypothesis =>
      have brackets : Exact "[]" [.group .square []] := fun _ _ _ => rfl
      rw [Shape.render]
      exact (isCode_operand _ (inductionHypothesis level)).append_exact (.of_head rfl) brackets
  | @object properties others keys _ _ ofProperties ofOthers =>
      have ofLines : ∀ property ∈ properties, IsCode (Script.indentation (level + 1) ++
          Script.key property.1 ++ (if property.2.1 then "" else "?") ++ ": " ++
            Shape.render (level + 1) property.2.2) :=
        fun property member => isCode_property (level + 1) property.2.1 (keys property member)
          (ofProperties property member (level + 1))
      cases others with
      | none =>
          cases properties with
          | nil =>
              have braces : Exact "\x7b\x7d" [.group .brace []] := fun _ _ _ => rfl
              exact braces.isCode (List.cons_ne_nil _ _)
          | cons property rest =>
              have whole := isCode_lines (List.forall_mem_map.2 ofLines) level
              rw [Shape.render, Shape.renderProperties_eq_map]
              · rw [List.map_map, ← String.append_assoc] at whole
                exact whole
              · simp
      | some shape =>
          have ofLast := isCode_signature (level + 1) (ofOthers shape rfl (level + 1))
          have whole := isCode_lines (List.forall_mem_append.2
            ⟨List.forall_mem_map.2 ofLines, List.forall_mem_singleton.2 ofLast⟩) level
          rw [Shape.render, Shape.renderProperties_eq_map]
          simp only [List.map_append, List.map_map, List.map_singleton, String.join_append,
            String.join_cons, String.join_nil, String.append_empty, Function.comp_def,
            ← String.append_assoc] at whole ⊢
          exact whole
  | enumeration values =>
      cases values with
      | nil => exact word "never" (by decide)
      | cons value rest =>
          refine .intercalate bar (.of_head rfl) (by simp) ?_
          exact List.forall_mem_map.2 fun value _ => isCode_compact value
  | primitive kind =>
      show IsCode kind.typeName
      cases kind <;> exact .word (by decide)
  | @union members _ inductionHypothesis =>
      cases members with
      | nil => exact word "unknown" (by decide)
      | cons member rest =>
          rw [Shape.render, Shape.renderMembers_eq_map]
          · refine .intercalate bar (.of_head rfl) (by simp) ?_
            exact List.forall_mem_map.2 fun other isMember =>
              inductionHypothesis other isMember level
          · simp
  | @intersection members _ inductionHypothesis =>
      cases members with
      | nil => exact word "unknown" (by decide)
      | cons member rest =>
          rw [Shape.render, Shape.renderOperands_eq_map]
          · refine .intercalate ampersand (.of_head rfl) (by simp) ?_
            exact List.forall_mem_map.2 fun other isMember =>
              isCode_operand _ (inductionHypothesis other isMember level)
          · simp
  | named isWord => exact word _ isWord
  | unknown => exact word "unknown" (by decide)

/-! ## The types of arguments -/

/-- The type that is read off a function at the position of one of its parameters. -/
theorem isCode_parameter {function : String} (isWord : isWord function.toList = true)
    (position : Nat) :
    IsCode ("Parameters<typeof " ++ function ++ ">[" ++ toString position ++ "]") := by
  have typeof : Exact "typeof " [.token (.word "typeof")] := fun _ _ _ => rfl
  have ofFunction : WritesRow ("typeof " ++ function)
      [.token (.word "typeof"), .token (.word function)] :=
    ⟨typeof.append_writes (.word isWord), List.cons_ne_nil _ _⟩
  have ofPosition : IsCode (toString position) :=
    isCode_number (Json.inNumber_toString position) (by simp)
  have ofTypes := Exact.types (.cons ofFunction .nil)
  have ofIndex := Exact.list (rows_of_isCode (List.forall_mem_singleton.2 ofPosition))
  have isParameters : IsCode "Parameters" := .word (by decide)
  have whole := isParameters.append_exact
    (((Opens.append rfl _).append_right _).append_right _) (ofTypes.append ofIndex)
  have opening : "Parameters<typeof " = "Parameters" ++ ("<" ++ "typeof ") := rfl
  have closing : ">[" = ">" ++ "[" := rfl
  rw [opening, closing]
  simp only [String.intercalate_singleton, String.append_assoc] at whole ⊢
  exact whole

end TypedClient.ScriptText
