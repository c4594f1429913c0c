import Mathlib.Data.List.Induction
import TypedClient.Json.Compact
import TypedClient.Proofs.Script.Identifier
import TypedClient.Proofs.TypeText.Token
import TypedClient.Script.Expression
import TypedClient.Script.Literal

/-!
Contract: texts that are written token by token.

Owns:
- `Spelled`, that a text is some tokens one after the other, and that scanning such a text gives
  these tokens back;
- that the escapes of keys and of literals are undone;
- `Exact` and `Writes`, that a text writes some tokens whatever stands behind it, or wherever a word
  may end behind it, with their rules for texts put together.

Does not own: the text of a shape.
-/

namespace TypedClient.TypeText

/-- A way to write characters between quotation marks that the scanner undoes. -/
def Escapes (escape : Char → List Char) : Prop :=
  ∀ character text rest,
    scanFrom (.quoted text) (escape character ++ rest) =
      scanFrom (.quoted (text ++ [character])) rest

/-- A text is some tokens one after the other, with blanks between them. A word ends where the text
does, or at a delimiter. -/
inductive Spelled : List Char → List Token → Prop
  | nil : Spelled [] []
  | blank {character : Char} {text : List Char} {tokens : List Token}
      (isBlank : character.isWhitespace = true) (later : Spelled text tokens) :
      Spelled (character :: text) tokens
  | mark {character : Char} {token : Token} {text : List Char} {tokens : List Token}
      (isMark : mark? character = some token) (later : Spelled text tokens) :
      Spelled (character :: text) (token :: tokens)
  | word (word : String) {text : List Char} {tokens : List Token} (ends : AtBoundary text)
      (later : Spelled text tokens) :
      Spelled (word.toList ++ text) (.word word :: tokens)
  | quoted {escape : Char → List Char} (escapes : Escapes escape) (value : String)
      {text : List Char} {tokens : List Token} (later : Spelled text tokens) :
      Spelled ('"' :: value.toList.flatMap escape ++ '"' :: text) (.quoted value :: tokens)

theorem Mode.start_of_mark {character : Char} {token : Token}
    (isMark : mark? character = some token) : start character = (.between, [token]) := by
  have notBlank : character.isWhitespace = false := by
    cases blank : character.isWhitespace with
    | false => rfl
    | true =>
        simp only [Char.isWhitespace, Bool.or_eq_true, decide_eq_true_eq] at blank
        rcases blank with ((rfl | rfl) | rfl) | rfl <;> cases isMark
  have notQuote : character ≠ '"' := by
    rintro rfl
    cases isMark
  simp [start, notBlank, notQuote, isMark]

theorem Mode.start_of_word {character : Char} (inWord : isDelimiter character = false) :
    start character = (.word [character], []) := by
  simp only [isDelimiter, Bool.or_eq_false_iff, decide_eq_false_iff_not,
    Option.isSome_eq_false_iff, Option.isNone_iff_eq_none] at inWord
  simp [start, inWord]

@[simp] theorem inWord_cons {character : Char} {rest : List Char} :
    InWord (character :: rest) ↔ isDelimiter character = false ∧ InWord rest :=
  List.forall_mem_cons

theorem scanFrom_word {word : List Char} (inWord : InWord word) (text rest : List Char) :
    scanFrom (.word text) (word ++ rest) = scanFrom (.word (text ++ word)) rest := by
  induction word generalizing text with
  | nil => rw [List.nil_append, List.append_nil]
  | cons character word inductionHypothesis =>
      rw [inWord_cons] at inWord
      have next := inductionHypothesis inWord.2 (text ++ [character])
      rw [List.append_assoc, List.singleton_append] at next
      simp [scanFrom, Mode.step, inWord.1, next]

theorem scanFrom_word_of_boundary {rest : List Char} (boundary : AtBoundary rest)
    (text : List Char) :
    scanFrom (.word text) rest =
      (scanFrom .between rest).map (fun tokens => .word (String.ofList text) :: tokens) := by
  cases rest with
  | nil => rfl
  | cons character rest =>
      have ends : isDelimiter character = true := boundary character rfl
      simp only [scanFrom, Mode.step, ends, ↓reduceIte, Option.bind_eq_bind, Option.bind_some,
        Option.map_bind]
      rfl

theorem scan_word {word : String} (isWord : IsWord word.toList) {rest : List Char}
    (boundary : AtBoundary rest) :
    scanFrom .between (word.toList ++ rest) =
      (scanFrom .between rest).map (fun tokens => .word word :: tokens) := by
  obtain ⟨nonempty, inWord⟩ := isWord
  have whole : .word word = Token.word (String.ofList word.toList) := by
    rw [String.ofList_toList]
  rw [whole]
  generalize word.toList = characters at nonempty inWord ⊢
  cases characters with
  | nil => exact absurd rfl nonempty
  | cons first others =>
      rw [inWord_cons] at inWord
      have started : scanFrom .between (first :: others ++ rest) =
          scanFrom (.word [first]) (others ++ rest) := by
        simp [scanFrom, Mode.step, Mode.start_of_word inWord.1]
      rw [started, scanFrom_word inWord.2, scanFrom_word_of_boundary boundary]
      rfl

theorem scanFrom_quoted {escape : Char → List Char} (escapes : Escapes escape)
    (value text rest : List Char) :
    scanFrom (.quoted text) (value.flatMap escape ++ rest) =
      scanFrom (.quoted (text ++ value)) rest := by
  induction value generalizing text with
  | nil => rw [List.flatMap_nil, List.nil_append, List.append_nil]
  | cons character value inductionHypothesis =>
      rw [List.flatMap_cons, List.append_assoc, escapes, inductionHypothesis, List.append_assoc,
        List.singleton_append]

/-- Scanning undoes spelling. -/
theorem Spelled.scan {text : List Char} {tokens : List Token} (spelled : Spelled text tokens)
    (words : ∀ word, .word word ∈ tokens → IsWord word.toList) :
    scanFrom .between text = some tokens := by
  induction spelled with
  | nil => rfl
  | blank isBlank _ inductionHypothesis =>
      simp [scanFrom, Mode.step, Mode.start, isBlank, inductionHypothesis words]
  | mark isMark _ inductionHypothesis =>
      have later := inductionHypothesis
        (fun word member => words word (List.mem_cons_of_mem _ member))
      simp [scanFrom, Mode.step, Mode.start_of_mark isMark, later]
  | word word ends _ inductionHypothesis =>
      have later := inductionHypothesis
        (fun word member => words word (List.mem_cons_of_mem _ member))
      rw [scan_word (words word List.mem_cons_self) ends, later, Option.map_some]
  | quoted escapes value _ inductionHypothesis =>
      have later := inductionHypothesis
        (fun word member => words word (List.mem_cons_of_mem _ member))
      have opened : ∀ rest, scanFrom .between ('"' :: rest) = scanFrom (.quoted []) rest := by
        intro rest
        simp [scanFrom, Mode.step, Mode.start, Char.isWhitespace]
      rw [List.cons_append, opened, scanFrom_quoted escapes, List.nil_append]
      simp [scanFrom, Mode.step, later]

/-! ## Escapes -/

theorem escapes_key : Escapes Script.escapeChar := by
  intro character text rest
  unfold Script.escapeChar
  split
  · rename_i special
    rcases special with rfl | rfl <;> simp [scanFrom, Mode.step, Mode.unescaped]
  · rename_i plain
    rw [not_or] at plain
    simp [scanFrom, Mode.step, plain.1, plain.2]

/-- A control character without an escape of its own is written as its number, in four digits. -/
theorem escapeChar_control : ∀ code < 32, code ∉ [8, 9, 10, 12, 13] →
    (Json.escapeChar (Char.ofNat code)).take 4 = ['\\', 'u', '0', '0'] ∧
      ((Json.escapeChar (Char.ofNat code)).drop 4).map (Text.digitValue? 16) =
        [some (code / 16), some (code % 16)] := by
  decide

/-- The characters whose escape is a backslash and one more character. -/
def shortEscapes : List Char := ['"', '\\', '\n', '\r', '\t', '\x08', '\x0c']

theorem exists_code_of_control {character : Char} (isControl : character.toNat < 32)
    (notShort : character ∉ shortEscapes) :
    ∃ first second, Json.escapeChar character = ['\\', 'u', '0', '0', first, second] ∧
      Text.digitValue? 16 first = some (character.toNat / 16) ∧
      Text.digitValue? 16 second = some (character.toNat % 16) := by
  have notOne : character.toNat ∉ [8, 9, 10, 12, 13] := by
    intro member
    apply notShort
    rw [← Char.ofNat_toNat character]
    revert member
    generalize character.toNat = code
    simp only [List.mem_cons, List.not_mem_nil, or_false]
    rintro (rfl | rfl | rfl | rfl | rfl) <;> decide
  obtain ⟨opening, digits⟩ := escapeChar_control character.toNat isControl notOne
  rw [Char.ofNat_toNat] at opening digits
  obtain ⟨first, others, isOpen, isFirst, digits⟩ := List.map_eq_cons_iff.1 digits
  obtain ⟨second, others, rfl, isSecond, digits⟩ := List.map_eq_cons_iff.1 digits
  rw [List.map_eq_nil_iff] at digits
  refine ⟨first, second, ?_, isFirst, isSecond⟩
  rw [← List.take_append_drop 4 (Json.escapeChar character), opening, isOpen, digits]
  rfl

theorem scanFrom_code {first second : Char} {high low : Nat}
    (isFirst : Text.digitValue? 16 first = some high)
    (isSecond : Text.digitValue? 16 second = some low) (text rest : List Char) :
    scanFrom (.quoted text) ('\\' :: 'u' :: '0' :: '0' :: first :: second :: rest) =
      scanFrom (.quoted (text ++ [Char.ofNat (high * 16 + low)])) rest := by
  have isZero : Text.digitValue? 16 '0' = some 0 := by decide
  simp [scanFrom, Mode.step, isZero, isFirst, isSecond]

theorem escapes_literal : Escapes Json.escapeChar := by
  intro character text rest
  by_cases isShort : character ∈ shortEscapes
  · simp only [shortEscapes, List.mem_cons, List.not_mem_nil, or_false] at isShort
    rcases isShort with rfl | rfl | rfl | rfl | rfl | rfl | rfl <;>
      simp [Json.escapeChar, scanFrom, Mode.step, Mode.unescaped]
  by_cases isControl : character.toNat < 32
  · obtain ⟨first, second, written, isFirst, isSecond⟩ :=
      exists_code_of_control isControl isShort
    rw [written]
    refine (scanFrom_code isFirst isSecond text rest).trans ?_
    rw [Nat.div_add_mod', Char.ofNat_toNat]
  · simp only [shortEscapes, List.mem_cons, List.not_mem_nil, or_false, not_or] at isShort
    simp [Json.escapeChar, isShort, isControl, scanFrom, Mode.step]

/-! ## Texts put together -/

/-- Whatever stands behind it, a text writes some tokens. -/
def Exact (text : String) (tokens : List Token) : Prop :=
  ∀ rest more, Spelled rest more → Spelled (text.toList ++ rest) (tokens ++ more)

/-- A text writes some tokens wherever a word may end behind it. -/
def Writes (text : String) (tokens : List Token) : Prop :=
  ∀ rest more, AtBoundary rest → Spelled rest more → Spelled (text.toList ++ rest) (tokens ++ more)

/-- In front of a text that opens, a word may end. -/
def Opens (text : String) : Prop := ∀ rest, AtBoundary (text.toList ++ rest)

variable {first second text separator : String} {tokens more : List Token} {token : Token}

theorem Exact.writes (exact : Exact text tokens) : Writes text tokens :=
  fun rest later _ spelled => exact rest later spelled

theorem Writes.spelled (writes : Writes text tokens) : Spelled text.toList tokens := by
  have whole := writes [] [] (by simp [AtBoundary]) .nil
  rwa [List.append_nil, List.append_nil] at whole

theorem Exact.append (ofFirst : Exact first tokens) (ofSecond : Exact second more) :
    Exact (first ++ second) (tokens ++ more) := by
  intro rest later spelled
  rw [String.toList_append, List.append_assoc, List.append_assoc]
  exact ofFirst _ _ (ofSecond rest later spelled)

theorem Exact.append_writes (ofFirst : Exact first tokens) (ofSecond : Writes second more) :
    Writes (first ++ second) (tokens ++ more) := by
  intro rest later boundary spelled
  rw [String.toList_append, List.append_assoc, List.append_assoc]
  exact ofFirst _ _ (ofSecond rest later boundary spelled)

theorem Writes.append_exact (ofFirst : Writes first tokens) (opens : Opens second)
    (ofSecond : Exact second more) : Exact (first ++ second) (tokens ++ more) := by
  intro rest later spelled
  rw [String.toList_append, List.append_assoc, List.append_assoc]
  exact ofFirst _ _ (opens rest) (ofSecond rest later spelled)

theorem Exact.join {α : Type} {items : List α} {textOf : α → String} {tokensOf : α → List Token}
    (ofItems : ∀ item ∈ items, Exact (textOf item) (tokensOf item)) :
    Exact (String.join (items.map textOf)) (items.flatMap tokensOf) := by
  intro rest later spelled
  rw [String.toList_join, List.flatMap_map]
  induction items with
  | nil => exact spelled
  | cons item others inductionHypothesis =>
      rw [List.forall_mem_cons] at ofItems
      rw [List.flatMap_cons, List.flatMap_cons, List.append_assoc, List.append_assoc]
      exact ofItems.1 _ _ (inductionHypothesis ofItems.2)

theorem Writes.intercalate {α : Type} {items : List α} {textOf : α → String}
    {tokensOf : α → List Token} (ofSeparator : Exact separator [token]) (opens : Opens separator)
    (nonempty : items ≠ []) (ofItems : ∀ item ∈ items, Writes (textOf item) (tokensOf item)) :
    Writes (separator.intercalate (items.map textOf))
      ([token].intercalate (items.map tokensOf)) := by
  intro rest later boundary spelled
  rw [String.toList_intercalate]
  induction items, nonempty using List.recNeNil with
  | singleton item => simpa using ofItems item List.mem_cons_self rest later boundary spelled
  | cons item others several inductionHypothesis =>
      obtain ⟨next, remaining, rfl⟩ := List.exists_cons_of_ne_nil several
      rw [List.forall_mem_cons] at ofItems
      have behind := ofSeparator _ _ (inductionHypothesis ofItems.2)
      have written := ofItems.1 _ _ (opens _) behind
      simpa [List.intercalate_cons_cons] using written

/-- A text of marks and blanks writes its marks. -/
theorem Exact.of_marks
    (only : text.toList.all (fun character => character.isWhitespace || (mark? character).isSome))
    (marks : text.toList.filterMap mark? = tokens) : Exact text tokens := by
  intro rest later spelled
  rw [← marks]
  generalize text.toList = characters at only ⊢
  clear marks
  induction characters with
  | nil => exact spelled
  | cons character others inductionHypothesis =>
      rw [List.all_cons, Bool.and_eq_true] at only
      have behind := inductionHypothesis only.2
      cases isMark : mark? character with
      | some token =>
          rw [List.filterMap_cons_some isMark]
          exact .mark isMark behind
      | none =>
          rw [List.filterMap_cons_none isMark]
          have isBlank : character.isWhitespace = true := by simpa [isMark] using only.1
          exact .blank isBlank behind

theorem Opens.of_head (starts : text.toList.head?.map isDelimiter = some true) : Opens text := by
  intro rest character isHead
  cases characters : text.toList with
  | nil => simp [characters] at starts
  | cons first others =>
      rw [characters] at starts isHead
      have same : first = character := by simpa using isHead
      simpa [same] using starts

theorem Writes.word (word : String) : Writes word [.word word] :=
  fun _ _ boundary spelled => .word word boundary spelled

/-- A word with marks behind it. -/
theorem Exact.word (word : String) (opens : Opens text) (ofText : Exact text tokens) :
    Exact (word ++ text) (.word word :: tokens) :=
  (Writes.word word).append_exact opens ofText

theorem Exact.literal (value : String) : Exact (Json.literal value) [.quoted value] := by
  intro rest later spelled
  rw [Json.literal, String.toList_ofList, List.append_assoc]
  exact .quoted escapes_literal value spelled

theorem Exact.quotedKey (name : String) : Exact (Script.literal name) [.quoted name] := by
  intro rest later spelled
  have isQuoted := Spelled.quoted escapes_key name spelled
  simpa [Script.literal, Script.escaped] using isQuoted

/-! ## Words -/

/-- Every character at which a word ends. -/
theorem isDelimiter_cases {character : Char} (ends : isDelimiter character = true) :
    character ∈ [' ', '\t', '\r', '\n', '"', '|', '&', '?', ':', ';', ',', '(', ')', '[', ']', '{',
      '}', '<', '>'] := by
  simp only [isDelimiter, Bool.or_eq_true, Char.isWhitespace, decide_eq_true_eq] at ends
  rcases ends with ((((rfl | rfl) | rfl) | rfl) | rfl) | isMark
  all_goals try decide
  unfold mark? at isMark
  split at isMark <;> first | decide | cases isMark

theorem isDelimiter_of_isNamePart {character : Char}
    (inName : Script.isNamePart character = true) : isDelimiter character = false := by
  by_contra ends
  have found := isDelimiter_cases (by simpa using ends)
  revert inName
  simp only [List.mem_cons, List.not_mem_nil, or_false] at found
  rcases found with rfl | rfl | rfl | rfl | rfl | rfl | rfl | rfl | rfl | rfl | rfl | rfl | rfl |
    rfl | rfl | rfl | rfl | rfl | rfl <;> decide

theorem isWord_of_isName {text : List Char} (isName : Script.IsName text) : IsWord text :=
  ⟨isName.nonempty, fun character member =>
    isDelimiter_of_isNamePart (isName.inName character member)⟩

theorem isWord_of_isPlainName {name : List Char} (plain : Script.isPlainName name = true) :
    IsWord name :=
  isWord_of_isName (Script.isName_of_isPlainName plain)

theorem isWord_of_mem_singleton {word keyword : String}
    (member : .word word ∈ [Token.word keyword])
    (plain : Script.isPlainName keyword.toList = true) : IsWord word.toList := by
  rw [List.mem_singleton, Token.word.injEq] at member
  rw [member]
  exact isWord_of_isPlainName plain

/-! ## Blanks at the start of a line -/

theorem Exact.indentation (level : Nat) : Exact (Script.indentation level) [] := by
  intro rest later spelled
  rw [Script.indentation, String.toList_ofList]
  induction 2 * level with
  | zero => exact spelled
  | succ count inductionHypothesis =>
      rw [List.replicate_succ]
      exact .blank rfl inductionHypothesis

end TypedClient.TypeText
