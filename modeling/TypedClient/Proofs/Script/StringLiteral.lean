import Mathlib.Data.List.Basic
import TypedClient.Proofs.Script.Identifier
import TypedClient.Script.Literal
import TypedClient.Text.Digits

/-!
Contract: reading a string literal back.

Owns:
- `readLiteral`, the text that a string literal stands for, with what follows it: a backslash starts
  an escape, a quotation mark ends the literal, and no line may end inside;
- `readKey`, the same for the key of an object, which may be a plain name;
- that the literal and the key of a text are read back as this text exactly if no line ends in it.

Does not own: the texts for which literals are written.
-/

namespace TypedClient.Script

/-! ## Reading -/

/-- Where the reader of a literal is. -/
inductive LiteralMode where
  | plain
  /-- Behind a backslash. -/
  | escape
  /-- Behind the escape of the null character, which no digit may follow. -/
  | null
  /-- Behind an escaped carriage return, to which a line feed belongs. -/
  | carriageReturn
  /-- Behind the letter that announces the number of a character. -/
  | number
  /-- In a number with a fixed count of digits, of which some are left. -/
  | digits (value left : Nat)
  /-- In a number between braces; none before its first digit. -/
  | braces (value : Option Nat)

namespace LiteralMode

/-- The characters that end a line, and with it a literal that is not closed. -/
def isLineEnd (character : Char) : Bool := character = '\n' || character = '\r'

/-- What a character behind a backslash stands for, if it is not the start of a longer escape. A
line may be broken there, which stands for nothing. -/
def escaped? : Char → Option (List Char)
  | 'b' => some ['\x08']
  | 't' => some ['\t']
  | 'n' => some ['\n']
  | 'v' => some ['\x0b']
  | 'f' => some ['\x0c']
  | 'r' => some ['\r']
  | '\n' => some []
  | '\u2028' => some []
  | '\u2029' => some []
  | character => if character.isDigit then none else some [character]

/-- The character with a number. Half of a pair of units is none. -/
def numbered? (number : Nat) : Option (List Char) :=
  if number.isValidChar then some [Char.ofNat number] else none

def stepPlain (character : Char) : Option (LiteralMode × List Char) :=
  if character = '\\' then some (.escape, [])
  else if isLineEnd character then none
  else some (.plain, [character])

/-- Read one more character: the mode behind it, and what was written. -/
def step : LiteralMode → Char → Option (LiteralMode × List Char)
  | .plain, character => stepPlain character
  | .escape, 'x' => some (.digits 0 2, [])
  | .escape, 'u' => some (.number, [])
  | .escape, '0' => some (.null, ['\x00'])
  | .escape, '\r' => some (.carriageReturn, [])
  | .escape, character => (escaped? character).map (.plain, ·)
  | .null, character => if character.isDigit then none else stepPlain character
  | .carriageReturn, '\n' => some (.plain, [])
  | .carriageReturn, character => stepPlain character
  | .number, '{' => some (.braces none, [])
  | .number, character => (Text.digitValue? 16 character).map (fun digit => (.digits digit 3, []))
  | .digits value left, character => do
      let number := value * 16 + (← Text.digitValue? 16 character)
      if left ≤ 1 then (numbered? number).map (.plain, ·) else some (.digits number (left - 1), [])
  | .braces value, '}' => (value.bind numbered?).map (.plain, ·)
  | .braces value, character => (Text.digitValue? 16 character).map (fun digit =>
      (.braces (some (value.getD 0 * 16 + digit)), []))

/-- Whether a quotation mark ends the literal. -/
def mayEnd : LiteralMode → Bool
  | .plain => true
  | .null => true
  | .carriageReturn => true
  | _ => false

end LiteralMode

/-- Read a literal to its end, given what it has written so far. -/
def scanLiteral (mode : LiteralMode) (written : List Char) :
    List Char → Option (String × List Char)
  | [] => none
  | character :: rest =>
      if character = '"' ∧ mode.mayEnd then some (String.ofList written, rest)
      else do
        let (next, more) ← mode.step character
        scanLiteral next (written ++ more) rest

/-- The text that a string literal stands for, and what follows the literal. -/
def readLiteral : List Char → Option (String × List Char)
  | '"' :: rest => scanLiteral .plain [] rest
  | _ => none

-- Escapes that are never written are read all the same.
example :
    readLiteral "\"\\x41\\u0042\\u\x7b43\x7d\\n\" + 1".toList = some ("ABC\n", " + 1".toList) := by
  decide

/-- A plain name ends in front of a text: the text starts with no character that could go on with
the name, be it one beyond ASCII or an escape. -/
def EndsName (rest : List Char) : Prop :=
  ∀ first ∈ rest.head?, first.toNat < 0x80 ∧ isNamePart first = false ∧ first ≠ '\\'

instance : ∀ rest : List Char, Decidable (EndsName rest)
  | [] => .isTrue nofun
  | first :: _ => decidable_of_iff
      (first.toNat < 0x80 ∧ isNamePart first = false ∧ first ≠ '\\') (by simp [EndsName])

/-- The name that the key of an object stands for, and what follows the key. -/
def readKey (text : List Char) : Option (String × List Char) :=
  if text.head? = some '"' then readLiteral text
  else
    let name := text.takeWhile isNamePart
    let rest := text.dropWhile isNamePart
    if isPlainName name ∧ EndsName rest then some (String.ofList name, rest) else none

/-! ## Reading what was written -/

/-- No line ends in a text. -/
def OnOneLine (text : List Char) : Prop :=
  ∀ character ∈ text, LiteralMode.isLineEnd character = false

instance (text : List Char) : Decidable (OnOneLine text) :=
  List.decidableBAll (fun character => LiteralMode.isLineEnd character = false) text

variable {character : Char} {text written rest : List Char}

theorem scanLiteral_escapeChar (sameLine : LiteralMode.isLineEnd character = false) :
    scanLiteral .plain written (escapeChar character ++ rest) =
      scanLiteral .plain (written ++ [character]) rest := by
  unfold escapeChar
  split
  · rename_i special
    rcases special with rfl | rfl <;>
      simp [scanLiteral, LiteralMode.step, LiteralMode.stepPlain, LiteralMode.mayEnd,
        LiteralMode.escaped?]
  · rename_i plain
    rw [not_or] at plain
    simp [scanLiteral, LiteralMode.step, LiteralMode.stepPlain, plain.1, plain.2, sameLine]

theorem scanLiteral_lineEnd (lineEnds : LiteralMode.isLineEnd character = true) :
    scanLiteral .plain written (escapeChar character ++ rest) = none := by
  simp only [LiteralMode.isLineEnd, Bool.or_eq_true, decide_eq_true_eq] at lineEnds
  rcases lineEnds with rfl | rfl <;>
    simp [escapeChar, scanLiteral, LiteralMode.step, LiteralMode.stepPlain, LiteralMode.isLineEnd]

/-- A literal is read to the first line that ends in it. -/
theorem scanLiteral_escaped (written text rest : List Char) :
    scanLiteral .plain written (text.flatMap escapeChar ++ '"' :: rest) =
      if OnOneLine text then some (String.ofList (written ++ text), rest) else none := by
  induction text generalizing written with
  | nil => simp [scanLiteral, LiteralMode.mayEnd, OnOneLine]
  | cons character text inductionHypothesis =>
      have onOneLine : OnOneLine (character :: text) ↔
          LiteralMode.isLineEnd character = false ∧ OnOneLine text := List.forall_mem_cons
      rw [List.flatMap_cons, List.append_assoc]
      cases lineEnds : LiteralMode.isLineEnd character with
      | true => rw [scanLiteral_lineEnd lineEnds, if_neg (by simp [onOneLine, lineEnds])]
      | false =>
          rw [scanLiteral_escapeChar lineEnds, inductionHypothesis, List.append_assoc,
            List.singleton_append]
          simp only [onOneLine, lineEnds, true_and]

theorem toList_literal (text : String) :
    (literal text).toList = '"' :: (text.toList.flatMap escapeChar ++ ['"']) := by
  simp [literal, escaped]

/-- What a literal stands for, and what follows it. -/
theorem readLiteral_literal (text : String) (rest : List Char) :
    readLiteral ((literal text).toList ++ rest) =
      if OnOneLine text.toList then some (text, rest) else none := by
  rw [toList_literal, List.cons_append, List.append_assoc, List.singleton_append, readLiteral,
    scanLiteral_escaped, List.nil_append, String.ofList_toList]

/-- No name holds a quotation mark or the end of a line. -/
theorem not_special_of_isNamePart (inName : isNamePart character = true) :
    character ≠ '"' ∧ LiteralMode.isLineEnd character = false := by
  refine ⟨?_, Bool.eq_false_iff.2 fun lineEnds => ?_⟩
  · rintro rfl
    exact absurd inName (by decide)
  · simp only [LiteralMode.isLineEnd, Bool.or_eq_true, decide_eq_true_eq] at lineEnds
    rcases lineEnds with rfl | rfl <;> exact absurd inName (by decide)

theorem onOneLine_of_inName (inName : InName text) : OnOneLine text :=
  fun character member => (not_special_of_isNamePart (inName character member)).2

theorem onOneLine_of_isPlainName (isPlain : isPlainName text = true) : OnOneLine text :=
  onOneLine_of_inName (isName_of_isPlainName isPlain).inName

/-- A name is read up to the text in front of which it ends. -/
theorem span_of_endsName (inName : InName text) (ends : EndsName rest) :
    (text ++ rest).takeWhile isNamePart = text ∧ (text ++ rest).dropWhile isNamePart = rest := by
  rw [List.takeWhile_append_of_pos inName, List.dropWhile_append_of_pos inName]
  cases rest with
  | nil => simp
  | cons first others =>
      have notPart : isNamePart first = false := (ends first rfl).2.1
      simp [notPart]

theorem readKey_plain {name : String} (isPlain : isPlainName name.toList = true)
    (ends : EndsName rest) : readKey (name.toList ++ rest) = some (name, rest) := by
  have isName := isName_of_isPlainName isPlain
  have notQuoted : (name.toList ++ rest).head? ≠ some '"' := by
    rw [List.head?_append_of_ne_nil _ isName.nonempty]
    intro quoted
    exact (not_special_of_isNamePart (isName.inName '"' (List.mem_of_mem_head? quoted))).1 rfl
  obtain ⟨taken, dropped⟩ := span_of_endsName isName.inName ends
  rw [readKey, if_neg notQuoted]
  simp only [taken, dropped, isPlain, ends, and_self, if_true, String.ofList_toList]

/-- What the key of a text stands for, and what follows it. -/
theorem readKey_key (text : String) (ends : EndsName rest) :
    readKey ((key text).toList ++ rest) =
      if OnOneLine text.toList then some (text, rest) else none := by
  unfold key
  split
  · rename_i isPlain
    rw [readKey_plain isPlain ends, if_pos (onOneLine_of_isPlainName isPlain)]
  · rw [readKey, if_pos (by rw [toList_literal]; rfl), readLiteral_literal]

/-- The literal of a text, read back, is this text exactly if no line ends in it, and so is its key
wherever no name goes on behind it. The literal of any other text is none at all: its line ends
before the literal does. -/
theorem literal_reads_back_iff (text : String) :
    (∀ rest, readLiteral ((literal text).toList ++ rest) = some (text, rest) ↔
      OnOneLine text.toList) ∧
    (∀ rest, EndsName rest → (readKey ((key text).toList ++ rest) = some (text, rest) ↔
      OnOneLine text.toList)) ∧
    (¬ OnOneLine text.toList → ∀ rest,
      readLiteral ((literal text).toList ++ rest) = none ∧
      (EndsName rest → readKey ((key text).toList ++ rest) = none)) := by
  refine ⟨fun rest => ?_, fun rest ends => ?_, fun broken rest => ⟨?_, fun ends => ?_⟩⟩
  · simp [readLiteral_literal]
  · simp [readKey_key text ends]
  · rw [readLiteral_literal, if_neg broken]
  · rw [readKey_key text ends, if_neg broken]

theorem key_with_blank_reads_back :
    EndsName [':'] ∧
    readKey ((key "content \"type\"").toList ++ [':']) = some ("content \"type\"", [':']) :=
  ⟨by decide, ((literal_reads_back_iff "content \"type\"").2.1 [':'] (by decide)).2 (by decide)⟩

theorem broken_line_reads_nothing :
    readLiteral (literal "a\nb").toList = none ∧ readKey (key "a\nb").toList = none := by
  decide

end TypedClient.Script
