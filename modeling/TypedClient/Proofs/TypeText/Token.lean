import TypedClient.Text.Digits

/-!
Contract: the tokens of a type expression.

Owns:
- `Token`, with a property key and a literal as one token each;
- `scan`, the tokens of a text, character by character;
- which texts are words, and where a word ends.

Does not own: which tokens a given text has, and what a row of tokens means.
-/

namespace TypedClient.TypeText

inductive Token where
  /-- A name, a keyword or a number. -/
  | word (text : String)
  /-- A text between quotation marks; the value is what its escapes stand for. -/
  | quoted (value : String)
  | bar
  | ampersand
  | question
  | colon
  | semicolon
  | comma
  | openGroup
  | closeGroup
  | openBracket
  | closeBracket
  | openBrace
  | closeBrace
  | openAngle
  | closeAngle
deriving DecidableEq, Repr

/-- The token that a single character makes. -/
def mark? : Char → Option Token
  | '|' => some .bar
  | '&' => some .ampersand
  | '?' => some .question
  | ':' => some .colon
  | ';' => some .semicolon
  | ',' => some .comma
  | '(' => some .openGroup
  | ')' => some .closeGroup
  | '[' => some .openBracket
  | ']' => some .closeBracket
  | '{' => some .openBrace
  | '}' => some .closeBrace
  | '<' => some .openAngle
  | '>' => some .closeAngle
  | _ => none

/-- The characters at which a word ends. -/
def isDelimiter (character : Char) : Bool :=
  character.isWhitespace || character = '"' || (mark? character).isSome

/-- No character of a text ends a word. -/
def InWord (text : List Char) : Prop :=
  ∀ character ∈ text, isDelimiter character = false

-- Named, since a search may settle the statement by a run over all characters there are.
instance (text : List Char) : Decidable (InWord text) :=
  List.decidableBAll (fun character => isDelimiter character = false) text

def IsWord (text : List Char) : Prop :=
  text ≠ [] ∧ InWord text

instance (text : List Char) : Decidable (IsWord text) :=
  inferInstanceAs (Decidable (text ≠ [] ∧ InWord text))

def AtBoundary (rest : List Char) : Prop :=
  ∀ character ∈ rest.head?, isDelimiter character = true

/-! ## Scanning -/

/-- Where the scanner is: between tokens, or inside one of which it has read some text. -/
inductive Mode where
  | between
  | word (text : List Char)
  | quoted (text : List Char)
  | escape (text : List Char)
  /-- In the number of a character, with so many digits left. -/
  | code (text : List Char) (value left : Nat)
deriving DecidableEq, Repr

namespace Mode

def start (character : Char) : Mode × List Token :=
  if character.isWhitespace then (.between, [])
  else if character = '"' then (.quoted [], [])
  else
    match mark? character with
    | some token => (.between, [token])
    | none => (.word [character], [])

/-- What a character behind a backslash stands for. -/
def unescaped : Char → Char
  | 'n' => '\n'
  | 'r' => '\r'
  | 't' => '\t'
  | 'b' => '\x08'
  | 'f' => '\x0c'
  | character => character

def step : Mode → Char → Option (Mode × List Token)
  | .between, character => some (start character)
  | .word text, character =>
      if isDelimiter character then
        some ((start character).1, .word (String.ofList text) :: (start character).2)
      else some (.word (text ++ [character]), [])
  | .quoted text, character =>
      if character = '"' then some (.between, [.quoted (String.ofList text)])
      else if character = '\\' then some (.escape text, [])
      else some (.quoted (text ++ [character]), [])
  | .escape text, character =>
      if character = 'u' then some (.code text 0 4, [])
      else some (.quoted (text ++ [unescaped character]), [])
  | .code text value left, character => do
      let digit ← Text.digitValue? 16 character
      let number := value * 16 + digit
      return (if left ≤ 1 then .quoted (text ++ [Char.ofNat number])
        else .code text number (left - 1), [])

def finish : Mode → Option (List Token)
  | .between => some []
  | .word text => some [.word (String.ofList text)]
  | _ => none

end Mode

def scanFrom (mode : Mode) : List Char → Option (List Token)
  | [] => mode.finish
  | character :: rest => do
      let (next, tokens) ← mode.step character
      let later ← scanFrom next rest
      return tokens ++ later

/-- The tokens of a text; none if a text between quotation marks is not closed. -/
def scan (text : String) : Option (List Token) := scanFrom .between text.toList

end TypedClient.TypeText
