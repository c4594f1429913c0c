import TypedClient.Proofs.Script.StringLiteral
import TypedClient.Proofs.Script.Template
import TypedClient.Text.Blank

/-!
Contract: the tokens and brackets of code.

Owns:
- `Token` and `Tree`: tokens, and brackets with the rows of trees between their separators;
- which texts are words, and which words can name a variable or a type;
- `scan`, the trees of a text, character by character. A literal and a template are one token each;
  braces in which something ends in a semicolon are a block; comments are passed over.

Does not own: what a row of trees means. A line may end wherever a blank may stand, and there are
neither regular expressions nor literals between single quotes.
-/

namespace TypedClient.ScriptText

open Script (TemplatePart LiteralMode endsLine isNamePart isNameStart isReserved
  unescapedInTemplate?)

inductive Token where
  /-- A name or a keyword. -/
  | word (text : String)
  /-- A string literal, with the text that it stands for. -/
  | quoted (value : String)
  /-- A template: its substitutions, each with the text in front of it, and the text behind them,
  all with the ends of lines as they are written. -/
  | template (filled : List (List Char × String)) (last : List Char)
  | dot
  | colon
  | question
  | equals
  | arrow
  /-- A digit, or a sign that stands in types and operators only. -/
  | sign (character : Char)
deriving DecidableEq, Repr

inductive Bracket where
  | round
  | square
  | angle
  | brace
  /-- Braces around statements. -/
  | block
deriving DecidableEq, Repr

/-- A token, or a pair of brackets with what stands between its separators. -/
inductive Tree where
  | token (token : Token)
  | group (bracket : Bracket) (rows : List (List Tree))

/-- What stands between two separators. -/
abbrev Row := List Tree

/-! ## Words -/

/-- A letter beyond ASCII. Every other sign beyond ASCII that is no blank is taken for one, too. -/
def isForeign (character : Char) : Bool :=
  0x80 ≤ character.toNat && !Text.isBlank character && character ≠ '\uFEFF'

def isWordStart (character : Char) : Bool := isNameStart character || isForeign character

def isWordPart (character : Char) : Bool := isNamePart character || isForeign character

/-- A text that is a name or a keyword. -/
def isWord : List Char → Bool
  | [] => false
  | first :: rest => isWordStart first && rest.all isWordPart

/-- A word that no variable can have for its name. No generated identifier is `async` either, but a
variable may have this name. -/
def isKeyword (text : List Char) : Bool := isReserved text && text ≠ "async".toList

/-- A word that can name a variable. -/
def isVariable (text : List Char) : Bool := isWord text && !isKeyword text

/-- The words that take a type behind them where a type stands. -/
def typeOperators : List String := ["keyof", "unique", "readonly", "infer"]

/-- A word that can name a type. -/
def isTypeName (text : List Char) : Bool :=
  isVariable text && !typeOperators.contains (String.ofList text)

def isSign (character : Char) : Bool :=
  character.isDigit || ['|', '&', '+', '-'].contains character

/-- No word goes on in front of a text. -/
def EndsWord (rest : List Char) : Prop := ∀ first ∈ rest.head?, isWordPart first = false

/-! ## Scanning -/

/-- What is being read. -/
inductive Mode where
  | between
  | word (text : List Char)
  /-- Behind an equals sign, which may be part of an arrow. -/
  | equals
  | quoted (mode : LiteralMode) (written : List Char)
  /-- In the text of a template. -/
  | template (filled : List (List Char × String)) (text : List Char)
  /-- Behind a backslash in a template. -/
  | escape (filled : List (List Char × String)) (text : List Char)
  /-- Behind a dollar sign in a template, which may open a substitution. -/
  | dollar (filled : List (List Char × String)) (text : List Char)
  /-- In a substitution of a template. -/
  | code (filled : List (List Char × String)) (text code : List Char)
  /-- Behind a slash, which may open a comment. -/
  | slash
  /-- In a comment that ends where its line does. -/
  | lineComment
  /-- In a comment that its terminator ends; perhaps behind an asterisk. -/
  | comment (asterisk : Bool)

/-- A bracket that is open, with what stands in front of it in its own row. -/
structure Opened where
  bracket : Bracket
  rows : List Row
  before : Row

/-- Where the scanner is, with the brackets that are open, the innermost first, and the row that it
has read so far. -/
structure State where
  mode : Mode
  opened : List Opened
  row : Row

/-- A row that ends, if there is anything in it. -/
def ended (row : Row) : List Row := if row.isEmpty then [] else [row]

/-- The character that closes a bracket. -/
def Bracket.closer : Bracket → Char
  | .round => ')'
  | .square => ']'
  | .angle => '>'
  | .brace => '}'
  | .block => '}'

namespace State

def push (state : State) (token : Token) : State :=
  { state with mode := .between, row := state.row ++ [.token token] }

def enter (state : State) (bracket : Bracket) : State :=
  ⟨.between, ⟨bracket, [], state.row⟩ :: state.opened, []⟩

/-- A comma ends a row that is not empty, in any brackets but those around statements. -/
def separate (state : State) : Option State :=
  match state.opened with
  | ⟨bracket, rows, before⟩ :: outer =>
      if bracket = .block ∨ state.row.isEmpty then none
      else some ⟨.between, ⟨bracket, rows ++ [state.row], before⟩ :: outer, []⟩
  | [] => none

/-- A semicolon ends a statement: the first one shows that the braces are a block. -/
def terminate (state : State) : Option State :=
  match state.opened with
  | ⟨.block, rows, before⟩ :: outer =>
      if state.row.isEmpty then none
      else some ⟨.between, ⟨.block, rows ++ [state.row], before⟩ :: outer, []⟩
  | ⟨.brace, [], before⟩ :: outer =>
      if state.row.isEmpty then none
      else some ⟨.between, ⟨.block, [state.row], before⟩ :: outer, []⟩
  | _ => none

def leave (state : State) (closer : Char) : Option State :=
  match state.opened with
  | ⟨bracket, rows, before⟩ :: outer =>
      if bracket.closer = closer then
        some ⟨.between, outer, before ++ [.group bracket (rows ++ ended state.row)]⟩
      else none
  | [] => none

/-- Read a sign between tokens. -/
def sign (state : State) : Char → Option State
  | '"' => some { state with mode := .quoted .plain [] }
  | '\x60' => some { state with mode := .template [] [] }
  | '=' => some { state with mode := .equals }
  | '/' => some { state with mode := .slash }
  | '.' => some (state.push .dot)
  | ':' => some (state.push .colon)
  | '?' => some (state.push .question)
  | '(' => some (state.enter .round)
  | '[' => some (state.enter .square)
  | '<' => some (state.enter .angle)
  | '{' => some (state.enter .brace)
  | ',' => state.separate
  | ';' => state.terminate
  | ')' => state.leave ')'
  | ']' => state.leave ']'
  | '>' => state.leave '>'
  | '}' => state.leave '}'
  | character => if isSign character then some (state.push (.sign character)) else none

/-- Read a character between tokens. -/
def start (state : State) (character : Char) : Option State :=
  if isWordStart character then some { state with mode := .word [character] }
  else if Text.isBlank character then some { state with mode := .between }
  else state.sign character

/-- Read a character in the text of a template. -/
def stepTemplate (state : State) (filled : List (List Char × String)) (text : List Char)
    (character : Char) : State :=
  match character with
  | '\x60' => state.push (.template filled text)
  | '\\' => { state with mode := .escape filled text }
  | '$' => { state with mode := .dollar filled text }
  | _ => { state with mode := .template filled (text ++ [character]) }

def step (state : State) (character : Char) : Option State :=
  match state.mode with
  | .between => state.start character
  | .word text =>
      if isWordPart character then some { state with mode := .word (text ++ [character]) }
      else (state.push (.word (String.ofList text))).start character
  | .equals =>
      if character = '>' then some (state.push .arrow)
      else (state.push .equals).start character
  | .quoted mode written =>
      if character = '"' ∧ mode.mayEnd then some (state.push (.quoted (String.ofList written)))
      else (mode.step character).map (fun (next, more) =>
        { state with mode := .quoted next (written ++ more) })
  | .template filled text => some (state.stepTemplate filled text character)
  | .escape filled text => (unescapedInTemplate? character).map (fun unescaped =>
      { state with mode := .template filled (text ++ [unescaped]) })
  | .dollar filled text =>
      if character = '{' then some { state with mode := .code filled text [] }
      else some (state.stepTemplate filled (text ++ ['$']) character)
  | .code filled text code =>
      if character = '}' then
        some { state with mode := .template (filled ++ [(text, String.ofList code)]) [] }
      else some { state with mode := .code filled text (code ++ [character]) }
  | .slash =>
      if character = '/' then some { state with mode := .lineComment }
      else if character = '*' then some { state with mode := .comment false }
      else none
  | .lineComment =>
      some { state with mode := if endsLine character then .between else .lineComment }
  | .comment asterisk =>
      if asterisk ∧ character = '/' then some { state with mode := .between }
      else some { state with mode := .comment (character = '*') }

/-- The row of a text that ends here: every bracket and every literal has to be closed. -/
def finish (state : State) : Option Row :=
  match state.opened, state.mode with
  | [], .between => some state.row
  | [], .word text => some (state.row ++ [.token (.word (String.ofList text))])
  | [], .lineComment => some state.row
  | _, _ => none

end State

def scan (state : State) : List Char → Option Row
  | [] => state.finish
  | character :: rest => (state.step character).bind (fun next => scan next rest)

/-- The trees of a text; none if a bracket or a literal is not closed. -/
def readTrees (text : String) : Option Row := scan ⟨.between, [], []⟩ text.toList

end TypedClient.ScriptText
