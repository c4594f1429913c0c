import TypedClient.Yaml.Token

/-!
Contract: moving through a YAML text.

Owns:
- the classes of characters: blanks, line breaks, and the characters of names;
- `Lexer`, the state of cutting a text into tokens, and `Lex`, a step of it;
- passing over characters and line breaks.

Does not own: the shapes of tokens.
-/

namespace TypedClient.Yaml

/-- A blank inside a line. -/
def isBlank (character : Char) : Bool := character = ' ' || character = '\t'

/-- A line break; a carriage return and a line feed after it are one. -/
def isBreak (character : Char) : Bool :=
  character = '\r' || character = '\n' || character = '\u0085' || character = '\u2028' ||
    character = '\u2029'

def isNameChar (character : Char) : Bool :=
  character.isAlphanum || character = '_' || character = '-'

def orEnd (class_ : Char → Bool) : Option Char → Bool
  | none => true
  | some character => class_ character

def breakOrEnd : Option Char → Bool := orEnd isBreak

/-- A blank, a line break or the end. -/
def blankOrEnd : Option Char → Bool :=
  orEnd (fun character => isBlank character || isBreak character)

/-- A place at which a key may turn out to have started. -/
structure PendingKey where
  /-- The number of the token that would be the key. -/
  number : Nat
  /-- Whether nothing but a key may stand there. -/
  required : Bool
  mark : Mark
deriving DecidableEq, Repr

/-- The state of cutting a text into tokens. -/
structure Lexer where
  rest : List Char
  /-- The length of the whole text, which bounds the steps of every loop. -/
  size : Nat
  mark : Mark := {}
  /-- The column of the innermost block collection; none is open at -1. -/
  indent : Int := -1
  outerIndents : List Int := []
  /-- Whether a key may start here. -/
  keyAllowed : Bool := true
  /-- For each open flow collection, innermost first, and for the block outside of them, the place
  at which a key may have started. -/
  keys : List (Option PendingKey) := [none]
  /-- The tokens in front of which a key may still have to be put. -/
  queue : List Token := []
  /-- The tokens that are final, last one first, and their number. -/
  released : List Token := []
  releasedCount : Nat := 0
  finished : Bool := false

/-- A step of cutting a text into tokens. -/
abbrev Lex := StateT Lexer (Except Fault)

/-- Whether a flow collection is open. -/
def Lexer.inFlow (lexer : Lexer) : Bool := 1 < lexer.keys.length

/-- The state after so many characters, none of them a line break. -/
def Lexer.skip (lexer : Lexer) (count : Nat) : Lexer :=
  { lexer with
    rest := lexer.rest.drop count
    mark := ⟨lexer.mark.index + count, lexer.mark.line, lexer.mark.column + count⟩ }

/-- The state after so many characters that end a line. -/
def Lexer.skipBreak (lexer : Lexer) (count : Nat) : Lexer :=
  { lexer with
    rest := lexer.rest.drop count
    mark := ⟨lexer.mark.index + count, lexer.mark.line + 1, 0⟩ }

namespace Lex

def peekAt (distance : Nat) : Lex (Option Char) := do
  return (← get).rest[distance]?

/-- The next character, if there is one. -/
def peek : Lex (Option Char) := do
  return (← get).rest.head?

/-- Whether the next character is a given one. -/
def sees (character : Char) : Lex Bool := do
  return (← get).rest.head? = some character

/-- The place reached. -/
def here : Lex Mark := do
  return (← get).mark

/-- Pass over characters, none of them a line break. -/
def skip (count : Nat) : Lex Unit := modify (Lexer.skip · count)

/-- Pass over the characters of a class, none of them a line break, and yield them. -/
def takeWhile (class_ : Char → Bool) : Lex (List Char) := do
  let taken := (← get).rest.takeWhile class_
  skip taken.length
  return taken

/-- Pass over a line break and yield it; the breaks of one and two characters that stand for a line
feed are written as such. -/
def lineBreak : Lex (List Char) := do
  let lexer ← get
  match lexer.rest with
  | '\r' :: '\n' :: _ =>
      set (lexer.skipBreak 2)
      return ['\n']
  | character :: _ =>
      if isBreak character then
        set (lexer.skipBreak 1)
        return [if character = '\u2028' || character = '\u2029' then character else '\n']
      else return []
  | [] => return []

/-- Break off at the place reached. -/
def fail {α : Type} (problem : Problem) (context : Option (Activity × Mark)) : Lex α := do
  throw ⟨problem, ← here, context⟩

/-- Break off at the place reached, while something was being read since a place. -/
def failWhile {α : Type} (activity : Activity) (since : Mark) (problem : Problem) : Lex α :=
  fail problem (some (activity, since))

/-- Whether a mark of a document stands here at the start of a line. -/
def atDocumentMark : Lex Bool := do
  let lexer ← get
  let marked :=
    match lexer.rest with
    | '-' :: '-' :: '-' :: after => blankOrEnd after.head?
    | '.' :: '.' :: '.' :: after => blankOrEnd after.head?
    | _ => false
  return lexer.mark.column = 0 && marked

/-- A bound on the steps of a loop that passes over characters. -/
def bound : Lex Nat := do
  return (← get).size + 1

/-- Pass over blanks and a comment, and then over the end of the line. -/
def finishLine (activity : Activity) (since : Mark) : Lex Unit := do
  let _ ← takeWhile isBlank
  if ← sees '#' then
    let _ ← takeWhile (fun character => !isBreak character)
  if !breakOrEnd (← peek) then failWhile activity since .noLineEnd
  let _ ← lineBreak

end Lex

end TypedClient.Yaml
