import TypedClient.Text.Digits
import TypedClient.Yaml.Token.Cursor

/-!
Contract: the scalars of a YAML text.

Owns:
- plain scalars, quoted scalars with their escapes, and block scalars with their indentation;
- the folding of lines.

Does not own: where a scalar may stand, and what it means.
-/

namespace TypedClient.Yaml.Lex

/-- A run of blanks and line breaks: the blanks before the first break, the first break, the later
breaks. -/
structure Gap where
  blanks : List Char := []
  first : List Char := []
  later : List Char := []
  /-- Whether the run goes to another line. -/
  isBroken : Bool := false

/-- What a gap between two parts of a scalar stands for: its blanks, a blank for a single line feed,
or its breaks without the first line feed. -/
def Gap.folded (gap : Gap) : List Char :=
  if !gap.isBroken then gap.blanks
  else if gap.first = ['\n'] then (if gap.later.isEmpty then [' '] else gap.later)
  else gap.first ++ gap.later

/-- Pass over a run of blanks and line breaks. A tab after a break is refused in front of a column,
if there is one. -/
def gapFrom (tabLimit : Option (Int × Mark)) (gap : Gap) : Nat → Lex Gap
  | 0 => return gap
  | steps + 1 => do
      match ← peek with
      | none => return gap
      | some character =>
          if isBlank character then
            if let some (limit, since) := tabLimit then
              if gap.isBroken && character = '\t' && (← here).column < limit then
                failWhile .plainScalar since .tabBelowIndentation
            skip 1
            gapFrom tabLimit
              (if gap.isBroken then gap else { gap with blanks := gap.blanks ++ [character] }) steps
          else if isBreak character then
            let written ← lineBreak
            gapFrom tabLimit
              (if gap.isBroken then { gap with later := gap.later ++ written }
                else { gap with first := written, isBroken := true }) steps
          else return gap

/-- Pass over a run of blanks and line breaks. -/
def gap (tabLimit : Option (Int × Mark)) (isBroken : Bool) : Lex Gap := do
  gapFrom tabLimit { isBroken } (← bound)

/-- The escapes of one letter. -/
def shortEscape? : Char → Option Char
  | '0' => some '\x00'
  | 'a' => some '\x07'
  | 'b' => some '\x08'
  | 't' => some '\t'
  | '\t' => some '\t'
  | 'n' => some '\n'
  | 'v' => some '\x0b'
  | 'f' => some '\x0c'
  | 'r' => some '\r'
  | 'e' => some '\x1b'
  | ' ' => some ' '
  | '"' => some '"'
  | '/' => some '/'
  | '\\' => some '\\'
  | 'N' => some '\u0085'
  | '_' => some '\u00a0'
  | 'L' => some '\u2028'
  | 'P' => some '\u2029'
  | _ => none

/-- The escapes with digits, and how many of them. -/
def digitCount? : Char → Option Nat
  | 'x' => some 2
  | 'u' => some 4
  | 'U' => some 8
  | _ => none

/-- An escape after its backslash, in a scalar that started at a place. -/
def escape (since : Mark) : Lex Char := do
  let letter := (← peekAt 1).getD '\x00'
  match shortEscape? letter with
  | some character =>
      skip 2
      return character
  | none =>
      match digitCount? letter with
      | none => failWhile .quotedCharacter since .unknownEscape
      | some count =>
          skip 2
          let digits := (← get).rest.take count
          match if digits.length = count then Text.natural? 16 digits else none with
          | none => failWhile .quotedCharacter since .badEscapeDigit
          | some number =>
              if number.isValidChar then
                skip count
                return Char.ofNat number
              else failWhile .quotedCharacter since .badEscapeValue

/-- The characters of a quoted scalar up to a blank, a line break or the closing mark, in reverse
before those collected, and whether an escaped line break ended them. -/
def quotedWord (isSingle : Bool) (since : Mark) (collected : List Char) :
    Nat → Lex (List Char × Bool)
  | 0 => return (collected, false)
  | steps + 1 => do
      match ← peek with
      | none => return (collected, false)
      | some character =>
          if isBlank character || isBreak character then return (collected, false)
          else if isSingle && character = '\'' then
            if (← peekAt 1) = some '\'' then
              skip 2
              quotedWord isSingle since ('\'' :: collected) steps
            else return (collected, false)
          else if !isSingle && character = '"' then return (collected, false)
          else if !isSingle && character = '\\' then
            if ((← peekAt 1).map isBreak).getD false then
              skip 1
              let _ ← lineBreak
              return (collected, true)
            else
              let escaped ← escape since
              quotedWord isSingle since (escaped :: collected) steps
          else
            skip 1
            quotedWord isSingle since (character :: collected) steps

/-- The content of a quoted scalar up to its closing mark, in reverse before the characters
collected. -/
def quotedFrom (isSingle : Bool) (since : Mark) (collected : List Char) : Nat → Lex (List Char)
  | 0 => failWhile .quotedScalar since .endOfText
  | steps + 1 => do
      if ← atDocumentMark then failWhile .quotedScalar since .documentMark
      if (← peek).isNone then failWhile .quotedScalar since .endOfText
      let (word, isBroken) ← quotedWord isSingle since collected (← bound)
      if ← sees (if isSingle then '\'' else '"') then return word
      let gap ← gap none isBroken
      quotedFrom isSingle since (gap.folded.reverse ++ word) steps

/-- A quoted scalar. -/
def quoted (isSingle : Bool) : Lex Token := do
  let start ← here
  skip 1
  let content ← quotedFrom isSingle start [] (← bound)
  skip 1
  return ⟨.scalar (String.ofList content.reverse) false, start, ← here⟩

/-- The characters that end a plain scalar inside a flow collection. -/
def isFlowMark (character : Char) : Bool := [',', '[', ']', '{', '}'].contains character

/-- The characters of a plain scalar up to a blank, a line break or a mark, in reverse. -/
def plainWord (since : Mark) (collected : List Char) : Nat → Lex (List Char)
  | 0 => return collected
  | steps + 1 => do
      let lexer ← get
      match lexer.rest with
      | [] => return collected
      | character :: after =>
          if isBlank character || isBreak character then return collected
          else
            let next := after.head?
            if lexer.inFlow && character = ':' &&
                (next.map (fun mark => mark = '?' || isFlowMark mark)).getD false then
              failWhile .plainScalar since .unexpectedColon
            if character = ':' && blankOrEnd next then return collected
            else if lexer.inFlow && isFlowMark character then return collected
            else
              skip 1
              plainWord since (character :: collected) steps

/-- The content of a plain scalar, in reverse, and whether a line break follows it. `pending` is
what the gap before the next word stands for. -/
def plainFrom (since : Mark) (limit : Int) (collected pending : List Char) (isBroken : Bool) :
    Nat → Lex (List Char × Bool)
  | 0 => return (collected, isBroken)
  | steps + 1 => do
      if (← atDocumentMark) || (← sees '#') then return (collected, isBroken)
      let word ← plainWord since [] (← bound)
      let (collected, isBroken) :=
        if word.isEmpty then (collected, isBroken)
        else (word ++ (pending.reverse ++ collected), false)
      if !((← peek).map (fun character => isBlank character || isBreak character)).getD false then
        return (collected, isBroken)
      let gap ← gap (some (limit, since)) isBroken
      let lexer ← get
      if !lexer.inFlow && lexer.mark.column < limit then return (collected, gap.isBroken)
      plainFrom since limit collected gap.folded gap.isBroken steps

/-- A plain scalar. After a line break a key may start. -/
def plain : Lex Token := do
  let lexer ← get
  let start := lexer.mark
  let (content, isBroken) ←
    plainFrom start (lexer.indent + 1) [] [] false (← bound)
  if isBroken then modify ({ · with keyAllowed := true })
  return ⟨.scalar (String.ofList content.reverse) true, start, ← here⟩

/-- Which line breaks at the end of a block scalar are kept. -/
inductive Chomping where
  | strip
  | clip
  | keep
deriving DecidableEq, Repr

/-- The chomping mark that stands here, if one does. -/
def chomping? : Lex (Option Chomping) := do
  match ← peek with
  | some '+' =>
      skip 1
      return some .keep
  | some '-' =>
      skip 1
      return some .strip
  | _ => return none

/-- The indentation mark that stands here, if one does. -/
def indentation? (since : Mark) : Lex (Option Nat) := do
  match ← peek with
  | some character =>
      if !character.isDigit then return none
      else if character = '0' then failWhile .blockScalar since .zeroIndentation
      else
        skip 1
        return some (character.toNat - '0'.toNat)
  | none => return none

/-- The marks in the first line of a block scalar, in either order. -/
def blockHeader (since : Mark) : Lex (Chomping × Option Nat) := do
  match ← chomping? with
  | some chomping => return (chomping, ← indentation? since)
  | none =>
      match ← indentation? since with
      | some indentation => return ((← chomping?).getD .clip, some indentation)
      | none => return (.clip, none)

/-- Pass over the blanks in front of a line and over empty lines. Yields the line breaks and the
largest column reached. Without an indentation all blanks are passed over. -/
def emptyLinesFrom (since : Mark) (indentation : Option Int) (breaks : List Char) (widest : Nat) :
    Nat → Lex (List Char × Nat)
  | 0 => return (breaks, widest)
  | steps + 1 => do
      let lexer ← get
      let blanks := (lexer.rest.takeWhile (· = ' ')).length
      skip (match indentation with
        | none => blanks
        | some limit => min blanks (limit - lexer.mark.column).toNat)
      let column := (← here).column
      let isShort :=
        match indentation with
        | none => true
        | some limit => decide ((column : Int) < limit)
      if isShort && (← sees '\t') then failWhile .blockScalar since .tabInIndentation
      if ((← peek).map isBreak).getD false then
        let written ← lineBreak
        emptyLinesFrom since indentation (breaks ++ written) (max widest column) steps
      else return (breaks, max widest column)

/-- Pass over empty lines and yield their line breaks and the indentation, which the widest of them
or the first line decides if nothing else did. -/
def emptyLines (since : Mark) (indentation : Option Int) : Lex (List Char × Int) := do
  let (breaks, widest) ← emptyLinesFrom since indentation [] 0 (← bound)
  let own := (← get).indent + 1
  return (breaks, indentation.getD (max (max widest own) 1))

/-- The lines of a block scalar so far. -/
structure BlockLines where
  /-- The content in reverse. -/
  content : List Char := []
  /-- The break after the last line. -/
  last : List Char := []
  /-- The breaks of the empty lines after it. -/
  empty : List Char
  /-- Whether the last line starts with a blank. -/
  isIndented : Bool := false

/-- What stands between the last line and the next one. In a folded scalar the break between two
lines that start with no blank becomes a blank, or goes away in front of empty lines. -/
def BlockLines.joint (lines : BlockLines) (isLiteral isIndented : Bool) : List Char :=
  if !isLiteral && lines.last = ['\n'] && !lines.isIndented && !isIndented then
    if lines.empty.isEmpty then [' '] else lines.empty
  else lines.last ++ lines.empty

def blockLinesFrom (since : Mark) (isLiteral : Bool) (indentation : Int) (lines : BlockLines) :
    Nat → Lex BlockLines
  | 0 => return lines
  | steps + 1 => do
      let lexer ← get
      match lexer.rest with
      | [] => return lines
      | character :: _ =>
          if lexer.mark.column ≠ indentation then return lines
          else
            let isIndented := isBlank character
            let text ← takeWhile (fun character => !isBreak character)
            let last ← lineBreak
            let (empty, _) ← emptyLines since (some indentation)
            let content :=
              text.reverse ++ ((lines.joint isLiteral isIndented).reverse ++ lines.content)
            blockLinesFrom since isLiteral indentation { content, last, empty, isIndented } steps

/-- A block scalar. -/
def block (isLiteral : Bool) : Lex Token := do
  let start ← here
  skip 1
  let (chomping, mark) ← blockHeader start
  finishLine .blockScalar start
  let outer := max (← get).indent 0
  let (empty, indentation) ← emptyLines start (mark.map (fun mark => outer + (mark : Int)))
  let lines ← blockLinesFrom start isLiteral indentation { empty } (← bound)
  let tail :=
    match chomping with
    | .strip => []
    | .clip => lines.last
    | .keep => lines.last ++ lines.empty
  return ⟨.scalar (String.ofList (lines.content.reverse ++ tail)) false, start, ← here⟩

end TypedClient.Yaml.Lex
