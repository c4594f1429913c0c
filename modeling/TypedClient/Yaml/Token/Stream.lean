import TypedClient.Yaml.Token.Scalar
import TypedClient.Yaml.Token.Tag

/-!
Contract: a YAML text as a list of tokens.

Owns:
- what is skipped between tokens;
- the tokens for the start and the end of block collections, which follow from the indentation;
- keys that are recognised by the colon behind them, for which a token is put in front;
- `tokens`, the tokens of a text up to a fault.

Does not own: which order of tokens makes sense.
-/

namespace TypedClient.Yaml

namespace Lex

/-- Put a token behind the others. -/
def emit (token : Token) : Lex Unit :=
  modify (fun lexer => { lexer with queue := lexer.queue ++ [token] })

/-- Put a token without an extent behind the others. -/
def emitAt (kind : TokenKind) (mark : Mark) : Lex Unit := emit ⟨kind, mark, mark⟩

def emitBefore (number : Nat) (kind : TokenKind) (mark : Mark) : Lex Unit :=
  modify (fun lexer =>
    let position := number - lexer.releasedCount
    { lexer with
      queue := lexer.queue.take position ++ ⟨kind, mark, mark⟩ :: lexer.queue.drop position })

def allowKey (isAllowed : Bool) : Lex Unit := modify ({ · with keyAllowed := isAllowed })

/-- Give up a place at which a key may have started. A required key is missed. -/
def forget (key : Option PendingKey) : Lex Unit := do
  if let some key := key then
    if key.required then failWhile .simpleKey key.mark .keyWithoutColon

/-- Give up the innermost place at which a key may have started. -/
def forgetKey : Lex Unit := do
  let lexer ← get
  forget lexer.keys.head?.join
  set { lexer with keys := none :: lexer.keys.drop 1 }

/-- Remember that a key may start here, if one is allowed. In a block, a key is required at the
indentation of the block. -/
def rememberKey : Lex Unit := do
  let lexer ← get
  if lexer.keyAllowed then
    forgetKey
    let key : PendingKey :=
      ⟨lexer.releasedCount + lexer.queue.length,
        !lexer.inFlow && lexer.indent = lexer.mark.column, lexer.mark⟩
    modify (fun lexer => { lexer with keys := some key :: lexer.keys.drop 1 })

/-- Whether a place is too far back for a key: on an earlier line, or more than 1024 characters
ago. -/
def isStale (mark : Mark) (key : PendingKey) : Bool :=
  key.mark.line < mark.line || key.mark.index + 1024 < mark.index

/-- The places without those that are too far back, the outermost ones first. -/
def forgetStaleAmong : List (Option PendingKey) → Lex (List (Option PendingKey))
  | [] => return []
  | key :: rest => do
      let rest ← forgetStaleAmong rest
      match key with
      | some pending =>
          if isStale (← here) pending then
            forget key
            return none :: rest
          else return key :: rest
      | none => return none :: rest

/-- Give up the places that are too far back. -/
def forgetStale : Lex Unit := do
  let keys ← forgetStaleAmong (← get).keys
  modify ({ · with keys })

/-- Open a block collection if the column is further to the right than the innermost one. Its token
goes to the end, or in front of the token with a number. -/
def indentTo (column : Nat) (number : Option Nat) (kind : TokenKind) (mark : Mark) : Lex Unit := do
  let lexer ← get
  if !lexer.inFlow && lexer.indent < column then
    set { lexer with indent := column, outerIndents := lexer.indent :: lexer.outerIndents }
    match number with
    | none => emitAt kind mark
    | some number => emitBefore number kind mark

/-- The block collections that stay open when a column is reached, and the number of those that are
closed. -/
def closeIndents (column : Int) (indent : Int) : List Int → Int × List Int × Nat
  | [] => (indent, [], 0)
  | outer :: rest =>
      if column < indent then
        let (indent, outerIndents, closed) := closeIndents column outer rest
        (indent, outerIndents, closed + 1)
      else (indent, outer :: rest, 0)

/-- Close the block collections to the right of a column. -/
def dedentTo (column : Int) : Lex Unit := do
  let lexer ← get
  if !lexer.inFlow then
    let (indent, outerIndents, closed) := closeIndents column lexer.indent lexer.outerIndents
    let ends := List.replicate closed ⟨.blockEnd, lexer.mark, lexer.mark⟩
    set { lexer with indent, outerIndents, queue := lexer.queue ++ ends }

/-- Pass over blanks, comments and line breaks. A tab is no blank where a block key may start. -/
def skipToToken : Nat → Lex Unit
  | 0 => return ()
  | steps + 1 => do
      let lexer ← get
      if lexer.mark.index = 0 && (← sees '\uFEFF') then skip 1
      let tabs := lexer.inFlow || !lexer.keyAllowed
      let _ ← takeWhile (fun character => character = ' ' || (tabs && character = '\t'))
      if ← sees '#' then
        let _ ← takeWhile (fun character => !isBreak character)
      if ((← peek).map isBreak).getD false then
        let _ ← lineBreak
        if !lexer.inFlow then allowKey true
        skipToToken steps

/-- A token of so many characters. -/
def mark (kind : TokenKind) (count : Nat) : Lex Unit := do
  let start ← here
  skip count
  emit ⟨kind, start, ← here⟩

/-- The end of the text: all block collections are closed, and a new line is started. -/
def endOfText : Lex Unit := do
  modify (fun lexer =>
    if lexer.mark.column = 0 then lexer
    else { lexer with mark := ⟨lexer.mark.index, lexer.mark.line + 1, 0⟩ })
  dedentTo (-1)
  forgetKey
  allowKey false
  emitAt .streamEnd (← here)
  modify ({ · with finished := true })

/-- A directive or a mark of a document, which close all block collections. -/
def atMargin (token : Lex Unit) : Lex Unit := do
  dedentTo (-1)
  forgetKey
  allowKey false
  token

/-- The start of a flow collection. -/
def openFlow (kind : TokenKind) : Lex Unit := do
  rememberKey
  modify (fun lexer => { lexer with keys := none :: lexer.keys })
  allowKey true
  mark kind 1

/-- The end of a flow collection. -/
def closeFlow (kind : TokenKind) : Lex Unit := do
  forgetKey
  modify (fun lexer =>
    { lexer with keys := if lexer.inFlow then lexer.keys.drop 1 else lexer.keys })
  allowKey false
  mark kind 1

/-- The mark between the entries of a flow collection. -/
def flowEntry : Lex Unit := do
  forgetKey
  allowKey true
  mark .flowEntry 1

/-- The mark of an entry of a block sequence, or of a key that is marked as such. -/
def blockMark (problem : Problem) (opening : TokenKind) : Lex Unit := do
  let lexer ← get
  if !lexer.inFlow then
    if !lexer.keyAllowed then fail problem none
    indentTo lexer.mark.column none opening lexer.mark

/-- The mark of an entry of a block sequence. -/
def blockEntry : Lex Unit := do
  blockMark .blockEntryNotAllowed .blockSequenceStart
  forgetKey
  allowKey true
  mark .blockEntry 1

/-- The mark in front of a key. -/
def key : Lex Unit := do
  blockMark .keyNotAllowed .blockMappingStart
  forgetKey
  allowKey (!(← get).inFlow)
  mark .key 1

/-- The mark in front of a value. Where a key may have started, it did. -/
def value : Lex Unit := do
  let lexer ← get
  match lexer.keys.head?.join with
  | some key =>
      emitBefore key.number .key key.mark
      indentTo key.mark.column (some key.number) .blockMappingStart key.mark
      modify (fun lexer => { lexer with keys := none :: lexer.keys.drop 1 })
      allowKey false
  | none =>
      blockMark .valueNotAllowed .blockMappingStart
      allowKey (!lexer.inFlow)
  mark .value 1

/-- A token that may be a key or stand in front of one. -/
def keyLike (token : Lex Token) : Lex Unit := do
  rememberKey
  allowKey false
  emit (← token)

/-- A block scalar, after which a key may start. -/
def blockScalar (isLiteral : Bool) : Lex Unit := do
  forgetKey
  allowKey true
  emit (← block isLiteral)

/-- The characters that no plain scalar starts with, unless what follows allows it. -/
def isIndicator (character : Char) : Bool :=
  ['-', '?', ':', ',', '[', ']', '{', '}', '#', '&', '*', '!', '|', '>', '\'', '"', '%', '@',
    '\x60'].contains character

def startsPlain (inFlow : Bool) (character : Char) (next : Option Char) : Bool :=
  !(isBlank character || isBreak character || isIndicator character) ||
    (character = '-' && !(next.map isBlank).getD false) ||
    (!inFlow && (character = '?' || character = ':') && !blankOrEnd next)

def tokenFrom (character : Char) : Lex Unit := do
  let lexer ← get
  let next := lexer.rest[1]?
  let marked := lexer.inFlow || blankOrEnd next
  if lexer.mark.column = 0 && character = '%' then atMargin do emit (← directive)
  else if ← atDocumentMark then
    atMargin (mark (if character = '-' then .documentStart else .documentEnd) 3)
  else if character = '[' then openFlow .flowSequenceStart
  else if character = '{' then openFlow .flowMappingStart
  else if character = ']' then closeFlow .flowSequenceEnd
  else if character = '}' then closeFlow .flowMappingEnd
  else if character = ',' then flowEntry
  else if character = '-' && blankOrEnd next then blockEntry
  else if character = '?' && marked then key
  else if character = ':' && marked then value
  else if character = '*' then keyLike (anchor true)
  else if character = '&' then keyLike (anchor false)
  else if character = '!' then keyLike tag
  else if character = '|' && !lexer.inFlow then blockScalar true
  else if character = '>' && !lexer.inFlow then blockScalar false
  else if character = '\'' then keyLike (quoted true)
  else if character = '"' then keyLike (quoted false)
  else if startsPlain lexer.inFlow character next then keyLike plain
  else failWhile .nextToken lexer.mark .noTokenStart

/-- Read the next token, with those that the indentation adds. -/
def nextToken : Lex Unit := do
  skipToToken (← bound)
  forgetStale
  dedentTo (← here).column
  match ← peek with
  | none => endOfText
  | some character => tokenFrom character

/-- Release the tokens in front of which nothing can be put any more. -/
def releaseFrom : Nat → Lex Unit
  | 0 => return ()
  | steps + 1 => do
      let lexer ← get
      match lexer.queue with
      | [] => return ()
      | token :: rest =>
          let isPending := lexer.keys.any (fun key =>
            (key.map (fun key => key.number == lexer.releasedCount)).getD false)
          if !isPending then
            set { lexer with
              queue := rest
              released := token :: lexer.released
              releasedCount := lexer.releasedCount + 1 }
            releaseFrom steps

def release : Lex Unit := do
  if !(← get).queue.isEmpty then
    forgetStale
    releaseFrom (← get).queue.length

end Lex

/-- The tokens of a text, as far as they were released before a fault. -/
def tokensFrom (lexer : Lexer) : Nat → List Token × Option Fault
  | 0 => (lexer.released.reverse, none)
  | steps + 1 =>
      match Lex.nextToken lexer with
      | .error fault => (lexer.released.reverse, some fault)
      | .ok (_, read) =>
          match Lex.release read with
          | .error fault => (read.released.reverse, some fault)
          | .ok (_, after) =>
              if after.finished then (after.released.reverse, none) else tokensFrom after steps

/-- The first character that no text may hold, by the number of bytes before it. -/
def controlCharacterFrom (offset : Nat) : List Char → Option Nat
  | [] => none
  | character :: rest =>
      let code := character.toNat
      if code = 0x09 || code = 0x0A || code = 0x0D || (0x20 ≤ code && code ≤ 0x7E) ||
          code = 0x85 || (0xA0 ≤ code && code ≤ 0xFFFD) || 0x10000 ≤ code then
        controlCharacterFrom (offset + character.utf8Size) rest
      else some offset

/-- The tokens of a text up to a fault. A byte order mark at the start does not count. Every step
passes over a character or ends the text, so its length bounds the steps. -/
def tokens (text : String) : List Token × Option Fault :=
  let characters := text.toList
  match controlCharacterFrom 0 characters with
  | some offset => ([], some ⟨.controlCharacter offset, {}, none⟩)
  | none =>
      let rest := if characters.head? = some '\uFEFF' then characters.drop 1 else characters
      tokensFrom { rest, size := characters.length } (characters.length + 1)

end TypedClient.Yaml
