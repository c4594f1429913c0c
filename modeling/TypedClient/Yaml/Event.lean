import TypedClient.Yaml.Token.Stream

/-!
Contract: the nodes of a YAML text in the order of the text.

Owns:
- `Event`, the start or the end of a node;
- the grammar of documents, blocks and flow collections over tokens;
- `firstDocument`, the events of the first document up to a fault, and whether more follows it.

Does not own: what the nodes stand for.
-/

namespace TypedClient.Yaml

/-- The start or the end of a node. -/
inductive EventKind where
  | alias (name : String)
  | scalar (anchor tag : Option String) (text : String) (isPlain : Bool)
  | sequenceStart (anchor tag : Option String)
  | sequenceEnd
  | mappingStart (anchor tag : Option String)
  | mappingEnd
deriving DecidableEq, Repr

/-- An event and its place. -/
structure Event where
  kind : EventKind
  mark : Mark
deriving DecidableEq, Repr

/-- The state of reading nodes from tokens. -/
structure Parsing where
  tokens : List Token
  /-- Why there are no more tokens. -/
  fault : Option Fault
  /-- What the handles of tags stand for. -/
  handles : List (String × String) := []
  /-- The events, last one first. -/
  events : List Event := []

/-- A step of reading nodes. What was read before a fault is kept. -/
abbrev Parse := EStateM Fault Parsing

namespace Parse

/-- The next token. After the last one there is the end of the text, or the fault. -/
def peek : Parse Token := do
  let parsing ← get
  match parsing.tokens, parsing.fault with
  | token :: _, _ => return token
  | [], some fault => throw fault
  | [], none => return ⟨.streamEnd, {}, {}⟩

/-- Pass over the next token. -/
def skip : Parse Unit := modify (fun parsing => { parsing with tokens := parsing.tokens.drop 1 })

/-- Put an event behind the others. -/
def emit (kind : EventKind) (mark : Mark) : Parse Unit :=
  modify (fun parsing => { parsing with events := ⟨kind, mark⟩ :: parsing.events })

/-- A node that is not written. -/
def emptyNode (mark : Mark) : Parse Unit := emit (.scalar none none "" true) mark

/-- What a handle stands for by default. -/
def defaultHandles : List (String × String) := [("!", "!"), ("!!", "tag:yaml.org,2002:")]

def resolveTag (start mark : Mark) (handle suffix : String) : Parse String := do
  if handle.isEmpty then return suffix
  match ((← get).handles ++ defaultHandles).find? (fun entry => entry.1 = handle) with
  | some entry => return entry.2 ++ suffix
  | none => throw ⟨.undefinedTagHandle, mark, some (.node, start)⟩

/-- The anchor and the tag of a node, with the place where the tag stands. -/
structure Properties where
  anchor : Option String := none
  tag : Option (String × String × Mark) := none

/-- The anchor and the tag in front of a node, in either order. -/
def properties : Parse Properties := do
  let first ← peek
  match first.kind with
  | .anchor name =>
      skip
      let second ← peek
      match second.kind with
      | .tag handle suffix =>
          skip
          return ⟨some name, some (handle, suffix, second.start)⟩
      | _ => return ⟨some name, none⟩
  | .tag handle suffix =>
      skip
      let tag := some (handle, suffix, first.start)
      match (← peek).kind with
      | .anchor name =>
          skip
          return ⟨some name, tag⟩
      | _ => return ⟨none, tag⟩
  | _ => return {}

/-- The tokens after which a block entry, key or value is not written. -/
def endsBlockValue : TokenKind → Bool
  | .key | .value | .blockEnd => true
  | _ => false

mutual

/-- A node. `inBlock` says that block collections may stand here, and `bareEntries` that the entries
of a sequence may stand here at the indentation of the mapping around it. Every call is nearer to
the end of the tokens or of a rule than the one before, which bounds the steps. -/
def node (inBlock bareEntries : Bool) : Nat → Parse Unit
  | 0 => return ()
  | steps + 1 => do
      let first ← peek
      if let .alias name := first.kind then
        skip
        emit (.alias name) first.start
      else
        let start := first.start
        let found ← properties
        let tag ← found.tag.mapM (fun (handle, suffix, mark) => resolveTag start mark handle suffix)
        let token ← peek
        match token.kind with
        | .blockEntry =>
            if bareEntries then
              emit (.sequenceStart found.anchor tag) start
              bareSequence steps
            else emptyOrFault inBlock start token found.anchor tag
        | .scalar text isPlain =>
            skip
            emit (.scalar found.anchor (if tag = some "!" then none else tag) text isPlain) start
        | .flowSequenceStart =>
            emit (.sequenceStart found.anchor tag) start
            skip
            flowSequence true token.start steps
        | .flowMappingStart =>
            emit (.mappingStart found.anchor tag) start
            skip
            flowMapping true token.start steps
        | .blockSequenceStart =>
            if inBlock then
              emit (.sequenceStart found.anchor tag) start
              skip
              blockSequence token.start steps
            else emptyOrFault inBlock start token found.anchor tag
        | .blockMappingStart =>
            if inBlock then
              emit (.mappingStart found.anchor tag) start
              skip
              blockMapping token.start steps
            else emptyOrFault inBlock start token found.anchor tag
        | _ => emptyOrFault inBlock start token found.anchor tag

/-- A node of which only the anchor or the tag is written, or none at all. -/
def emptyOrFault (inBlock : Bool) (start : Mark) (token : Token) (anchor tag : Option String) :
    Parse Unit := do
  if anchor.isSome || tag.isSome then emit (.scalar anchor tag "" true) start
  else
    throw ⟨.noContent, token.start,
      some (if inBlock then .blockNode else .flowNode, start)⟩

/-- The entries of a block sequence that started at a place, and its end. -/
def blockSequence (since : Mark) : Nat → Parse Unit
  | 0 => return ()
  | steps + 1 => do
      let token ← peek
      match token.kind with
      | .blockEntry =>
          skip
          match (← peek).kind with
          | .blockEntry | .blockEnd => emptyNode token.finish
          | _ => node true false steps
          blockSequence since steps
      | .blockEnd =>
          emit .sequenceEnd token.start
          skip
      | _ => throw ⟨.noEntryMark, token.start, some (.blockCollection, since)⟩

/-- The entries of a sequence at the indentation of the mapping around it. -/
def bareSequence : Nat → Parse Unit
  | 0 => return ()
  | steps + 1 => do
      let token ← peek
      match token.kind with
      | .blockEntry =>
          skip
          match (← peek).kind with
          | .blockEntry | .key | .value | .blockEnd => emptyNode token.finish
          | _ => node true false steps
          bareSequence steps
      | _ => emit .sequenceEnd token.start

/-- The keys and values of a block mapping that started at a place, and its end. -/
def blockMapping (since : Mark) : Nat → Parse Unit
  | 0 => return ()
  | steps + 1 => do
      let token ← peek
      match token.kind with
      | .key =>
          skip
          if endsBlockValue (← peek).kind then emptyNode token.finish else node true true steps
          blockValue steps
          blockMapping since steps
      | .blockEnd =>
          emit .mappingEnd token.start
          skip
      | _ => throw ⟨.noKey, token.start, some (.blockMapping, since)⟩

/-- The value of a key in a block mapping. -/
def blockValue : Nat → Parse Unit
  | 0 => return ()
  | steps + 1 => do
      let token ← peek
      match token.kind with
      | .value =>
          skip
          if endsBlockValue (← peek).kind then emptyNode token.finish else node true true steps
      | _ => emptyNode token.start

/-- The entries of a flow sequence that started at a place, and its end. -/
def flowSequence (first : Bool) (since : Mark) : Nat → Parse Unit
  | 0 => return ()
  | steps + 1 => do
      let token ← peek
      let ends := token.kind = .flowSequenceEnd
      if !ends && !first then
        if token.kind = .flowEntry then skip
        else throw ⟨.noSequenceEnd, token.start, some (.flowSequence, since)⟩
      let token ← peek
      match token.kind with
      | .flowSequenceEnd =>
          emit .sequenceEnd token.start
          skip
      | .key =>
          emit (.mappingStart none none) token.start
          skip
          singlePair steps
          flowSequence false since steps
      | _ =>
          node false false steps
          flowSequence false since steps

/-- A key and its value as an entry of a flow sequence. A key that is not written takes the token
after it along. -/
def singlePair : Nat → Parse Unit
  | 0 => return ()
  | steps + 1 => do
      let token ← peek
      match token.kind with
      | .value | .flowEntry | .flowSequenceEnd =>
          skip
          emptyNode token.finish
      | _ => node false false steps
      let token ← peek
      if token.kind = .value then
        skip
        let token ← peek
        match token.kind with
        | .flowEntry | .flowSequenceEnd => emptyNode token.start
        | _ => node false false steps
      else emptyNode token.start
      emit .mappingEnd (← peek).start

/-- The keys and values of a flow mapping that started at a place, and its end. -/
def flowMapping (first : Bool) (since : Mark) : Nat → Parse Unit
  | 0 => return ()
  | steps + 1 => do
      let token ← peek
      let ends := token.kind = .flowMappingEnd
      if !ends && !first then
        if token.kind = .flowEntry then skip
        else throw ⟨.noMappingEnd, token.start, some (.flowMapping, since)⟩
      let token ← peek
      match token.kind with
      | .flowMappingEnd =>
          emit .mappingEnd token.start
          skip
      | .key =>
          skip
          let token ← peek
          match token.kind with
          | .value | .flowEntry | .flowMappingEnd => emptyNode token.start
          | _ => node false false steps
          flowValue steps
          flowMapping false since steps
      | _ =>
          node false false steps
          emptyNode (← peek).start
          flowMapping false since steps

/-- The value of a key in a flow mapping. -/
def flowValue : Nat → Parse Unit
  | 0 => return ()
  | steps + 1 => do
      let token ← peek
      if token.kind = .value then
        skip
        let token ← peek
        match token.kind with
        | .flowEntry | .flowMappingEnd => emptyNode token.start
        | _ => node false false steps
      else emptyNode token.start

end

/-- The directives in front of a document. -/
def directives (hasVersion : Bool) : Nat → Parse Unit
  | 0 => return ()
  | steps + 1 => do
      let token ← peek
      match token.kind with
      | .versionDirective major minor =>
          if hasVersion then throw ⟨.repeatedVersion, token.start, none⟩
          if major ≠ 1 || (minor ≠ 1 && minor ≠ 2) then
            throw ⟨.foreignVersion, token.start, none⟩
          skip
          directives true steps
      | .tagDirective handle address =>
          if (← get).handles.any (fun entry => entry.1 = handle) then
            throw ⟨.repeatedTagHandle, token.start, none⟩
          modify (fun parsing => { parsing with handles := parsing.handles ++ [(handle, address)] })
          skip
          directives hasVersion steps
      | _ => return ()

/-- Whether a document starts here without a mark. -/
def startsBare : TokenKind → Bool
  | .versionDirective _ _ | .tagDirective _ _ | .documentStart | .streamEnd => false
  | _ => true

/-- The content of a document that starts with a mark. -/
def markedContent (steps : Nat) : Parse Unit := do
  let token ← peek
  match token.kind with
  | .versionDirective _ _ | .tagDirective _ _ | .documentStart | .documentEnd | .streamEnd =>
      emptyNode token.start
  | _ => node true false steps

/-- The first document, with the token that ends it. The text may hold none. -/
def document (steps : Nat) : Parse Bool := do
  let first ← peek
  if first.kind = .streamEnd then return false
  if startsBare first.kind then node true false steps
  else
    directives false steps
    let token ← peek
    if token.kind ≠ .documentStart then throw ⟨.noDocumentStart, token.start, none⟩
    skip
    markedContent steps
  if (← peek).kind = .documentEnd then skip
  return true

/-- Pass over further marks for the end of a document. -/
def skipEnds : Nat → Parse Unit
  | 0 => return ()
  | steps + 1 => do
      if (← peek).kind = .documentEnd then
        skip
        skipEnds steps

/-- Whether the text ends here. -/
def atEnd (steps : Nat) : Parse Bool := do
  skipEnds steps
  return (← peek).kind = .streamEnd

end Parse

/-- The first document of a text. -/
structure Opening where
  /-- Its events up to a fault. -/
  events : List Event
  fault : Option Fault
  /-- Whether the text holds no document at all. -/
  isVoid : Bool
  /-- Whether something follows the document. -/
  hasMore : Bool

def firstDocument (text : String) : Opening :=
  let (tokens, fault) := tokens text
  let steps := 4 * tokens.length + 8
  match Parse.document steps { tokens, fault } with
  | .error fault parsing => ⟨parsing.events.reverse, some fault, false, false⟩
  | .ok found parsing =>
      let hasMore :=
        match found, Parse.atEnd steps parsing with
        | false, _ => false
        | true, .ok atEnd _ => !atEnd
        | true, .error _ _ => true
      ⟨parsing.events.reverse, none, !found, hasMore⟩

end TypedClient.Yaml
