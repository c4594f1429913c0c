/-!
Contract: why a YAML text is not well formed.

Owns:
- `Mark`, a place in a text;
- the problems that break off reading, and the activities during which they were met;
- their wording.

Does not own: values that are well formed but not accepted.
-/

namespace TypedClient.Yaml

/-- A place in a text: the characters before it, and its line and column from zero. -/
structure Mark where
  index : Nat := 0
  line : Nat := 0
  column : Nat := 0
deriving DecidableEq, Repr, Inhabited

namespace Mark

/-- Whether a mark is the first place of a text. -/
def isStart (mark : Mark) : Bool := mark.line = 0 && mark.column = 0

/-- The words for a place; there are none for the first place of a text. -/
def describe (mark : Mark) : String :=
  if mark.isStart then ""
  else " at line " ++ toString (mark.line + 1) ++ " column " ++ toString (mark.column + 1)

end Mark

/-- What is wrong. -/
inductive Problem where
  | controlCharacter (offset : Nat)
  | noTokenStart
  | keyWithoutColon
  | blockEntryNotAllowed
  | keyNotAllowed
  | valueNotAllowed
  | unknownDirective
  | noDirectiveName
  | badDirectiveName
  | noLineEnd
  | noVersionDot
  | longVersion
  | noVersion
  | noBlank
  | noBlankOrLineEnd
  | noExclamation
  | noTagAddress
  | noEscapedOctet
  | badLeadingOctet
  | badTrailingOctet
  | noTagEnd
  | noAnchorName
  | zeroIndentation
  | tabInIndentation
  | documentMark
  | endOfText
  | unknownEscape
  | badEscapeDigit
  | badEscapeValue
  | unexpectedColon
  | tabBelowIndentation
  | noDocumentStart
  | repeatedVersion
  | foreignVersion
  | repeatedTagHandle
  | undefinedTagHandle
  | noContent
  | noEntryMark
  | noKey
  | noSequenceEnd
  | noMappingEnd
deriving DecidableEq, Repr

/-- The wording of a problem. -/
def Problem.message : Problem → String
  | .controlCharacter _ => "control characters are not allowed"
  | .noTokenStart => "found character that cannot start any token"
  | .keyWithoutColon => "could not find expected ':'"
  | .blockEntryNotAllowed => "block sequence entries are not allowed in this context"
  | .keyNotAllowed => "mapping keys are not allowed in this context"
  | .valueNotAllowed => "mapping values are not allowed in this context"
  | .unknownDirective => "found unknown directive name"
  | .noDirectiveName => "could not find expected directive name"
  | .badDirectiveName => "found unexpected non-alphabetical character"
  | .noLineEnd => "did not find expected comment or line break"
  | .noVersionDot => "did not find expected digit or '.' character"
  | .longVersion => "found extremely long version number"
  | .noVersion => "did not find expected version number"
  | .noBlank => "did not find expected whitespace"
  | .noBlankOrLineEnd => "did not find expected whitespace or line break"
  | .noExclamation => "did not find expected '!'"
  | .noTagAddress => "did not find expected tag URI"
  | .noEscapedOctet => "did not find URI escaped octet"
  | .badLeadingOctet => "found an incorrect leading UTF-8 octet"
  | .badTrailingOctet => "found an incorrect trailing UTF-8 octet"
  | .noTagEnd => "did not find the expected '>'"
  | .noAnchorName => "did not find expected alphabetic or numeric character"
  | .zeroIndentation => "found an indentation indicator equal to 0"
  | .tabInIndentation => "found a tab character where an indentation space is expected"
  | .documentMark => "found unexpected document indicator"
  | .endOfText => "found unexpected end of stream"
  | .unknownEscape => "found unknown escape character"
  | .badEscapeDigit => "did not find expected hexdecimal number"
  | .badEscapeValue => "found invalid Unicode character escape code"
  | .unexpectedColon => "found unexpected ':'"
  | .tabBelowIndentation => "found a tab character that violates indentation"
  | .noDocumentStart => "did not find expected <document start>"
  | .repeatedVersion => "found duplicate %YAML directive"
  | .foreignVersion => "found incompatible YAML document"
  | .repeatedTagHandle => "found duplicate %TAG directive"
  | .undefinedTagHandle => "found undefined tag handle"
  | .noContent => "did not find expected node content"
  | .noEntryMark => "did not find expected '-' indicator"
  | .noKey => "did not find expected key"
  | .noSequenceEnd => "did not find expected ',' or ']'"
  | .noMappingEnd => "did not find expected ',' or '\x7d'"

/-- What was being read. -/
inductive Activity where
  | nextToken
  | simpleKey
  | directive
  | versionDirective
  | tagDirective
  | tagDirectiveHandle
  | tagDirectiveAddress
  | tag
  | tagAddress
  | anchor
  | alias
  | blockScalar
  | quotedScalar
  | quotedCharacter
  | plainScalar
  | node
  | blockNode
  | flowNode
  | blockCollection
  | blockMapping
  | flowSequence
  | flowMapping
deriving DecidableEq, Repr

/-- The words for an activity. -/
def Activity.describe : Activity → String
  | .nextToken => "while scanning for the next token"
  | .simpleKey => "while scanning a simple key"
  | .directive => "while scanning a directive"
  | .versionDirective => "while scanning a %YAML directive"
  | .tagDirective => "while scanning a %TAG directive"
  | .tagDirectiveHandle => "while scanning a tag directive"
  | .tagDirectiveAddress => "while parsing a %TAG directive"
  | .tag => "while scanning a tag"
  | .tagAddress => "while parsing a tag"
  | .anchor => "while scanning an anchor"
  | .alias => "while scanning an alias"
  | .blockScalar => "while scanning a block scalar"
  | .quotedScalar => "while scanning a quoted scalar"
  | .quotedCharacter => "while parsing a quoted scalar"
  | .plainScalar => "while scanning a plain scalar"
  | .node => "while parsing a node"
  | .blockNode => "while parsing a block node"
  | .flowNode => "while parsing a flow node"
  | .blockCollection => "while parsing a block collection"
  | .blockMapping => "while parsing a block mapping"
  | .flowSequence => "while parsing a flow sequence"
  | .flowMapping => "while parsing a flow mapping"

/-- A problem, where it was met, and what was being read since where. -/
structure Fault where
  problem : Problem
  mark : Mark
  context : Option (Activity × Mark) := none
deriving DecidableEq, Repr

/-- Where a problem was met, in words. A problem with single characters counts bytes. -/
def Fault.place (fault : Fault) : String :=
  match fault.problem with
  | .controlCharacter offset =>
      if offset = 0 then "" else " at position " ++ toString offset
  | _ => fault.mark.describe

/-- What was being read, in words. Its start is left out where it is the place of the problem. -/
def Fault.contextWords (fault : Fault) : String :=
  match fault.context with
  | none => ""
  | some (activity, since) =>
      ", " ++ activity.describe ++
        if since.line = fault.mark.line && since.column = fault.mark.column then ""
        else since.describe

/-- The wording of a fault. -/
def Fault.message (fault : Fault) : String :=
  fault.problem.message ++ fault.place ++ fault.contextWords

end TypedClient.Yaml
