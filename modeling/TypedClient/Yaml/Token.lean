import TypedClient.Yaml.Fault

/-!
Contract: the tokens of a YAML text.

Owns: `Token`, with the places where it starts and ends.

Does not own: how a text is cut into tokens.
-/

namespace TypedClient.Yaml

/-- What a token is. -/
inductive TokenKind where
  | versionDirective (major minor : Nat)
  | tagDirective (handle address : String)
  | documentStart
  | documentEnd
  | blockSequenceStart
  | blockMappingStart
  | blockEnd
  | flowSequenceStart
  | flowSequenceEnd
  | flowMappingStart
  | flowMappingEnd
  | blockEntry
  | flowEntry
  | key
  | value
  | alias (name : String)
  | anchor (name : String)
  | tag (handle suffix : String)
  /-- A scalar, and whether it stands without quotation marks in a line of its own kind. -/
  | scalar (text : String) (isPlain : Bool)
  | streamEnd
deriving DecidableEq, Repr

/-- A token and its place. -/
structure Token where
  kind : TokenKind
  start : Mark
  finish : Mark
deriving DecidableEq, Repr

end TypedClient.Yaml
