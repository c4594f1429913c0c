import TypedClient.Json.Compact
import TypedClient.Text.Quoted

/-!
Contract: why a JSON text, or a JSON tree, is not the value that was asked for.

Owns:
- the causes, of syntax and of shape;
- their wording, and the place in a text that a failure may carry.

Does not own: when a cause arises.
-/

namespace TypedClient.Json

/-- What stood where something else was expected. -/
inductive Found where
  | null
  | boolean (value : Bool)
  | number (value : Json.Number)
  | string (text : String)
  | sequence
  | mapping
deriving DecidableEq, Repr

/-- What a tree is when it stands where something else was expected. -/
def found : Json → Found
  | .null => .null
  | .boolean value => .boolean value
  | .number value => .number value
  | .string text => .string text
  | .array _ => .sequence
  | .object _ => .mapping

/-- Why reading failed. -/
inductive Fault where
  | endInList
  | endInObject
  | endInString
  | endInValue
  | expectedColon
  | expectedListEnd
  | expectedObjectEnd
  | expectedWord
  | expectedValue
  | invalidEscape
  | invalidNumber
  | numberOutOfRange
  | controlCharacter
  | keyNotString
  | loneSurrogate
  | unfinishedSurrogate
  | trailingComma
  | trailingCharacters
  | tooDeep
  | wrongType (found : Found) (expected : String)
  | wrongLength (length : Nat) (expected : String)
  | repeatedField (name : String)
  | noAlternative (choice : String)
  | invalidOperation (method : String) (cause : Fault)
  | invalidPathParameters (cause : Fault)
deriving DecidableEq, Repr

/-- The words for what was found. -/
def Found.describe : Found → String
  | .null => "null"
  | .boolean true => "boolean `true`"
  | .boolean false => "boolean `false`"
  | .number (.integer value) => "integer `" ++ toString value ++ "`"
  | .number (.real value) => "floating point `" ++ numberLayout.write value ++ "`"
  | .string text => "string " ++ Text.quoted text
  | .sequence => "sequence"
  | .mapping => "map"

/-- The wording of a cause. -/
def Fault.message : Fault → String
  | .endInList => "EOF while parsing a list"
  | .endInObject => "EOF while parsing an object"
  | .endInString => "EOF while parsing a string"
  | .endInValue => "EOF while parsing a value"
  | .expectedColon => "expected `:`"
  | .expectedListEnd => "expected `,` or `]`"
  | .expectedObjectEnd => "expected `,` or `\x7d`"
  | .expectedWord => "expected ident"
  | .expectedValue => "expected value"
  | .invalidEscape => "invalid escape"
  | .invalidNumber => "invalid number"
  | .numberOutOfRange => "number out of range"
  | .controlCharacter =>
      "control character (\\u0000-\\u001F) found while parsing a string"
  | .keyNotString => "key must be a string"
  | .loneSurrogate => "lone leading surrogate in hex escape"
  | .unfinishedSurrogate => "unexpected end of hex escape"
  | .trailingComma => "trailing comma"
  | .trailingCharacters => "trailing characters"
  | .tooDeep => "recursion limit exceeded"
  | .wrongType found expected => "invalid type: " ++ found.describe ++ ", expected " ++ expected
  | .wrongLength length expected =>
      "invalid length " ++ toString length ++ ", expected " ++ expected
  | .repeatedField name => "duplicate field `" ++ name ++ "`"
  | .noAlternative choice => "data did not match any variant of untagged enum " ++ choice
  | .invalidOperation method cause =>
      "invalid `" ++ method ++ "` operation: " ++ cause.message
  | .invalidPathParameters cause => "invalid path-level parameters: " ++ cause.message

/-- A place in a text: its line from one, and the number of bytes read on that line. -/
structure Place where
  line : Nat
  column : Nat
deriving DecidableEq, Repr, Inhabited

/-- A cause, and the place that reading had reached when it has one. -/
structure Failure where
  fault : Fault
  place : Option Place
deriving DecidableEq, Repr

/-- The wording of a failure. -/
def Failure.message (failure : Failure) : String :=
  match failure.place with
  | none => failure.fault.message
  | some place =>
      failure.fault.message ++ " at line " ++ toString place.line ++ " column " ++
        toString place.column

end TypedClient.Json
