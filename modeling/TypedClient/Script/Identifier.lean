import TypedClient.Text.Split
import TypedClient.Text.Uppercase

/-!
Contract: identifiers of the generated code.

Owns:
- which texts can stand as a plain name, and which of these are reserved;
- `identifier`, the identifier made from any name;
- `typeIdentifier`, the name of a type made from the name of a component.

Does not own: how names of endpoints are put together.
-/

namespace TypedClient.Script

open TypedClient.Text

/-- The characters an identifier may start with. -/
def isNameStart (character : Char) : Bool :=
  character.isAlpha || character = '_' || character = '$'

/-- The characters an identifier may go on with. -/
def isNamePart (character : Char) : Bool :=
  character.isAlphanum || character = '_' || character = '$'

/-- Whether a text can stand as a plain name. -/
def isPlainName : List Char → Bool
  | [] => false
  | first :: rest => isNameStart first && rest.all isNamePart

/-- The words that cannot be used as identifiers. -/
def reservedWords : List String :=
  ["break", "case", "catch", "class", "const", "continue", "debugger", "default", "delete", "do",
    "else", "enum", "export", "extends", "false", "finally", "for", "function", "if", "import",
    "in", "instanceof", "new", "null", "return", "super", "switch", "this", "throw", "true", "try",
    "typeof", "var", "void", "while", "with", "yield", "let", "static", "implements", "interface",
    "package", "private", "protected", "public", "await", "async"]

def isReserved (word : List Char) : Bool :=
  reservedWords.contains (String.ofList word)

/-- The characters at which a name is cut into words. -/
def isWordBreak (character : Char) : Bool :=
  character = '-' || character = '.' || character = ' '

/-- The words of a name, without the characters that no identifier holds. -/
def nameWords (name : List Char) : List (List Char) :=
  ((splitWhere isWordBreak name).map (List.filter isNamePart)).filter (fun word => !word.isEmpty)

/-- Put an underscore in front of a text that starts with a digit. -/
def guardDigit (text : List Char) : List Char :=
  match text with
  | first :: _ => if first.isDigit then '_' :: text else text
  | [] => []

/-- Put an underscore in front of a reserved word. -/
def guardReserved (word : List Char) : List Char :=
  if isReserved word then '_' :: word else word

/-- The identifier made from a name: its words, all but the first in upper case at their start. A
digit in front and a reserved word are kept apart by an underscore; a name without any word has an
identifier of its own. -/
def identifier (name : String) : String :=
  match nameWords name.toList with
  | [] => "_empty"
  | first :: rest =>
      String.ofList (guardReserved (guardDigit (first ++ rest.flatMap capitalized)))

def isTypeNamePart (character : Char) : Bool :=
  character.isAlphanum || character = '_'

/-- The name of a type made from the name of a component: its parts in upper case at their start,
with an underscore in front of a digit. A name without any part has a name of its own. -/
def typeIdentifier (name : String) : String :=
  match ((splitWhere (fun character => !isTypeNamePart character) name.toList).filter
      (fun part => !part.isEmpty)).flatMap capitalized with
  | [] => "Schema"
  | result => String.ofList (guardDigit result)

end TypedClient.Script
