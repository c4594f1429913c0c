import TypedClient.PathTemplate
import TypedClient.Text.Uppercase

/-!
Contract: names for what is generated from an endpoint.

Owns:
- the camel-case name of a path;
- the names of types, functions and hooks made from such a name, a method and the qualifier of
  a document.

Does not own: keeping the names of different endpoints apart.
-/

namespace TypedClient.Naming

open TypedClient.Text

/-- The characters after which a word of a path begins. -/
def isJoint (character : Char) : Bool := character = '/' || character = '-'

def isWordPart (character : Char) : Bool := character.isAlphanum || character = '_'

/-- The camel-case form of a text, given whether the character before it was a joint. -/
def camelFrom (afterJoint : Bool) : List Char → List Char
  | [] => []
  | character :: rest =>
      if isJoint character then camelFrom true rest
      else
        let written :=
          if afterJoint && isWordPart character then character.toUpper else character
        if written.isAlphanum then written :: camelFrom false rest else camelFrom false rest

/-- The camel-case form of a text: the first character of a word after slashes and hyphens is in
upper case, and only letters and digits stay. -/
def camelCase (text : List Char) : List Char := camelFrom false text

/-- The words that a piece of a path contributes to its name. -/
def pieceWords : PathPiece → List Char
  | .plain text => text
  | .placeholder name => 'B' :: 'y' :: capitalized (camelCase name)
  | .unclosed text => text

/-- The path without one leading slash. -/
def withoutLeadingSlash : List Char → List Char
  | '/' :: rest => rest
  | path => path

/-- The name of a path: a placeholder contributes its name after `By`. A path without any word has
a name of its own. -/
def ofPath (path : String) : String :=
  match camelCase
      ((PathPiece.ofPath (withoutLeadingSlash path.toList)).flatMap pieceWords) with
  | [] => "root"
  | name => String.ofList name

/-- A name with its first character in upper case. -/
def capital (name : String) : String := String.ofList (capitalized name.toList)

/-- A name under the qualifier of its document, if that is not empty. -/
def qualify (qualifier name : String) : String :=
  if qualifier.isEmpty then name else qualifier ++ capital name

/-- The stem of the types of an endpoint. -/
def typeName (method camelName : String) : String := "I" ++ method ++ capital camelName

/-- The name of the request function of an endpoint. -/
def functionName (method camelName : String) : String := method ++ capital camelName

def hookName (function : String) : String := "use" ++ capital function

end TypedClient.Naming
