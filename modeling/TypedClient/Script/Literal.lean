import TypedClient.Script.Identifier

/-!
Contract: literals of the generated code.

Owns:
- string literals between quotation marks, and the keys of object literals;
- the text inside a template literal.

Does not own: line breaks in string literals, which are written as they are.
-/

namespace TypedClient.Script

open TypedClient.Text

/-- How one character stands inside a string literal. -/
def escapeChar (character : Char) : List Char :=
  if character = '\\' ∨ character = '"' then ['\\', character] else [character]

/-- A text as it stands inside a string literal: backslashes and quotation marks are escaped. -/
def escaped (text : String) : String :=
  String.ofList (text.toList.flatMap escapeChar)

def literal (text : String) : String :=
  "\"" ++ escaped text ++ "\""

/-- The key of an object literal: a plain name as it is, anything else as a string literal. -/
def key (name : String) : String :=
  if isPlainName name.toList then name else literal name

/-- How one character stands inside a template literal. -/
def escapeTemplateChar (character : Char) : List Char :=
  if character = '\\' ∨ character = '\x60' then ['\\', character] else [character]

/-- A text as it stands inside a template literal: backslashes, back quotes and the openings of a
substitution are escaped. -/
def escapedInTemplate (text : String) : String :=
  String.ofList (replacePair '$' '{' ['\\', '$', '{'] (text.toList.flatMap escapeTemplateChar))

end TypedClient.Script
