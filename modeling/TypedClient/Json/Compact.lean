import TypedClient.Json.Basic
import TypedClient.Number.Layout

/-!
Contract: the compact text of a JSON value.

Owns:
- the text of numbers and strings;
- `Json.compact`, the text of a value without any blank, members in their order.

Does not own: reading.
-/

namespace TypedClient.Json

open TypedClient.Number

/-- A double is written out while its first digit stands for a power of ten from -5 to 15; outside
that range it has an exponent, and a positive exponent has its sign. -/
def numberLayout : Layout := ⟨-5, 15, true⟩

/-- The text of a number. -/
def Number.compact : Json.Number → String
  | .integer value => toString value
  | .real value => numberLayout.write value

private def escapeDigit (value : Nat) : Char :=
  if value < 10 then Char.ofNat ('0'.toNat + value) else Char.ofNat ('a'.toNat + (value - 10))

/-- How a character stands in a string literal: quotation mark, backslash and the controls are
escaped, everything else stands for itself. -/
def escapeChar (character : Char) : List Char :=
  if character = '"' then ['\\', '"']
  else if character = '\\' then ['\\', '\\']
  else if character = '\n' then ['\\', 'n']
  else if character = '\r' then ['\\', 'r']
  else if character = '\t' then ['\\', 't']
  else if character = '\x08' then ['\\', 'b']
  else if character = '\x0c' then ['\\', 'f']
  else if character.toNat < 0x20 then
    ['\\', 'u', '0', '0', escapeDigit (character.toNat / 16), escapeDigit (character.toNat % 16)]
  else [character]

def literal (text : String) : String :=
  String.ofList ('"' :: text.toList.flatMap escapeChar ++ ['"'])

mutual

/-- The text of a value without any blank. -/
def compact : Json → String
  | .null => "null"
  | .boolean true => "true"
  | .boolean false => "false"
  | .number value => Number.compact value
  | .string text => literal text
  | .array items => "[" ++ ",".intercalate (compactItems items) ++ "]"
  | .object members => "\x7b" ++ ",".intercalate (compactMembers members) ++ "\x7d"

/-- The text of each item. -/
def compactItems : List Json → List String
  | [] => []
  | item :: rest => compact item :: compactItems rest

/-- The text of each member. -/
def compactMembers : List (String × Json) → List String
  | [] => []
  | (key, value) :: rest => (literal key ++ ":" ++ compact value) :: compactMembers rest

end

end TypedClient.Json
