import TypedClient.Text.Digits
import TypedClient.Text.Visible

/-!
Contract: a text between quotation marks, as messages show it.

Owns:
- the escape of each character that cannot be shown as it is;
- `quoted`, the text with its quotation marks.

Does not own: string literals of a data format or a programming language.
-/

namespace TypedClient.Text

/-- How one character is shown between quotation marks. -/
def showChar (character : Char) : List Char :=
  if character = '"' then ['\\', '"']
  else if character = '\\' then ['\\', '\\']
  else if character = '\n' then ['\\', 'n']
  else if character = '\r' then ['\\', 'r']
  else if character = '\t' then ['\\', 't']
  else if character = '\x00' then ['\\', '0']
  else if isVisible character then [character]
  else ['\\', 'u', '{'] ++ hexDigits character.toNat ++ ['}']

/-- The text between quotation marks, with every character visible. -/
def quoted (text : String) : String :=
  String.ofList ('"' :: text.toList.flatMap showChar ++ ['"'])

end TypedClient.Text
