import TypedClient.Json.Compact
import TypedClient.Script.Expression
import TypedClient.Shape.Basic

/-!
Contract: the text of a structural type.

Owns:
- the type expression of a shape, objects over several lines;
- where parentheses stand: around an operand of `[]` or `&` whose text joins several parts.

Does not own: the text of literal values and of keys.
-/

namespace TypedClient

def Primitive.typeName : Primitive → String
  | .string => "string"
  | .number | .integer => "number"
  | .boolean => "boolean"
  | .null => "null"

namespace Shape

open TypedClient.Script

/-- Whether the text of a shape joins several parts. -/
def isJoined : Shape → Bool
  | .union members | .intersection members => 1 < members.length
  | .enumeration values => 1 < values.length
  | _ => false

/-- The text of an operand, in parentheses if it joins several parts. -/
def operand (joined : Bool) (text : String) : String :=
  if joined then "(" ++ text ++ ")" else text

mutual

/-- The type expression of a shape. `level` is the nesting of the line on which it starts. -/
def render (level : Nat) : Shape → String
  | .named symbol => symbol
  | .array items => operand (isJoined items) (render level items) ++ "[]"
  | .object [] none => "\x7b\x7d"
  | .object properties none =>
      "\x7b\n" ++ String.join (renderProperties (level + 1) properties) ++
        indentation level ++ "\x7d"
  | .object properties (some others) =>
      "\x7b\n" ++ String.join (renderProperties (level + 1) properties) ++
        indentation (level + 1) ++ "[key: string]: " ++ render (level + 1) others ++ ";\n" ++
        indentation level ++ "\x7d"
  | .enumeration [] => "never"
  | .enumeration values => " | ".intercalate (values.map Json.compact)
  | .primitive kind => kind.typeName
  | .union [] => "unknown"
  | .union members => " | ".intercalate (renderMembers level members)
  | .intersection [] => "unknown"
  | .intersection members => " & ".intercalate (renderOperands level members)
  | .unknown => "unknown"

/-- The line of each property. -/
def renderProperties (level : Nat) : List (String × Bool × Shape) → List String
  | [] => []
  | (name, required, shape) :: rest =>
      (indentation level ++ key name ++ (if required then "" else "?") ++ ": " ++
        render level shape ++ ";\n") :: renderProperties level rest

/-- The text of each member. -/
def renderMembers (level : Nat) : List Shape → List String
  | [] => []
  | member :: rest => render level member :: renderMembers level rest

/-- The text of each member as an operand. -/
def renderOperands (level : Nat) : List Shape → List String
  | [] => []
  | member :: rest => operand (isJoined member) (render level member) :: renderOperands level rest

end

end Shape

end TypedClient
