import TypedClient.Json.Compact
import TypedClient.Yaml.Value

/-!
Contract: the JSON tree of a YAML value.

Owns:
- the text of a key, and the keys that have none;
- `Value.toJson`, in which a tag is an object with one member, and a number that is not finite is
  null.

Does not own: how either is written.
-/

namespace TypedClient.Yaml

/-- Why a key has no text. -/
inductive KeyFault where
  | notText
  | notFinite
deriving DecidableEq, Repr

def KeyFault.message : KeyFault → String
  | .notText => "key must be a string"
  | .notFinite => "float key must be finite (got NaN or +/-inf)"

namespace Value

def keyText : Value → Except KeyFault String
  | .string text => .ok text
  | .boolean true => .ok "true"
  | .boolean false => .ok "false"
  | .number (.integer value) => .ok (toString value)
  | .number (.real value) => .ok (Json.numberLayout.write value)
  | .number _ => .error .notFinite
  | _ => .error .notText

def numberTree : Number → Json
  | .integer value => .number (.integer value)
  | .real value => .number (.real value)
  | .infinity _ | .nan => .null

mutual

/-- The JSON tree of a value. Of two keys with one text, the first gives the place and the last the
value. -/
def toJson : Value → Except KeyFault Json
  | .null => .ok .null
  | .boolean value => .ok (.boolean value)
  | .number value => .ok (numberTree value)
  | .string text => .ok (.string text)
  | .sequence items => do return .array (← itemsToJson items)
  | .mapping entries => do return .object (Ordered.ofList (← entriesToJson entries))
  | .tagged tag value => do return .object [("!" ++ tag, ← toJson value)]

/-- The tree of each item. -/
def itemsToJson : List Value → Except KeyFault (List Json)
  | [] => .ok []
  | item :: rest => do
      let tree ← toJson item
      return tree :: (← itemsToJson rest)

/-- The key and the tree of each entry. -/
def entriesToJson : List (Value × Value) → Except KeyFault (List (String × Json))
  | [] => .ok []
  | (key, value) :: rest => do
      let text ← keyText key
      let tree ← toJson value
      return (text, tree) :: (← entriesToJson rest)

end

end Value

end TypedClient.Yaml
