import TypedClient.Json.Basic

/-!
Contract: the values of YAML documents.

Owns:
- `Value`, with keys of any kind, tags, and doubles that are not finite;
- when two values count as the same key;
- the JSON tree of a value, and why a value may have none.

Does not own: how a value is written.
-/

namespace TypedClient.Yaml

/-- A number. -/
inductive Number where
  | integer (value : Int)
  | real (value : Number.Binary64)
  | infinity (isNegative : Bool)
  | nan
deriving DecidableEq, Repr, Inhabited

/-- A value. -/
inductive Value where
  | null
  | boolean (value : Bool)
  | number (value : Number)
  | string (text : String)
  | sequence (items : List Value)
  | mapping (entries : List (Value × Value))
  | tagged (tag : String) (value : Value)
deriving Repr, Inhabited

/-- Whether two numbers are the same: zeros are, whatever their sign. -/
def Number.same : Number → Number → Bool
  | .real left, .real right => left = right || (left.isZero && right.isZero)
  | left, right => left = right

namespace Value

mutual

/-- Whether two values are the same. The order of entries does not matter. -/
def same : Value → Value → Bool
  | .null, .null => true
  | .boolean left, .boolean right => left = right
  | .number left, .number right => left.same right
  | .string left, .string right => left = right
  | .sequence left, .sequence right => sameItems left right
  | .mapping left, .mapping right => left.length = right.length && sameEntries left right
  | .tagged leftTag left, .tagged rightTag right => leftTag = rightTag && same left right
  | _, _ => false

/-- Whether two lists hold the same values in the same order. -/
def sameItems : List Value → List Value → Bool
  | [], [] => true
  | left :: leftRest, right :: rightRest => same left right && sameItems leftRest rightRest
  | _, _ => false

/-- Whether each entry is among other entries. -/
def sameEntries : List (Value × Value) → List (Value × Value) → Bool
  | [], _ => true
  | (key, value) :: rest, others =>
      others.any (fun other => same key other.1 && same value other.2) && sameEntries rest others

end

end Value

end TypedClient.Yaml
