import TypedClient.Number.Binary64
import TypedClient.Ordered

/-!
Contract: JSON values.

Owns:
- `Json` and its numbers;
- `Json.collapse`, the value a tree denotes when an object repeats a key.

Does not own: text; an object here keeps its members as they were written, repeats included.
-/

namespace TypedClient

/-- A JSON number: an integer of at most 64 bits, or a finite double. -/
inductive Json.Number where
  | integer (value : Int)
  | real (value : Number.Binary64)
deriving DecidableEq, Repr, Inhabited

/-- A JSON tree. -/
inductive Json where
  | null
  | boolean (value : Bool)
  | number (value : Json.Number)
  | string (text : String)
  | array (items : List Json)
  | object (members : List (String × Json))
deriving Repr, Inhabited

namespace Json

mutual

/-- The value of a tree: a key that an object repeats keeps its first place and its last value. -/
def collapse : Json → Json
  | .null => .null
  | .boolean value => .boolean value
  | .number value => .number value
  | .string text => .string text
  | .array items => .array (collapseItems items)
  | .object members => .object (Ordered.ofList (collapseMembers members))

/-- `collapse` of each item. -/
def collapseItems : List Json → List Json
  | [] => []
  | item :: rest => collapse item :: collapseItems rest

/-- `collapse` of each member's value. -/
def collapseMembers : List (String × Json) → List (String × Json)
  | [] => []
  | (key, value) :: rest => (key, collapse value) :: collapseMembers rest

end

theorem collapseItems_eq_map (items : List Json) : collapseItems items = items.map collapse := by
  induction items with
  | nil => rfl
  | cons item rest inductionHypothesis => simp [collapseItems, inductionHypothesis]

theorem collapseMembers_eq_mapValues (members : List (String × Json)) :
    collapseMembers members = Ordered.mapValues collapse members := by
  induction members with
  | nil => rfl
  | cons member rest inductionHypothesis =>
      simp [collapseMembers, Ordered.mapValues, inductionHypothesis]

end Json

end TypedClient
