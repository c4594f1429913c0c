import TypedClient.Json.Basic

/-!
Contract: the schemas of a document.

Owns:
- `Schema`, a schema in one of a closed list of forms, its references still unresolved;
- the schema of a bare type name;
- `orNull`, the schema that admits null as well.

Does not own: how a schema is written in a document, or what a reference leads to.
-/

namespace TypedClient

/-- The types without inner structure. -/
inductive Primitive where
  | string
  | number
  | integer
  | boolean
  | null
deriving DecidableEq, Repr

def Primitive.ofName? : String → Option Primitive
  | "string" => some .string
  | "number" => some .number
  | "integer" => some .integer
  | "boolean" => some .boolean
  | "null" => some .null
  | _ => none

def Primitive.name : Primitive → String
  | .string => "string"
  | .number => "number"
  | .integer => "integer"
  | .boolean => "boolean"
  | .null => "null"

theorem Primitive.ofName?_name (primitive : Primitive) :
    Primitive.ofName? primitive.name = some primitive := by
  cases primitive <;> rfl

mutual

/-- A schema. -/
inductive Schema where
  /-- What stands elsewhere, at a pointer. -/
  | reference (pointer : String)
  | array (items : Schema)
  /-- An object with its properties in order; `required` may name more than the properties. -/
  | object (properties : List (String × Schema)) (required : List String)
      (additional : Schema.Additional)
  /-- One of some literal values. -/
  | enumeration (values : List Json)
  | primitive (kind : Primitive)
  /-- A value of at least one member. -/
  | union (members : List Schema)
  /-- A value of every member. -/
  | intersection (members : List Schema)
  | unknown

/-- What an object may hold beside its properties. -/
inductive Schema.Additional where
  | closed
  | anything
  | schema (schema : Schema)

end

deriving instance Repr, Inhabited for Schema, Schema.Additional

namespace Schema

/-- The schema of a bare type name. A name that is no type says nothing. -/
def ofTypeName (name : String) : Schema :=
  match name with
  | "array" => .array .unknown
  | "object" => .object [] [] .closed
  | other => ((Primitive.ofName? other).map Schema.primitive).getD .unknown

/-- Whether a schema is the primitive null. -/
def isNull : Schema → Bool
  | .primitive .null => true
  | _ => false

/-- The schema that admits null as well: a union takes null as a further member unless it has it,
and any other schema but null itself becomes a union with null. -/
def orNull : Schema → Schema
  | .union members =>
      if members.any isNull then .union members else .union (members ++ [.primitive .null])
  | .primitive .null => .primitive .null
  | other => .union [other, .primitive .null]

theorem isNull_iff {schema : Schema} : schema.isNull = true ↔ schema = .primitive .null := by
  cases schema with
  | primitive kind => cases kind <;> simp [isNull]
  | _ => simp [isNull]

end Schema

end TypedClient
