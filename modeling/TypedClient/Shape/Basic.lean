import TypedClient.Schema.Basic

/-!
Contract: the structural types that schemas stand for.

Owns:
- `Shape`, a type without references, in which a cycle is closed by the name of a declaration;
- renaming the declarations that a shape mentions, and listing them.

Does not own: how a shape is written, or which declaration a name has.
-/

namespace TypedClient

/-- A structural type. -/
inductive Shape where
  | array (items : Shape)
  /-- An object: its properties with their names and whether they are required, and the type of
  any further property. -/
  | object (properties : List (String × Bool × Shape)) (others : Option Shape)
  /-- One of some literal values. -/
  | enumeration (values : List Json)
  | primitive (kind : Primitive)
  | union (members : List Shape)
  | intersection (members : List Shape)
  /-- The type that a declaration of this name stands for. -/
  | named (symbol : String)
  | unknown
deriving Repr, Inhabited

namespace Shape

mutual

/-- The shape with every declared name replaced. -/
def rename (newName : String → String) : Shape → Shape
  | .array items => .array (rename newName items)
  | .object properties none => .object (renameProperties newName properties) none
  | .object properties (some others) =>
      .object (renameProperties newName properties) (some (rename newName others))
  | .enumeration values => .enumeration values
  | .primitive kind => .primitive kind
  | .union members => .union (renameMembers newName members)
  | .intersection members => .intersection (renameMembers newName members)
  | .named symbol => .named (newName symbol)
  | .unknown => .unknown

/-- `rename` in each property. -/
def renameProperties (newName : String → String) :
    List (String × Bool × Shape) → List (String × Bool × Shape)
  | [] => []
  | (name, required, shape) :: rest =>
      (name, required, rename newName shape) :: renameProperties newName rest

/-- `rename` in each member. -/
def renameMembers (newName : String → String) : List Shape → List Shape
  | [] => []
  | member :: rest => rename newName member :: renameMembers newName rest

end

mutual

/-- The declared names that a shape mentions, in order and with repetitions. -/
def symbols : Shape → List String
  | .array items => symbols items
  | .object properties none => symbolsOfProperties properties
  | .object properties (some others) => symbolsOfProperties properties ++ symbols others
  | .enumeration _ => []
  | .primitive _ => []
  | .union members => symbolsOfMembers members
  | .intersection members => symbolsOfMembers members
  | .named symbol => [symbol]
  | .unknown => []

/-- The declared names in the properties. -/
def symbolsOfProperties : List (String × Bool × Shape) → List String
  | [] => []
  | (_, _, shape) :: rest => symbols shape ++ symbolsOfProperties rest

/-- The declared names in the members. -/
def symbolsOfMembers : List Shape → List String
  | [] => []
  | member :: rest => symbols member ++ symbolsOfMembers rest

end

end Shape

/-- A name, and the type it is declared to stand for. -/
structure Declaration where
  symbol : String
  shape : Shape
deriving Repr, Inhabited

end TypedClient
