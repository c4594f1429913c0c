import TypedClient.Document.Lookup
import TypedClient.Shape.Basic

/-!
Contract: schemas with their references expanded.

Owns:
- `Document.expand`, the shape of a schema when the references to some components, those on the
  trail, are left as names and every other reference is replaced by the shape of its component;
- `Document.notices`, what is noticed on the way, in order.

Does not own: the symbols that the components left as names get. A shape here mentions
components.
-/

namespace TypedClient

/-- What the expansion of a reference meets besides a shape. -/
inductive Notice where
  | warning (warning : Warning)
  /-- A reference closes a cycle at a component. -/
  | cycle (component : String)
deriving DecidableEq, Repr

namespace Schema

mutual

/-- The shape of a schema, given the shape of every pointer. -/
def expandWith (follow : String → Shape) : Schema → Shape
  | .reference pointer => follow pointer
  | .array items => .array (expandWith follow items)
  | .object properties required .closed =>
      .object (expandProperties follow required properties) none
  | .object properties required .anything =>
      .object (expandProperties follow required properties) (some .unknown)
  | .object properties required (.schema others) =>
      .object (expandProperties follow required properties) (some (expandWith follow others))
  | .enumeration values => .enumeration values
  | .primitive kind => .primitive kind
  | .union members => .union (expandMembers follow members)
  | .intersection members => .intersection (expandMembers follow members)
  | .unknown => .unknown

def expandProperties (follow : String → Shape) (required : List String) :
    List (String × Schema) → List (String × Bool × Shape)
  | [] => []
  | (name, schema) :: rest =>
      (name, required.contains name, expandWith follow schema) ::
        expandProperties follow required rest

def expandMembers (follow : String → Shape) : List Schema → List Shape
  | [] => []
  | member :: rest => expandWith follow member :: expandMembers follow rest

end

mutual

/-- The pointers of a schema in order. -/
def pointers : Schema → List String
  | .reference pointer => [pointer]
  | .array items => pointers items
  | .object properties _ .closed => pointersOfProperties properties
  | .object properties _ .anything => pointersOfProperties properties
  | .object properties _ (.schema others) => pointersOfProperties properties ++ pointers others
  | .enumeration _ => []
  | .primitive _ => []
  | .union members => pointersOfMembers members
  | .intersection members => pointersOfMembers members
  | .unknown => []

def pointersOfProperties : List (String × Schema) → List String
  | [] => []
  | (_, schema) :: rest => pointers schema ++ pointersOfProperties rest

def pointersOfMembers : List Schema → List String
  | [] => []
  | member :: rest => pointers member ++ pointersOfMembers rest

end

end Schema

namespace Document

/-- The names of the components that are not on a trail. -/
def untrodden (document : Document) (trail : List String) : List String :=
  document.schemaNames.filter (fun name => !trail.contains name)

/-- A component that was not on the trail leaves fewer when it is put there. -/
theorem length_untrodden_lt {document : Document} {trail : List String} {name : String}
    {schema : Schema} (found : document.schema? name = some schema) (fresh : name ∉ trail) :
    (document.untrodden (name :: trail)).length < (document.untrodden trail).length := by
  have fewer : document.untrodden (name :: trail) =
      (document.untrodden trail).filter (fun other => decide (other ≠ name)) := by
    simp only [untrodden, List.filter_filter]
    apply List.filter_congr
    intro other _
    by_cases same : other = name <;> simp [same]
  rw [fewer]
  have member : name ∈ document.untrodden trail := by
    simp [untrodden, mem_schemaNames_of_schema? found, fresh]
  exact List.length_filter_lt_length_iff_exists.2 ⟨name, member, by simp⟩

/-- The shape of what a pointer names. A component on the trail stays a name; a pointer that names
nothing has no known shape. -/
def expandPointer (document : Document) (trail : List String) (pointer : String) : Shape :=
  match Pointer.target? Pointer.schemaPlaces pointer with
  | none => .unknown
  | some name =>
      match _found : document.schema? name with
      | none => .unknown
      | some target =>
          if _fresh : name ∈ trail then .named name
          else target.expandWith (expandPointer document (name :: trail))
termination_by (document.untrodden trail).length
decreasing_by exact length_untrodden_lt _found _fresh

def expand (document : Document) (trail : List String) (schema : Schema) : Shape :=
  schema.expandWith (document.expandPointer trail)

def pointerNotices (document : Document) (trail : List String) (pointer : String) : List Notice :=
  match Pointer.target? Pointer.schemaPlaces pointer with
  | none => [.warning (.foreignSchemaReference pointer)]
  | some name =>
      match _found : document.schema? name with
      | none => [.warning (.missingSchema pointer)]
      | some target =>
          if _fresh : name ∈ trail then [.cycle name]
          else target.pointers.flatMap (pointerNotices document (name :: trail))
termination_by (document.untrodden trail).length
decreasing_by exact length_untrodden_lt _found _fresh

def notices (document : Document) (trail : List String) (schema : Schema) : List Notice :=
  schema.pointers.flatMap (document.pointerNotices trail)

end Document

end TypedClient
