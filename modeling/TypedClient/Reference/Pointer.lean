import TypedClient.Text.Split

/-!
Contract: pointers to the reusable parts of a document.

Owns:
- the places where reusable schemas stand;
- `Pointer.target?`, the name of the part that a pointer names at one of some places.

Does not own: pointers into other documents or to other places, which name nothing here.
-/

namespace TypedClient.Pointer

open TypedClient.Text

def schemaPlaces : List String := ["#/components/schemas/", "#/definitions/"]

/-- The name that an escaped name stands for: `~1` is a slash, and then `~0` is a tilde. -/
def decodeName (escaped : List Char) : List Char :=
  replacePair '~' '0' ['~'] (replacePair '~' '1' ['/'] escaped)

/-- What follows the first of some places that a pointer starts with. -/
def remainder? (places : List String) (pointer : String) : Option (List Char) :=
  places.findSome? (fun place => place.toList.isPrefixOf? pointer.toList)

/-- The name that a pointer gives for a part at one of some places: what follows the place, unless
it is empty or leads further down. -/
def target? (places : List String) (pointer : String) : Option String :=
  ((remainder? places pointer).filter (fun name => !name.isEmpty && !name.contains '/')).map
    (fun name => String.ofList (decodeName name))

end TypedClient.Pointer
