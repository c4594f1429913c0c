/-!
Contract: what a run notices without failing.

Owns:
- the causes of a warning, with the names involved;
- the wording of each and the labelled texts that go with it.

Does not own: when a cause arises, and what is done about it.
-/

namespace TypedClient

/-- Something amiss that a run works around. -/
inductive Warning where
  /-- A reference to a parameter, body or response leads nowhere. -/
  | danglingReference (pointer : String)
  /-- A chain of references to a parameter, body or response is too long. -/
  | longReferenceChain
  /-- A schema reference does not point at a component of the document. -/
  | foreignSchemaReference (pointer : String)
  /-- A schema reference points at a component that the document does not have. -/
  | missingSchema (pointer : String)
  /-- The symbol of a component was taken. -/
  | symbolTaken (component symbol : String)
  /-- A path parameter has no place in its path. -/
  | unplacedPathParameter (name path : String)
  /-- The symbols of shared types were taken by earlier documents. -/
  | sharedSymbolsTaken (origin : String) (count : Nat)
  /-- The name of an endpoint was taken. -/
  | endpointNameTaken (endpoint extracted renamed : String)
  /-- Both a file and locations were given. -/
  | locationsIgnored (file : String)
deriving DecidableEq, Repr

namespace Warning

/-- The wording of a warning. -/
def message : Warning → String
  | .danglingReference _ => "unresolvable reference, ignoring"
  | .longReferenceChain => "reference chain too deep, ignoring"
  | .foreignSchemaReference _ => "unsupported schema reference, using unknown"
  | .missingSchema _ => "schema component not found, using unknown"
  | .symbolTaken _ _ => "schema symbol collision, renamed"
  | .unplacedPathParameter _ _ => "path parameter does not appear in the path template"
  | .sharedSymbolsTaken _ _ => "shared type symbols collided, renamed"
  | .endpointNameTaken _ _ _ => "identifier collision, renamed endpoint"
  | .locationsIgnored _ => "both --file and --url given, using the file"

/-- The labelled texts of a warning. -/
def fields : Warning → List (String × String)
  | .danglingReference pointer => [("pointer", pointer)]
  | .longReferenceChain => []
  | .foreignSchemaReference pointer => [("pointer", pointer)]
  | .missingSchema pointer => [("pointer", pointer)]
  | .symbolTaken component symbol => [("component", component), ("symbol", symbol)]
  | .unplacedPathParameter name path => [("name", name), ("path", path)]
  | .sharedSymbolsTaken origin count => [("origin", origin), ("renamed", toString count)]
  | .endpointNameTaken endpoint extracted renamed =>
      [("endpoint", endpoint), ("original", extracted), ("renamed", renamed)]
  | .locationsIgnored file => [("file", file)]

end Warning

end TypedClient
