import TypedClient.Document.Basic
import TypedClient.Reference.Pointer
import TypedClient.Warning

/-!
Contract: where the references of a document lead.

Owns:
- the schema of a component name, and the list of these names;
- following references to parameters, bodies and responses, up to a fixed number of steps.

Does not own: references inside schemas.
-/

namespace TypedClient

/-- The number of steps that are taken along a chain of references, the last one included. -/
def stepLimit : Nat := 8

/-- Follow references until an item stands in its place; otherwise say why there is none. -/
def OrReference.follow {α : Type} (lookup? : String → Option (OrReference α)) :
    Nat → OrReference α → Except Warning α
  | 0, _ => .error .longReferenceChain
  | _ + 1, .inline item => .ok item
  | steps + 1, .reference pointer =>
      match lookup? pointer with
      | some next => follow lookup? steps next
      | none => .error (.danglingReference pointer)

namespace Document

def schema? (document : Document) (name : String) : Option Schema :=
  (document.components.schemas.lookup? name).or (document.definitions.lookup? name)

def schemaNames (document : Document) : List String :=
  document.components.schemas.keys ++ document.definitions.keys

theorem mem_schemaNames_of_schema? {document : Document} {name : String} {schema : Schema}
    (found : document.schema? name = some schema) : name ∈ document.schemaNames := by
  rcases Option.or_eq_some_iff.1 found with modern | ⟨_, older⟩
  · exact List.mem_append_left _ (Ordered.mem_keys_of_lookup? modern)
  · exact List.mem_append_right _ (Ordered.mem_keys_of_lookup? older)

/-- What stands at a pointer to one of two places: the newer place of a section, or the older. -/
def atPointer? {α : Type} (newer : String × Ordered α) (older : String × Ordered α)
    (pointer : String) : Option α :=
  let look (place : String × Ordered α) :=
    (Pointer.target? [place.1] pointer).bind (fun name => place.2.lookup? name)
  (look newer).or (look older)

def parameter (document : Document) (item : OrReference Parameter) : Except Warning Parameter :=
  item.follow (atPointer? ("#/components/parameters/", document.components.parameters)
    ("#/parameters/", document.parameters)) stepLimit

/-- The body of an item or a reference; bodies have no older place. -/
def requestBody (document : Document) (item : OrReference RequestBody) :
    Except Warning RequestBody :=
  item.follow (fun pointer =>
    (Pointer.target? ["#/components/requestBodies/"] pointer).bind (fun name =>
      document.components.requestBodies.lookup? name)) stepLimit

def response (document : Document) (item : OrReference Response) : Except Warning Response :=
  item.follow (atPointer? ("#/components/responses/", document.components.responses)
    ("#/responses/", document.responses)) stepLimit

end Document

end TypedClient
