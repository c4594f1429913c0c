import TypedClient.Naming
import TypedClient.Text.Blank
import TypedClient.Url.Reading
import TypedClient.Warning

/-!
Contract: where the documents of a run come from.

Owns:
- `Source`, a file or a list of addresses, and which one two options denote;
- the addresses of a list with commas;
- the qualifier that an address suggests for the names of its document.

Does not own: reading files and fetching addresses.
-/

namespace TypedClient

/-- Where the documents of a run come from. -/
inductive Source where
  | file (path : String)
  /-- Addresses, in the order in which their documents are merged. -/
  | addresses (addresses : List String)
deriving DecidableEq, Repr

namespace Source

/-- The addresses between commas, without the blanks around them; blank ones do not count. -/
def addressList (text : String) : List String :=
  (((Text.splitWhere (· = ',') text.toList).map Text.trim).filter
    (fun address => !address.isEmpty)).map String.ofList

/-- The source that the options for a file and for addresses denote. The file wins over the
addresses. -/
def ofOptions? (file addresses : Option String) : Option Source :=
  match file, addresses with
  | some path, _ => some (.file path)
  | none, some text =>
      match addressList text with
      | [] => none
      | found => some (.addresses found)
  | none, none => none

/-- What is noticed about the options: addresses count for nothing beside a file. -/
def optionWarnings (file addresses : Option String) : List Warning :=
  match file, addresses with
  | some path, some _ => [.locationsIgnored path]
  | _, _ => []

/-- The qualifier that an address suggests: the camel-case form of the last but one of the names
in its path. -/
def qualifierOf (address : String) : String :=
  match (Url.read? address).map (fun url => url.path.names.reverse) with
  | some (_ :: name :: _) => String.ofList (Naming.camelCase name)
  | _ => ""

theorem addressList_ne_empty {text address : String} (member : address ∈ addressList text) :
    address ≠ "" := by
  simp only [addressList, List.mem_map, List.mem_filter] at member
  obtain ⟨characters, ⟨_, nonempty⟩, rfl⟩ := member
  intro empty
  have none : characters = [] := by simpa using congrArg String.toList empty
  simp [none] at nonempty

end Source

end TypedClient
