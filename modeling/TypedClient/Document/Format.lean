import TypedClient.Document.Decoding
import TypedClient.Yaml.Reading

/-!
Contract: the two formats in which a document is written.

Owns:
- telling the format from the location of a document;
- reading a document in either format.

Does not own: the formats themselves.
-/

namespace TypedClient

/-- A format of documents. -/
inductive Format where
  | json
  | yaml
deriving DecidableEq, Repr

namespace Format

/-- A location without its query and fragment. -/
def pathOf (location : List Char) : List Char :=
  location.takeWhile (fun character => character ≠ '?' && character ≠ '#')

/-- The format of what stands at a location: its ending tells, in upper or lower case. -/
def ofLocation (location : String) : Format :=
  let path := (pathOf location.toList).map Char.toLower
  if ".yaml".toList.isSuffixOf path || ".yml".toList.isSuffixOf path then .yaml else .json

end Format

/-- Read a document; the failure is in words. A YAML document is read through its tree, so that a
failure of its shape has no place. -/
def Document.parse (format : Format) (text : String) : Except String Document :=
  match format with
  | .json => (Document.decoder.decode text).mapError Json.Failure.message
  | .yaml => do
      let tree ← Yaml.readTree text
      (Document.decoder.fromTree tree).mapError Json.Fault.message

end TypedClient
