import TypedClient.Run.Request
import TypedClient.Workspace.Fault

/-!
Contract: why a run fails.

Owns: the causes and their wording.

Does not own: what a run works around, which is a warning.
-/

namespace TypedClient

/-- Why a run fails. -/
inductive Failure where
  /-- Neither a file nor an address is given. -/
  | noSource
  /-- A document cannot be fetched. -/
  | fetch (address : String) (cause : FetchFault)
  /-- A file with a document cannot be read. -/
  | readDocument (path : String) (cause : DiskFault)
  /-- A text is no document. -/
  | document (origin cause : String)
  /-- The directory for the files cannot be created. -/
  | createDirectory (path : String) (cause : DiskFault)
  /-- A file cannot be written. -/
  | write (path : String) (cause : DiskFault)
deriving DecidableEq, Repr

namespace Failure

/-- The wording of a failure. -/
def message : Failure → String
  | .noSource => "no specification source given: pass --url or --file"
  | .fetch address cause =>
      "failed to load specification from " ++ address ++ ": " ++ cause.message
  | .readDocument path cause =>
      "failed to read specification file " ++ path ++ ": " ++ cause.message
  | .document origin cause => "failed to parse specification " ++ origin ++ ": " ++ cause
  | .createDirectory path cause =>
      "failed to create output directory " ++ path ++ ": " ++ cause.message
  | .write path cause => "failed to write " ++ path ++ ": " ++ cause.message

end Failure

end TypedClient
