import TypedClient.Client.Artifact
import TypedClient.Run.Failure
import TypedClient.Run.Surroundings

/-!
Contract: writing the files of a client into a directory.

Owns:
- the path of each file;
- which files replace what stands there, and what is reported about each.

Does not own: what the files hold.
-/

namespace TypedClient

/-- What happened to a file. -/
inductive WriteOutcome where
  /-- It was written anew. -/
  | written
  /-- It was written where nothing stood. -/
  | created
  /-- It stood there already, and was left alone. -/
  | skipped
deriving DecidableEq, Repr

/-- An outcome in a word. -/
def WriteOutcome.label : WriteOutcome → String
  | .written => "written"
  | .created => "created"
  | .skipped => "skipped"

/-- A file that was written or left alone. -/
structure WrittenFile where
  path : String
  kind : Client.ArtifactKind
  outcome : WriteOutcome
deriving DecidableEq, Repr

namespace Client

def pathIn (directory name : String) : String :=
  if directory.isEmpty || directory.toList.getLast? = some '/' then directory ++ name
  else directory ++ "/" ++ name

variable {m : Type → Type} [Monad m]

/-- Write one file. The file that sets a client up is left alone if anything stands in its place. -/
def writeFile (surroundings : Surroundings m) (directory : String) (artifact : Artifact) :
    ExceptT Failure m WrittenFile := do
  let path := pathIn directory artifact.kind.fileName
  if artifact.kind.isRegenerated then
    match ← surroundings.write path artifact.contents with
    | .ok () => return ⟨path, artifact.kind, .written⟩
    | .error cause => throw (.write path cause)
  else if ← surroundings.isTaken path then return ⟨path, artifact.kind, .skipped⟩
  else
    match ← surroundings.write path artifact.contents with
    | .ok () => return ⟨path, artifact.kind, .created⟩
    | .error cause => throw (.write path cause)

/-- Create a directory and write files into it, in order, up to the first failure. -/
def writeFiles (surroundings : Surroundings m) (directory : String) (artifacts : List Artifact) :
    ExceptT Failure m (List WrittenFile) := do
  match ← surroundings.createDirectories directory with
  | .ok () => artifacts.mapM (writeFile surroundings directory)
  | .error cause => throw (.createDirectory directory cause)

end Client

end TypedClient
