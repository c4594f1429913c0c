import TypedClient.Run.Request
import TypedClient.Workspace.Operations

/-!
Contract: what a run needs from the outside.

Owns:
- `Surroundings`, the operations on files and the fetching that a run is written with;
- the surroundings that a tree of files and a server make.

Does not own: the surroundings of a program, which are the outside itself.
-/

namespace TypedClient

/-- What a run needs from the outside. -/
structure Surroundings (m : Type → Type) where
  /-- The text of the file at a path. -/
  read : String → m (Except DiskFault String)
  /-- Create the directory that a path names, with those above it. -/
  createDirectories : String → m (Except DiskFault Unit)
  /-- Whether anything stands where a path leads. -/
  isTaken : String → m Bool
  /-- Write a text into the file at a path. -/
  write : String → String → m (Except DiskFault Unit)
  /-- What is sent for an address. -/
  fetch : Url → m (Except FetchFault String)

namespace Workspace

/-- Write a text into a file; the tree stays as it is if that fails. -/
def writeOrKeep (path content : String) (workspace : Workspace) :
    Except DiskFault Unit × Workspace :=
  match workspace.write path content with
  | .ok written => (.ok (), written)
  | .error fault => (.error fault, workspace)

/-- The surroundings that a tree of files makes, with what is sent for an address. -/
def surroundings (fetch : Url → Except FetchFault String) : Surroundings (StateM Workspace) where
  read path := fun workspace => (workspace.read path, workspace)
  createDirectories path := fun workspace => workspace.createDirectories path
  isTaken path := fun workspace => (workspace.exists? path, workspace)
  write path content := writeOrKeep path content
  fetch url := fun workspace => (fetch url, workspace)

end Workspace

end TypedClient
