import TypedClient.Workspace.Basic

/-!
Contract: operations on the files of a tree, with the checks that a system makes.

Owns:
- reading and writing a file;
- creating a directory with those above it;
- removing and listing.

Does not own: what the files are for.
-/

namespace TypedClient.Workspace

/-- The text of a file. -/
def read (workspace : Workspace) (path : String) : Except DiskFault String := do
  match ← workspace.entryOf path with
  | .directory => .error .isDirectory
  | .binary => .error .notText
  | .text content => return content

/-- Whether anything stands where a path leads. -/
def exists? (workspace : Workspace) (path : String) : Bool :=
  (workspace.entryOf path).isOk

/-- Whether a directory stands where steps lead. -/
def isDirectory (workspace : Workspace) (names : List String) : Bool :=
  match workspace.locate names with
  | .ok location => workspace.entryAt? location = some .directory
  | .error _ => false

/-- The tree with a file where a path leads, instead of the file that stands there. -/
def put (workspace : Workspace) (path : String) (entry : Entry) : Except DiskFault Workspace := do
  let location ← workspace.locatePath path
  if (Steps.ofPath path).wantsDirectory ∨ workspace.entryAt? location = some .directory then
    .error .isDirectory
  else return workspace.withEntry location entry

/-- The tree with a text in the file where a path leads. -/
def write (workspace : Workspace) (path content : String) : Except DiskFault Workspace :=
  workspace.put path (.text content)

/-- The tree with one more directory. -/
def makeDirectory (workspace : Workspace) (names : List String) : Except DiskFault Workspace := do
  let location ← workspace.locate names
  match workspace.entryAt? location with
  | some _ => .error .taken
  | none => return workspace.withEntry location .directory

/-- Create a directory, given those above it from the nearest on. If the nearest is missing, it is
created first; a directory that stands there already is fine. -/
def createBelow (workspace : Workspace) : List (List String) → Except DiskFault Unit × Workspace
  | [] => (.ok (), workspace)
  | names :: upper =>
      match workspace.makeDirectory names with
      | .ok created => (.ok (), created)
      | .error .missing =>
          match createBelow workspace upper with
          | (.error fault, reached) => (.error fault, reached)
          | (.ok (), reached) =>
              match reached.makeDirectory names with
              | .ok created => (.ok (), created)
              | .error .taken =>
                  (if reached.isDirectory names then .ok () else .error .taken, reached)
              | .error fault => (.error fault, reached)
      | .error .taken =>
          (if workspace.isDirectory names then .ok () else .error .taken, workspace)
      | .error fault => (.error fault, workspace)

/-- The starts of some steps, from the longest on, without the empty one. -/
def starts (names : List String) : List (List String) :=
  ((List.range names.length).map (fun count => names.take (count + 1))).reverse

/-- Create the directory that a path names, with those above it. What was created stays, also if a
later step fails. The empty path is the directory that all paths start from. -/
def createDirectories (workspace : Workspace) (path : String) :
    Except DiskFault Unit × Workspace :=
  if path.isEmpty then (.ok (), workspace)
  else
    match pathFault? path with
    | some fault => (.error fault, workspace)
    | none =>
        let steps := Steps.ofPath path
        workspace.createBelow (steps.names :: starts steps.essential.dropLast)

/-- Put a file where a path leads, and create the directories above it. -/
def putBelow (workspace : Workspace) (path : String) (entry : Entry) :
    Except DiskFault Unit × Workspace :=
  match workspace.createBelow (starts (Steps.ofPath path).essential.dropLast) with
  | (.error fault, reached) => (.error fault, reached)
  | (.ok (), reached) =>
      match reached.put path entry with
      | .ok final => (.ok (), final)
      | .error fault => (.error fault, reached)

/-- Remove a file, or a directory with all that is in it. The root is emptied, but stays. -/
def remove (workspace : Workspace) (path : String) : Except DiskFault Unit × Workspace :=
  match workspace.entryOf path, workspace.locatePath path with
  | .ok _, .ok [] => (.error .invalid, {})
  | .ok _, .ok location => (.ok (), workspace.without location)
  | .error fault, _ => (.error fault, workspace)
  | _, .error fault => (.error fault, workspace)

/-- A place as a path; a directory has a slash behind it. -/
def pathOf (location : Location) (entry : Entry) : String :=
  "/".intercalate location ++ (if entry = .directory then "/" else "")

/-- The paths of all entries, in order. -/
def paths (workspace : Workspace) : List String :=
  (workspace.entries.map (fun entry => pathOf entry.1 entry.2)).mergeSort
    (fun left right => left ≤ right)

end TypedClient.Workspace
