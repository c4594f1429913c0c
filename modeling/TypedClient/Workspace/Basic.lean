import TypedClient.Text.Split
import TypedClient.Workspace.Fault

/-!
Contract: a tree of files and directories.

Owns:
- `Workspace`, the entries of a tree below its root, each with its place;
- the steps of a written path, and walking them through the tree;
- looking an entry up, and replacing, adding and removing entries.

Does not own: the checks that each operation on files makes.
-/

namespace TypedClient

/-- What stands at a place. -/
inductive Entry where
  | directory
  /-- A file that holds a text. -/
  | text (content : String)
  /-- A file whose octets are no text. -/
  | binary
deriving DecidableEq, Repr

/-- The names that lead from the root of a tree to a place. -/
abbrev Location := List String

/-- A tree of files and directories. Its root is a directory without an entry of its own. -/
structure Workspace where
  entries : List (Location × Entry) := []
deriving Repr

/-- A written path as it is walked. -/
structure Steps where
  /-- The names between slashes, among them those that stand for this or the upper directory. -/
  names : List String
  /-- Whether the path ends in a slash, so that it can only mean a directory. -/
  wantsDirectory : Bool
deriving DecidableEq, Repr

namespace Steps

def ofPath (path : String) : Steps where
  names :=
    ((Text.splitWhere (· = '/') path.toList).filter (fun name => !name.isEmpty)).map String.ofList
  wantsDirectory := path.toList.getLast? = some '/'

/-- The steps without those that stand for the directory they are taken in, unless it is the first
one. -/
def essential (steps : Steps) : List String :=
  steps.names.take 1 ++ (steps.names.drop 1).filter (· ≠ ".")

end Steps

namespace Workspace

/-- What stands at a place. -/
def entryAt? (workspace : Workspace) (location : Location) : Option Entry :=
  if location = [] then some .directory
  else (workspace.entries.find? (fun entry => entry.1 = location)).map Prod.snd

/-- The tree with an entry at a place, instead of the one that stands there. -/
def withEntry (workspace : Workspace) (location : Location) (entry : Entry) : Workspace :=
  if workspace.entries.any (fun old => old.1 = location) then
    ⟨workspace.entries.map (fun old => if old.1 = location then (location, entry) else old)⟩
  else ⟨workspace.entries ++ [(location, entry)]⟩

/-- The tree without what stands at a place and below it. -/
def without (workspace : Workspace) (location : Location) : Workspace :=
  ⟨workspace.entries.filter (fun entry => !location.isPrefixOf entry.1)⟩

/-- Walk steps from a directory; each has to lead to a directory. -/
def walk (workspace : Workspace) (location : Location) : List String → Except DiskFault Location
  | [] => .ok location
  | step :: rest =>
      if step = "." then walk workspace location rest
      else if step = ".." then walk workspace location.dropLast rest
      else if 255 < step.utf8ByteSize then .error .nameTooLong
      else
        match workspace.entryAt? (location ++ [step]) with
        | none => .error .missing
        | some .directory => walk workspace (location ++ [step]) rest
        | some _ => .error .notDirectory

def isName (step : String) : Bool := step ≠ "." && step ≠ ".."

/-- Where steps lead: the place of the last one in the directory that the others lead to. Whether
anything stands there is left open. -/
def locate (workspace : Workspace) (names : List String) : Except DiskFault Location := do
  let directory ← workspace.walk [] names.dropLast
  match names.getLast? with
  | none => return []
  | some last =>
      if isName last then
        if 255 < last.utf8ByteSize then .error .nameTooLong else return directory ++ [last]
      else workspace.walk directory [last]

/-- Why a written path cannot be walked at all. -/
def pathFault? (path : String) : Option DiskFault :=
  if path.toList.contains '\x00' then some .zeroInName
  else if path.isEmpty then some .missing
  else if 4096 ≤ path.utf8ByteSize then some .nameTooLong
  else none

/-- Where a written path leads. -/
def locatePath (workspace : Workspace) (path : String) : Except DiskFault Location :=
  match pathFault? path with
  | some fault => .error fault
  | none => workspace.locate (Steps.ofPath path).names

/-- What a written path leads to. -/
def entryOf (workspace : Workspace) (path : String) : Except DiskFault Entry := do
  let location ← workspace.locatePath path
  match workspace.entryAt? location with
  | none => .error .missing
  | some entry =>
      if entry ≠ .directory ∧ (Steps.ofPath path).wantsDirectory then .error .notDirectory
      else return entry

@[simp] theorem entryAt?_nil (workspace : Workspace) : workspace.entryAt? [] = some .directory := by
  simp [entryAt?]

private theorem find?_map_replaced (entries : List (Location × Entry)) (location : Location)
    (entry : Entry) (present : entries.any (fun old => old.1 = location) = true) :
    (entries.map (fun old => if old.1 = location then (location, entry) else old)).find?
      (fun old => old.1 = location) = some (location, entry) := by
  induction entries with
  | nil => simp at present
  | cons head rest inductionHypothesis =>
      by_cases same : head.1 = location
      · simp [same]
      · have later : rest.any (fun old => old.1 = location) = true := by simpa [same] using present
        simp [same, inductionHypothesis later]

private theorem find?_map_other (entries : List (Location × Entry)) {location other : Location}
    (entry : Entry) (different : other ≠ location) :
    (entries.map (fun old => if old.1 = location then (location, entry) else old)).find?
      (fun old => old.1 = other) = entries.find? (fun old => old.1 = other) := by
  induction entries with
  | nil => rfl
  | cons head rest inductionHypothesis =>
      by_cases same : head.1 = location
      · have headOther : ¬ head.1 = other := fun equal => different (equal.symm.trans same)
        have swapped : ¬ location = other := fun equal => different equal.symm
        simp [same, swapped, inductionHypothesis]
      · by_cases found : head.1 = other
        · simp [found, different]
        · simp [same, found, inductionHypothesis]

/-- After an entry is put at a place below the root, it stands there. -/
theorem entryAt?_withEntry_self (workspace : Workspace) {location : Location} (entry : Entry)
    (below : location ≠ []) :
    (workspace.withEntry location entry).entryAt? location = some entry := by
  by_cases present : workspace.entries.any (fun old => old.1 = location) = true
  · simp only [entryAt?, withEntry, below, present, ↓reduceIte]
    rw [find?_map_replaced workspace.entries location entry present]
    rfl
  · have absent : ∀ old ∈ workspace.entries, ¬ old.1 = location := by
      intro old member equal
      exact present (List.any_eq_true.2 ⟨old, member, by simpa using equal⟩)
    have none : workspace.entries.find? (fun old => old.1 = location) = none := by
      simpa using absent
    simp [entryAt?, withEntry, below, present, none]

/-- An entry that is put at one place leaves all other places as they are. -/
theorem entryAt?_withEntry_of_ne (workspace : Workspace) {location other : Location}
    (entry : Entry) (different : other ≠ location) :
    (workspace.withEntry location entry).entryAt? other = workspace.entryAt? other := by
  by_cases root : other = []
  · simp [root]
  · by_cases present : workspace.entries.any (fun old => old.1 = location) = true
    · simp only [entryAt?, withEntry, root, present, ↓reduceIte]
      rw [find?_map_other workspace.entries entry different]
    · have swapped : ¬ location = other := fun equal => different equal.symm
      simp [entryAt?, withEntry, root, present, swapped]

end Workspace

end TypedClient
