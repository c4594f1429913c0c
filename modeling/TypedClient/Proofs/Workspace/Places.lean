import Mathlib.Data.List.Basic
import TypedClient.Run.Writing

/-!
Contract: where paths lead.

Owns:
- `Workspace.destination`, the place that steps lead to, whatever a tree holds;
- that walking in a tree leads there, through directories alone;
- that what can be walked in a tree can be walked in every tree that keeps its directories;
- the place of a file in the directory at a path.

Does not own: changes of a tree.
-/

namespace TypedClient

/-! ## The steps of a path -/

namespace Steps

/-- The names between the slashes of a text. -/
def namesOf (text : List Char) : List String :=
  ((Text.splitWhere (· = '/') text).filter (fun name => !name.isEmpty)).map String.ofList

theorem namesOf_append_slash (before after : List Char) :
    namesOf (before ++ '/' :: after) = namesOf before ++ namesOf after := by
  rw [namesOf, Text.splitWhere_append_separator (by decide), List.filter_append, List.map_append]
  rfl

theorem namesOf_plain {text : List Char} (nonempty : text ≠ [])
    (plain : ∀ character ∈ text, decide (character = '/') = false) :
    namesOf text = [String.ofList text] := by
  have isKept : (!text.isEmpty) = true := by simpa using nonempty
  rw [namesOf, Text.splitWhere_of_plain plain, List.filter_singleton, isKept]
  rfl

variable {name : String}

/-- The steps of the path of a file are those of its directory, and its name. -/
theorem names_pathIn (directory : String) (nonempty : name.toList ≠ [])
    (plain : ∀ character ∈ name.toList, decide (character = '/') = false) :
    (Steps.ofPath (Client.pathIn directory name)).names =
      (Steps.ofPath directory).names ++ [name] := by
  have ofName : namesOf name.toList = [name] := by
    rw [namesOf_plain nonempty plain, String.ofList_toList]
  change namesOf (Client.pathIn directory name).toList = namesOf directory.toList ++ [name]
  rw [← ofName, Client.pathIn]
  split
  · rename_i ends
    rw [Bool.or_eq_true, decide_eq_true_eq] at ends
    rw [String.toList_append]
    rcases ends with empty | slash
    · have isEmpty : directory.toList = [] := by simpa using empty
      rw [isEmpty]
      rfl
    · obtain ⟨start, isStart⟩ := List.getLast?_eq_some_iff.1 slash
      have nothing : namesOf [] = [] := rfl
      rw [isStart, List.append_assoc, List.singleton_append, namesOf_append_slash,
        namesOf_append_slash, nothing, List.append_nil]
  · rw [String.toList_append, String.toList_append, List.append_assoc]
    exact namesOf_append_slash directory.toList name.toList

theorem wantsDirectory_pathIn (directory : String) (nonempty : name.toList ≠ [])
    (plain : ∀ character ∈ name.toList, decide (character = '/') = false) :
    (Steps.ofPath (Client.pathIn directory name)).wantsDirectory = false := by
  have last : (Client.pathIn directory name).toList.getLast? = name.toList.getLast? := by
    unfold Client.pathIn
    split
    · rw [String.toList_append, List.getLast?_append_of_ne_nil _ nonempty]
    · rw [String.toList_append, List.getLast?_append_of_ne_nil _ nonempty]
  rw [Steps.ofPath]
  simp only [last, decide_eq_false_iff_not]
  intro slash
  exact absurd (plain '/' (List.mem_of_getLast? slash)) (by decide)

end Steps

namespace Workspace

/-! ## Destinations -/

/-- The place that one more step leads to. -/
def stepTo (location : Location) (step : String) : Location :=
  if step = "." then location else if step = ".." then location.dropLast else location ++ [step]

/-- The place that steps lead to from the root, whatever a tree holds. -/
def destination (names : List String) : Location := names.foldl stepTo []

/-- All places on the way to a place are directories, and so is the place. -/
def Solid (workspace : Workspace) (location : Location) : Prop :=
  ∀ start, start <+: location → workspace.entryAt? start = some .directory

variable {workspace before after : Workspace} {location place : Location} {names : List String}
  {path : String}

theorem solid_nil (workspace : Workspace) : workspace.Solid [] := by
  intro start isStart
  rw [List.prefix_nil.1 isStart]
  exact workspace.entryAt?_nil

theorem Solid.entryAt?_eq (solid : workspace.Solid location) :
    workspace.entryAt? location = some .directory :=
  solid location List.prefix_rfl

theorem Solid.dropLast (solid : workspace.Solid location) : workspace.Solid location.dropLast :=
  fun start isStart => solid start (isStart.trans (List.dropLast_prefix location))

theorem Solid.concat (solid : workspace.Solid location) {step : String}
    (isDirectory : workspace.entryAt? (location ++ [step]) = some .directory) :
    workspace.Solid (location ++ [step]) := by
  intro start isStart
  rcases List.prefix_concat_iff.1 isStart with rfl | earlier
  · exact isDirectory
  · exact solid start earlier

/-- Walking leads to the destination, through directories alone. -/
theorem walk_eq_ok (solid : workspace.Solid location)
    (walked : workspace.walk location names = .ok place) :
    place = names.foldl stepTo location ∧ workspace.Solid place := by
  induction names generalizing location with
  | nil =>
      rw [walk, Except.ok.injEq] at walked
      exact ⟨walked.symm, walked ▸ solid⟩
  | cons step rest inductionHypothesis =>
      rw [walk] at walked
      rw [List.foldl_cons, stepTo]
      split at walked
      · rename_i here
        rw [if_pos here]
        exact inductionHypothesis solid walked
      · rename_i notHere
        rw [if_neg notHere]
        split at walked
        · rename_i up
          rw [if_pos up]
          exact inductionHypothesis solid.dropLast walked
        · rename_i notUp
          rw [if_neg notUp]
          split at walked
          · cases walked
          · split at walked
            · cases walked
            · rename_i isDirectory
              exact inductionHypothesis (solid.concat isDirectory) walked
            · cases walked

theorem walk_append (names more : List String) :
    workspace.walk location (names ++ more) =
      (workspace.walk location names).bind (fun place => workspace.walk place more) := by
  induction names generalizing location with
  | nil => rfl
  | cons step rest inductionHypothesis =>
      rw [List.cons_append, walk, walk]
      split
      · exact inductionHypothesis
      · split
        · exact inductionHypothesis
        · split
          · rfl
          · split
            · rfl
            · exact inductionHypothesis
            · rfl

/-- To locate steps is to walk all but the last one. -/
theorem locate_concat (init : List String) (last : String) :
    workspace.locate (init ++ [last]) =
      (workspace.walk [] init).bind (fun directory =>
        if isName last then
          if 255 < last.utf8ByteSize then .error .nameTooLong else .ok (directory ++ [last])
        else workspace.walk directory [last]) := by
  rw [locate, List.dropLast_concat, List.getLast?_concat]
  rfl

theorem isName_iff {step : String} : isName step = true ↔ step ≠ "." ∧ step ≠ ".." := by
  simp [isName]

theorem stepTo_of_isName {step : String} (named : isName step = true) (location : Location) :
    stepTo location step = location ++ [step] := by
  rw [isName_iff] at named
  rw [stepTo, if_neg named.1, if_neg named.2]

/-- Located steps lead to their destination. -/
theorem locate_eq_ok (located : workspace.locate names = .ok place) : place = destination names := by
  rcases names.eq_nil_or_concat' with rfl | ⟨init, last, rfl⟩
  · rw [locate] at located
    exact (Except.ok.inj located).symm
  · rw [locate_concat] at located
    rw [destination, List.foldl_concat]
    cases walked : workspace.walk [] init with
    | error fault =>
        rw [walked] at located
        cases located
    | ok directory =>
        rw [walked, Except.bind] at located
        obtain ⟨rfl, solid⟩ := walk_eq_ok workspace.solid_nil walked
        split at located
        · rename_i named
          rw [stepTo_of_isName named]
          split at located
          · cases located
          · exact (Except.ok.inj located).symm
        · exact (walk_eq_ok solid located).1

/-- What can be walked can be located, and is a directory. -/
theorem locate_of_walk (walked : workspace.walk [] names = .ok place) :
    workspace.locate names = .ok place ∧ workspace.entryAt? place = some .directory := by
  refine ⟨?_, (walk_eq_ok workspace.solid_nil walked).2.entryAt?_eq⟩
  rcases names.eq_nil_or_concat' with rfl | ⟨init, last, rfl⟩
  · exact walked
  · rw [walk_append] at walked
    rw [locate_concat]
    cases walkedInit : workspace.walk [] init with
    | error fault =>
        rw [walkedInit] at walked
        cases walked
    | ok directory =>
        rw [walkedInit, Except.bind] at walked
        rw [Except.bind]
        split
        · rename_i named
          rw [isName_iff] at named
          rw [walk, if_neg named.1, if_neg named.2] at walked
          split at walked
          · cases walked
          · rename_i short
            rw [if_neg short]
            split at walked
            · cases walked
            · exact walked
            · cases walked
        · exact walked

/-- When the place of a name in a directory is located, the directory can be walked to. -/
theorem walk_of_locate_concat {last : String}
    (located : workspace.locate (names ++ [last]) = .ok place) :
    ∃ directory, workspace.walk [] names = .ok directory := by
  rw [locate_concat] at located
  cases walked : workspace.walk [] names with
  | error fault =>
      rw [walked] at located
      cases located
  | ok directory => exact ⟨directory, rfl⟩

/-! ## Trees that keep their directories -/

/-- All directories of a tree are directories of a later one. -/
def KeepsDirectories (before after : Workspace) : Prop :=
  ∀ location, before.entryAt? location = some .directory →
    after.entryAt? location = some .directory

theorem KeepsDirectories.refl (workspace : Workspace) : KeepsDirectories workspace workspace :=
  fun _ isDirectory => isDirectory

theorem KeepsDirectories.trans {last : Workspace} (first : KeepsDirectories before after)
    (second : KeepsDirectories after last) : KeepsDirectories before last :=
  fun location isDirectory => second location (first location isDirectory)

theorem KeepsDirectories.walk (keeps : KeepsDirectories before after)
    (walked : before.walk location names = .ok place) : after.walk location names = .ok place := by
  induction names generalizing location with
  | nil => exact walked
  | cons step rest inductionHypothesis =>
      rw [Workspace.walk] at walked ⊢
      split
      · rename_i here
        rw [if_pos here] at walked
        exact inductionHypothesis walked
      · rename_i notHere
        rw [if_neg notHere] at walked
        split
        · rename_i up
          rw [if_pos up] at walked
          exact inductionHypothesis walked
        · rename_i notUp
          rw [if_neg notUp] at walked
          split at walked
          · cases walked
          · rename_i short
            rw [if_neg short]
            split at walked
            · cases walked
            · rename_i isDirectory
              rw [keeps _ isDirectory]
              exact inductionHypothesis walked
            · cases walked

theorem KeepsDirectories.locate (keeps : KeepsDirectories before after)
    (located : before.locate names = .ok place) : after.locate names = .ok place := by
  rcases names.eq_nil_or_concat' with rfl | ⟨init, last, rfl⟩
  · exact located
  · rw [locate_concat] at located ⊢
    cases walked : before.walk [] init with
    | error fault =>
        rw [walked] at located
        cases located
    | ok directory =>
        rw [walked, Except.bind] at located
        rw [keeps.walk walked, Except.bind]
        split
        · rename_i named
          rwa [if_pos named] at located
        · rename_i unnamed
          rw [if_neg unnamed] at located
          exact keeps.walk located

theorem KeepsDirectories.locatePath (keeps : KeepsDirectories before after)
    (located : before.locatePath path = .ok place) : after.locatePath path = .ok place := by
  rw [Workspace.locatePath] at located ⊢
  split at located
  · cases located
  · exact keeps.locate located

theorem locatePath_eq_ok (located : workspace.locatePath path = .ok place) :
    pathFault? path = none ∧ workspace.locate (Steps.ofPath path).names = .ok place := by
  rw [locatePath] at located
  split at located
  · cases located
  · rename_i noFault
    exact ⟨noFault, located⟩

end Workspace

/-! ## The files of a client -/

namespace Client

open Workspace (destination)

/-- The place of a file in the directory at a path. -/
def place (output : String) (kind : ArtifactKind) : Location :=
  destination (Steps.ofPath output).names ++ [kind.fileName]

theorem isName_fileName (kind : ArtifactKind) : Workspace.isName kind.fileName = true := by
  cases kind <;> decide

theorem fileName_ne_nil (kind : ArtifactKind) : kind.fileName.toList ≠ [] := by
  cases kind <;> decide

theorem slash_not_mem_fileName (kind : ArtifactKind) : '/' ∉ kind.fileName.toList := by
  cases kind <;> decide

theorem plain_fileName (kind : ArtifactKind) :
    ∀ character ∈ kind.fileName.toList, decide (character = '/') = false :=
  fun _ isCharacter => decide_eq_false (fun isSlash =>
    slash_not_mem_fileName kind (isSlash ▸ isCharacter))

theorem names_pathIn_fileName (output : String) (kind : ArtifactKind) :
    (Steps.ofPath (pathIn output kind.fileName)).names =
      (Steps.ofPath output).names ++ [kind.fileName] :=
  Steps.names_pathIn output (fileName_ne_nil kind) (plain_fileName kind)

theorem wantsDirectory_pathIn_fileName (output : String) (kind : ArtifactKind) :
    (Steps.ofPath (pathIn output kind.fileName)).wantsDirectory = false :=
  Steps.wantsDirectory_pathIn output (fileName_ne_nil kind) (plain_fileName kind)

theorem fileName_injective : Function.Injective ArtifactKind.fileName := by
  intro first second same
  cases first <;> cases second <;> first | rfl | exact absurd same (by decide)

theorem place_injective (output : String) : Function.Injective (place output) := by
  intro first second same
  exact fileName_injective (List.singleton_inj.1 (List.append_cancel_left same))

/-- The path of a file, if it can be located in a tree, leads to the place of the file. -/
theorem eq_place_of_locatePath {workspace : Workspace} {output : String} {kind : ArtifactKind}
    {location : Location}
    (located : workspace.locatePath (pathIn output kind.fileName) = .ok location) :
    location = place output kind := by
  have isDestination := Workspace.locate_eq_ok (Workspace.locatePath_eq_ok located).2
  rw [names_pathIn_fileName, destination, List.foldl_concat,
    Workspace.stepTo_of_isName (isName_fileName kind)] at isDestination
  exact isDestination

/-- The directory of a file whose path can be located can be walked to. -/
theorem walk_of_locatePath {workspace : Workspace} {output : String} {kind : ArtifactKind}
    {location : Location}
    (located : workspace.locatePath (pathIn output kind.fileName) = .ok location) :
    ∃ directory, workspace.walk [] (Steps.ofPath output).names = .ok directory := by
  have inDirectory := (Workspace.locatePath_eq_ok located).2
  rw [names_pathIn_fileName] at inDirectory
  exact Workspace.walk_of_locate_concat inDirectory

end Client

end TypedClient
