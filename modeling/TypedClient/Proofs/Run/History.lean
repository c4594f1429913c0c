import Mathlib.Data.List.Infix
import TypedClient.Proofs.Run.Steps
import TypedClient.Proofs.Workspace.Edits

/-!
Contract: what runs do to the files of their user, whatever happens in between.

Owns:
- `Event` and `treeAfter`, a history of runs into one directory and of edits, and which places are
  spared when a file is saved or removed;
- `Run.RespectsFiles`, what a run does to a tree and what it leaves alone;
- that every run of every history respects the files that it finds, and that a file stays as it is
  until an edit changes it.

Does not own: what is written into the files.
-/

namespace TypedClient

open Client (Artifact ArtifactKind Writes Stands pathIn place reported)
open Workspace (SameOrNew OnWay)

namespace Run

variable {run : Run} {output : String} {tree : Workspace}

/-- At a place a run changed nothing, unless it created a directory on the way to its files. -/
def LeavesAlone (run : Run) (output : String) (tree : Workspace) (location : Location) : Prop :=
  SameOrNew (OnWay (Steps.ofPath output).names) tree (run.perform output tree).2 location

/-- All files of a run were written: those that are generated anew hold its text, the one that sets
the client up is there, and each is reported, that one as created exactly if nothing stood there
when the directory had been created. -/
structure Finished (run : Run) (output : String) (tree : Workspace) (report : Report)
    (documents : List LoadedDocument) : Prop where
  loaded : run.load tree = .ok documents
  holds : ∀ kind : ArtifactKind, kind.isRegenerated = true →
    (run.perform output tree).2.read (pathIn output kind.fileName) =
      .ok (run.rendering documents kind)
  stands : (run.perform output tree).2.exists? (pathIn output ArtifactKind.bootstrap.fileName) = true
  reports : report.files.map WrittenFile.kind = ArtifactKind.all
  created : ∀ file ∈ report.files, file.kind = .bootstrap →
    (file.outcome = .created ↔
      (tree.createDirectories output).2.entryAt? (place output .bootstrap) = none)

/-- A file of a run could not be written: those before it hold the text of the run, and nothing else
was replaced. -/
structure Unwritten (run : Run) (output : String) (tree : Workspace) (kind : ArtifactKind)
    (documents : List LoadedDocument) (done : List ArtifactKind) : Prop where
  loaded : run.load tree = .ok documents
  before : ∃ later, ArtifactKind.all = done ++ kind :: later
  holds : ∀ earlier ∈ done, earlier.isRegenerated = true →
    (run.perform output tree).2.read (pathIn output earlier.fileName) =
      .ok (run.rendering documents earlier)
  elsewhere : ∀ location, (∀ earlier ∈ done, location ≠ place output earlier) →
    run.LeavesAlone output tree location

/-- What a run does to a tree, and what it leaves alone. -/
structure RespectsFiles (run : Run) (output : String) (tree : Workspace) : Prop where
  /-- If its documents do not load, nothing changes. -/
  unloaded : ∀ failure, run.load tree = .error failure →
    run.perform output tree = (.error failure, tree)
  /-- A run that fails fails to load, or to create the directory, or to write a file. -/
  failed : ∀ failure, (run.perform output tree).1 = .error failure →
    run.load tree = .error failure ∨
    ((∃ cause, failure = .createDirectory output cause) ∧
      ∀ location, run.LeavesAlone output tree location) ∨
    ∃ kind cause documents done, failure = .write (pathIn output kind.fileName) cause ∧
      run.Unwritten output tree kind documents done
  /-- A run that does not fail writes all its files. -/
  finished : ∀ report, (run.perform output tree).1 = .ok report →
    ∃ documents, run.Finished output tree report documents
  /-- What stands in place of the file that sets the client up stays there. -/
  kept : ∀ entry, tree.entryAt? (place output .bootstrap) = some entry →
    (run.perform output tree).2.entryAt? (place output .bootstrap) = some entry
  /-- Nothing changes but the four files and the directories on the way to them. -/
  elsewhere : ∀ location, (∀ kind, location ≠ place output kind) →
    run.LeavesAlone output tree location
  /-- To repeat a run that did not fail changes nothing. -/
  repeated : ∀ report, (run.perform output tree).1 = .ok report →
    (run.perform output (run.perform output tree).2).2 = (run.perform output tree).2

/-- What stands anywhere else than at the place of a file that is generated anew stays there. -/
theorem entryAt?_perform (run : Run) {location : Location} {entry : Entry}
    (elsewhere : ∀ kind : ArtifactKind, kind.isRegenerated = true → location ≠ place output kind)
    (stands : tree.entryAt? location = some entry) :
    (run.perform output tree).2.entryAt? location = some entry := by
  have kept := (Workspace.sameOrNew_createDirectories tree output location).kept stands
  generalize isEnd : run.perform output tree = ended
  have ends := isEnd ▸ run.ends_perform output tree
  cases ends with
  | unloaded => exact stands
  | uncreated _ failed => rwa [failed] at kept
  | unwritten _ created _ writes =>
      rw [created] at kept
      exact writes.kept elsewhere kept
  | finished _ created writes =>
      rw [created] at kept
      exact writes.kept elsewhere kept

section Ends

variable {documents : List LoadedDocument} {prepared after : Workspace} {files : List WrittenFile}
  {result : Except Failure Report} {made : Except DiskFault Unit} {artifacts : List Artifact}

/-- A run that has tried to create its directory and then writes files leaves all other places
alone. -/
theorem leavesAlone_of_writes (ended : run.perform output tree = (result, after))
    (created : tree.createDirectories output = (made, prepared))
    (writes : Writes output prepared artifacts files after) {location : Location}
    (elsewhere : ∀ artifact ∈ artifacts, location ≠ place output artifact.kind) :
    run.LeavesAlone output tree location := by
  have first := Workspace.sameOrNew_createDirectories tree output location
  rw [created] at first
  rw [LeavesAlone, ended]
  exact first.trans (Or.inl (writes.entryAt?_eq elsewhere))

/-- The text of a file that was written is read at its path. -/
theorem read_of_writes (writes : Writes output prepared artifacts files after)
    (different : (artifacts.map Artifact.kind).Nodup) {artifact : Artifact}
    (isArtifact : artifact ∈ artifacts) (regenerated : artifact.kind.isRegenerated = true) :
    after.read (pathIn output artifact.kind.fileName) = .ok artifact.contents :=
  (writes.stands different artifact isArtifact).read regenerated

theorem finished_of_writes
    (ended : run.perform output tree = (.ok (run.report documents files), after))
    (loaded : run.load tree = .ok documents)
    (created : tree.createDirectories output = (.ok (), prepared))
    (writes : Writes output prepared (run.artifacts documents) files after) :
    run.Finished output tree (run.report documents files) documents := by
  have different := run.nodup_kinds documents
  have isArtifact : ∀ kind, ⟨kind, run.rendering documents kind⟩ ∈ run.artifacts documents :=
    fun kind => List.mem_map.2 ⟨kind, by cases kind <;> decide, rfl⟩
  have isFiles : files = ArtifactKind.all.map (reported output prepared) := by
    rw [writes.files_eq different, map_kind_artifacts]
  refine ⟨loaded, ?_, ?_, ?_, ?_⟩
  · intro kind regenerated
    rw [ended]
    have isText := read_of_writes writes different (isArtifact kind) regenerated
    exact isText
  · rw [ended]
    have stands := writes.stands different _ (isArtifact .bootstrap)
    have leads : after.locatePath (pathIn output ArtifactKind.bootstrap.fileName) =
      .ok (place output .bootstrap) := stands.leads
    rw [Workspace.exists?_eq (Client.wantsDirectory_pathIn_fileName output .bootstrap) leads]
    exact stands.present
  · change files.map WrittenFile.kind = _
    rw [isFiles]
    rfl
  · intro file isFile isBootstrap
    change file ∈ files at isFile
    rw [isFiles] at isFile
    obtain ⟨kind, -, rfl⟩ := List.mem_map.1 isFile
    change kind = .bootstrap at isBootstrap
    subst isBootstrap
    rw [created, reported]
    by_cases nothing : prepared.entryAt? (place output .bootstrap) = none
    · simp [nothing, ArtifactKind.isRegenerated]
    · simp [nothing, ArtifactKind.isRegenerated]

theorem unwritten_of_writes {done later : List Artifact} {artifact : Artifact}
    (ended : run.perform output tree = (result, after))
    (loaded : run.load tree = .ok documents)
    (created : tree.createDirectories output = (.ok (), prepared))
    (inOrder : run.artifacts documents = done ++ artifact :: later)
    (writes : Writes output prepared done files after) :
    run.Unwritten output tree artifact.kind documents (done.map Artifact.kind) := by
  have isAll := run.map_kind_artifacts documents
  have different := run.nodup_kinds documents
  rw [inOrder, List.map_append] at different isAll
  refine ⟨loaded, ⟨later.map Artifact.kind, isAll.symm⟩, ?_, ?_⟩
  · intro earlier isEarlier regenerated
    obtain ⟨written, isWritten, rfl⟩ := List.mem_map.1 isEarlier
    have isArtifact : written ∈ run.artifacts documents :=
      inOrder ▸ List.mem_append_left _ isWritten
    obtain ⟨kind, -, rfl⟩ := List.mem_map.1 isArtifact
    rw [ended]
    exact read_of_writes writes (List.nodup_append.1 different).1 isWritten regenerated
  · intro location elsewhere
    exact leavesAlone_of_writes ended created writes
      (fun written isWritten => elsewhere _ (List.mem_map_of_mem isWritten))

end Ends

/-- Every run respects the files that it finds. -/
theorem respectsFiles (run : Run) (output : String) (tree : Workspace) :
    run.RespectsFiles output tree where
  unloaded failure failed := by
    rw [perform_eq, failed]
  failed failure isFailure := by
    rcases ended : run.perform output tree with ⟨result, after⟩
    have ends := run.ends_perform output tree
    rw [ended] at ends isFailure
    cases isFailure
    cases ends with
    | unloaded failed => exact Or.inl failed
    | uncreated _ failed =>
        exact Or.inr (Or.inl ⟨⟨_, rfl⟩, fun location =>
          leavesAlone_of_writes ended failed (.nil _) (by simp)⟩)
    | unwritten loaded created inOrder writes =>
        exact Or.inr (Or.inr ⟨_, _, _, _, rfl,
          unwritten_of_writes ended loaded created inOrder writes⟩)
  finished report isReport := by
    rcases ended : run.perform output tree with ⟨result, after⟩
    have ends := run.ends_perform output tree
    rw [ended] at ends isReport
    cases isReport
    cases ends with
    | finished loaded created writes =>
        exact ⟨_, finished_of_writes ended loaded created writes⟩
  kept entry stands := by
    refine run.entryAt?_perform (fun kind regenerated isPlace => ?_) stands
    rw [← Client.place_injective output isPlace] at regenerated
    cases regenerated
  elsewhere location elsewhere := by
    rcases ended : run.perform output tree with ⟨result, after⟩
    have ends := run.ends_perform output tree
    rw [ended] at ends
    cases ends with
    | unloaded =>
        rw [LeavesAlone, ended]
        exact SameOrNew.refl tree location
    | uncreated _ failed => exact leavesAlone_of_writes ended failed (.nil _) (by simp)
    | unwritten _ created _ writes =>
        exact leavesAlone_of_writes ended created writes (fun artifact _ => elsewhere artifact.kind)
    | finished _ created writes =>
        exact leavesAlone_of_writes ended created writes (fun artifact _ => elsewhere artifact.kind)
  repeated report isReport := by
    rcases ended : run.perform output tree with ⟨result, after⟩
    have ends := run.ends_perform output tree
    rw [ended] at ends isReport
    cases isReport
    cases ends with
    | finished loaded created writes => exact perform_again loaded created writes

end Run

/-! ## Histories -/

/-- What happens to a tree: an edit, whatever it does, or a run. -/
inductive Event where
  | edit (change : Workspace → Workspace)
  | run (run : Run)

namespace Event

/-- The tree after an event. -/
def apply (output : String) (tree : Workspace) : Event → Workspace
  | .edit change => change tree
  | .run given => (given.perform output tree).2

/-- An event is no edit of a place. -/
def Spares (location : Location) : Event → Prop
  | .edit change => ∀ tree : Workspace, (change tree).entryAt? location = tree.entryAt? location
  | .run _ => True

/-- A file is saved at a path. -/
def saved (path : String) (entry : Entry) : Event :=
  .edit (fun tree => (tree.putBelow path entry).2)

/-- What a path leads to is removed. -/
def removed (path : String) : Event := .edit (fun tree => (tree.remove path).2)

variable {path : String} {location : Location}

theorem spares_saved (entry : Entry)
    (elsewhere : ¬ OnWay (Steps.ofPath path).names location) :
    (saved path entry).Spares location :=
  fun tree => tree.entryAt?_putBelow_of_not_onWay entry elsewhere

theorem spares_removed
    (elsewhere : ¬ Workspace.destination (Steps.ofPath path).names <+: location) :
    (removed path).Spares location :=
  fun tree => tree.entryAt?_remove_of_not_prefix elsewhere

end Event

/-- The tree after a history of runs into one directory and of edits. -/
def treeAfter (output : String) (start : Workspace) (events : List Event) : Workspace :=
  events.foldl (Event.apply output) start

variable {output : String}

/-- One event leaves a file as it is that it does not edit and no run generates anew. -/
theorem Event.entryAt?_apply {event : Event} {tree : Workspace} {location : Location}
    {entry : Entry}
    (elsewhere : ∀ kind : ArtifactKind, kind.isRegenerated = true → location ≠ place output kind)
    (spares : event.Spares location) (stands : tree.entryAt? location = some entry) :
    (event.apply output tree).entryAt? location = some entry := by
  cases event with
  | edit change => exact (spares tree).trans stands
  | run given => exact given.entryAt?_perform elsewhere stands

/-- A file that no run generates anew stays as it is until an edit changes it. -/
theorem entryAt?_treeAfter {events : List Event} {start : Workspace} {location : Location}
    {entry : Entry}
    (elsewhere : ∀ kind : ArtifactKind, kind.isRegenerated = true → location ≠ place output kind)
    (spare : ∀ event ∈ events, event.Spares location)
    (stands : start.entryAt? location = some entry) :
    (treeAfter output start events).entryAt? location = some entry := by
  induction events generalizing start with
  | nil => exact stands
  | cons event events inductionHypothesis =>
      rw [List.forall_mem_cons] at spare
      exact inductionHypothesis spare.2 (event.entryAt?_apply elsewhere spare.1 stands)

/-- In every history of runs into one directory and of edits, every run respects the files that it
finds, and what no run generates anew stays as it is until an edit changes it. -/
theorem history_respects_files (output : String) (start : Workspace) (events : List Event) :
    (∀ earlier run later, events = earlier ++ .run run :: later →
      run.RespectsFiles output (treeAfter output start earlier)) ∧
    ∀ earlier between later, events = earlier ++ between ++ later → ∀ location entry,
      (∀ kind : ArtifactKind, kind.isRegenerated = true → location ≠ place output kind) →
      (∀ event ∈ between, event.Spares location) →
      (treeAfter output start earlier).entryAt? location = some entry →
        (treeAfter output start (earlier ++ between)).entryAt? location = some entry := by
  refine ⟨fun earlier run _ _ => run.respectsFiles output _, ?_⟩
  intro earlier between _ _ location entry elsewhere spare stands
  rw [treeAfter, List.foldl_append]
  exact entryAt?_treeAfter elsewhere spare stands

/-- A directory with a file that its user has written. -/
def usersTree : Workspace :=
  ⟨[(["api.json"], .text "\x7b\x7d"), (["out"], .directory),
    (["out", "queries-base.ts"], .text "// mine")]⟩

/-- A run from a file, which succeeds there. -/
def runFromFile : Run := { file := some "api.json", fetch := fun _ => .error .noAddress }

/-- Two successful runs, between which one generated file is edited and another one removed, leave
the file of the user as it is. -/
theorem users_file_outlives_runs :
    (runFromFile.perform "out" usersTree).1.isOk = true ∧
    (treeAfter "out" usersTree [.run runFromFile, .saved "out/types.ts" (.text "scribbled"),
      .removed "out/hooks.ts", .run runFromFile]).entryAt? ["out", "queries-base.ts"] =
        some (.text "// mine") := by
  refine ⟨by decide +kernel,
    (history_respects_files "out" usersTree _).2 [] _ [] (List.append_nil _).symm _ _ ?_ ?_ rfl⟩
  · intro kind regenerated
    cases kind with
    | types | requests | hooks => decide +kernel
    | bootstrap => cases regenerated
  · have ofSaved : (Event.saved "out/types.ts" (.text "scribbled")).Spares
        ["out", "queries-base.ts"] := by
      refine Event.spares_saved _ ?_
      rintro ⟨start, isStart, isLocation⟩
      rw [← List.mem_inits] at isStart
      revert start
      decide +kernel
    have ofRemoved : (Event.removed "out/hooks.ts").Spares ["out", "queries-base.ts"] :=
      Event.spares_removed (by decide +kernel)
    simpa using ⟨trivial, ofSaved, ofRemoved, trivial⟩

end TypedClient
