import TypedClient.Proofs.Client.NoDocument
import TypedClient.Proofs.Run.Loading
import TypedClient.Run.Generation

/-!
Contract: all that a run can do to a tree.

Owns:
- `Run`, what a run is given besides the tree, and what it yields in one;
- `Run.Ends`, the four ways in which a run ends;
- what a run leaves alone, and that it changes nothing when it is repeated.

Does not own: several runs.
-/

namespace TypedClient

open Client (Artifact ArtifactKind Writes WritesOne Stands pathIn place reported writeFile)
open Workspace (SameOrNew OnWay)

/-- What a run is given besides a tree and the directory for the files. -/
structure Run where
  client : Client.Settings := {}
  file : Option String := none
  addresses : Option String := none
  /-- What is sent for an address. -/
  fetch : Url → Except FetchFault String

namespace Run

variable {run : Run} {output : String} {tree : Workspace} {documents : List LoadedDocument}

/-- What a run yields in a tree, and the tree that it leaves behind. -/
def perform (run : Run) (output : String) (tree : Workspace) : Except Failure Report × Workspace :=
  outcome (generate (Workspace.surroundings run.fetch) ⟨output, run.client⟩ run.file run.addresses)
    tree

/-- The documents that a run finds in a tree. -/
def load (run : Run) (tree : Workspace) : Except Failure (List LoadedDocument) :=
  match Source.ofOptions? run.file run.addresses with
  | none => .error .noSource
  | some source => (outcome (source.load (Workspace.surroundings run.fetch)) tree).1

/-- What a run writes into a file of a kind. -/
def rendering (run : Run) (documents : List LoadedDocument) (kind : ArtifactKind) : String :=
  Client.contents run.client (Model.merge documents).1 kind

/-- The files of a run. -/
def artifacts (run : Run) (documents : List LoadedDocument) : List Artifact :=
  ArtifactKind.all.map (fun kind => ⟨kind, run.rendering documents kind⟩)

theorem map_kind_artifacts (run : Run) (documents : List LoadedDocument) :
    (run.artifacts documents).map Artifact.kind = ArtifactKind.all := by
  rw [artifacts, List.map_map]
  exact List.map_id _

theorem nodup_kinds (run : Run) (documents : List LoadedDocument) :
    ((run.artifacts documents).map Artifact.kind).Nodup := by
  rw [map_kind_artifacts]
  decide

/-- What a run says about itself when all its files are written. -/
def report (run : Run) (documents : List LoadedDocument) (files : List WrittenFile) : Report where
  documents := (Model.merge documents).1.documents
  endpointCount := (Model.merge documents).1.endpoints.length
  declarationCount := (Model.merge documents).1.declarations.length
  files := files
  warnings := Source.optionWarnings run.file run.addresses ++ (Model.merge documents).2

/-- How a run ends in a tree: its documents do not load, or the directory cannot be created, or one
of the files cannot be written, or all of them are written. -/
inductive Ends (run : Run) (output : String) (tree : Workspace) :
    Except Failure Report × Workspace → Prop
  | unloaded {failure : Failure} (failed : run.load tree = .error failure) :
      Ends run output tree (.error failure, tree)
  | uncreated {documents : List LoadedDocument} {cause : DiskFault} {prepared : Workspace}
      (loaded : run.load tree = .ok documents)
      (failed : tree.createDirectories output = (.error cause, prepared)) :
      Ends run output tree (.error (.createDirectory output cause), prepared)
  | unwritten {documents : List LoadedDocument} {prepared after : Workspace}
      {done later : List Artifact} {artifact : Artifact} {files : List WrittenFile}
      {cause : DiskFault} (loaded : run.load tree = .ok documents)
      (created : tree.createDirectories output = (.ok (), prepared))
      (inOrder : run.artifacts documents = done ++ artifact :: later)
      (writes : Writes output prepared done files after) :
      Ends run output tree (.error (.write (pathIn output artifact.kind.fileName) cause), after)
  | finished {documents : List LoadedDocument} {prepared after : Workspace}
      {files : List WrittenFile} (loaded : run.load tree = .ok documents)
      (created : tree.createDirectories output = (.ok (), prepared))
      (writes : Writes output prepared (run.artifacts documents) files after) :
      Ends run output tree (.ok (run.report documents files), after)

/-- What writing the files into a directory comes to. -/
theorem outcome_writeFiles (fetch : Url → Except FetchFault String) (artifacts : List Artifact) :
    outcome (Client.writeFiles (Workspace.surroundings fetch) output artifacts) tree =
      match tree.createDirectories output with
      | (.ok (), prepared) =>
          outcome (artifacts.mapM (writeFile (Workspace.surroundings fetch) output)) prepared
      | (.error cause, prepared) => (.error (.createDirectory output cause), prepared) := by
  have created : StateT.run ((Workspace.surroundings fetch).createDirectories output) tree =
      tree.createDirectories output := rfl
  rw [Client.writeFiles, outcome_bind, outcome_lift, created]
  rcases tree.createDirectories output with ⟨_ | _, prepared⟩ <;> rfl

/-- A run writes its files if its documents load. -/
theorem perform_eq (run : Run) (output : String) (tree : Workspace) :
    run.perform output tree =
      match run.load tree with
      | .error failure => (.error failure, tree)
      | .ok documents =>
          match outcome (Client.writeFiles (Workspace.surroundings run.fetch) output
              (run.artifacts documents)) tree with
          | (.ok files, after) => (.ok (run.report documents files), after)
          | (.error failure, after) => (.error failure, after) := by
  rw [perform, generate, load]
  cases Source.ofOptions? run.file run.addresses with
  | none => rfl
  | some source =>
      have sameText : ∀ path, source = .file path → tree.read path = tree.read path :=
        fun _ _ => rfl
      obtain ⟨result, loaded, -⟩ := Source.alike_load run.fetch sameText
      simp only [outcome_bind, generateFrom, loaded]
      cases result with
      | error failure => rfl
      | ok documents =>
          have sameFiles : Client.artifacts run.client (Model.merge documents).1 =
            run.artifacts documents := rfl
          simp only [writeClient, outcome_bind, sameFiles]
          rcases outcome (Client.writeFiles (Workspace.surroundings run.fetch) output
              (run.artifacts documents)) tree with ⟨_ | _, after⟩ <;> rfl

/-- A run ends in one of four ways. -/
theorem ends_perform (run : Run) (output : String) (tree : Workspace) :
    Ends run output tree (run.perform output tree) := by
  rw [perform_eq]
  cases loaded : run.load tree with
  | error failure => exact .unloaded loaded
  | ok documents =>
      simp only [outcome_writeFiles]
      rcases created : tree.createDirectories output with ⟨cause | ⟨⟩, prepared⟩
      · exact .uncreated loaded created
      · rcases Client.writes_or_failure output run.fetch (run.artifacts documents) prepared with
          ⟨files, after, isOutcome, writes⟩ |
            ⟨done, artifact, later, files, after, cause, inOrder, writes, isOutcome⟩
        · simp only [isOutcome]
          exact .finished loaded created writes
        · simp only [isOutcome]
          exact .unwritten loaded created inOrder writes

/-! ## Loading again -/

/-- The documents of a run from a file. -/
theorem load_file {path : String} (isFile : run.file = some path) :
    run.load tree =
      match tree.read path with
      | .error cause => .error (.readDocument path cause)
      | .ok text => (Document.ofOrigin path text).map (fun document => [⟨document, "", path⟩]) := by
  rw [load, isFile]
  have read : StateT.run ((Workspace.surroundings run.fetch).read path) tree =
      (tree.read path, tree) := rfl
  change (outcome (Source.load (Workspace.surroundings run.fetch) (.file path)) tree).1 = _
  rw [Source.load, outcome_bind, Source.loadFile, outcome_bind, outcome_lift, read]
  cases tree.read path with
  | error cause => rfl
  | ok text =>
      simp only [outcome_bind, outcome_liftExcept]
      cases Document.ofOrigin path text <;> rfl

/-- Without a file, the documents do not depend on the tree. -/
theorem load_eq_of_noFile (noFile : run.file = none) (tree other : Workspace) :
    run.load tree = run.load other := by
  rw [load, load]
  cases denoted : Source.ofOptions? run.file run.addresses with
  | none => rfl
  | some source =>
      have noPath : ∀ path, source = .file path → tree.read path = other.read path := by
        rintro path rfl
        rw [noFile] at denoted
        exact absurd denoted (Source.ofOptions?_none_ne path run.addresses)
      obtain ⟨result, inTree, inOther⟩ := Source.alike_load run.fetch noPath
      simp only [inTree, inOther]

/-- When the files of a run were written, it loads the same documents again, or none: the file it
reads is as it was, or is one of those that were written. -/
theorem load_again {prepared after : Workspace} {files : List WrittenFile}
    (loaded : run.load tree = .ok documents)
    (created : tree.createDirectories output = (.ok (), prepared))
    (writes : Writes output prepared (run.artifacts documents) files after) :
    run.load after = .ok documents ∨ ∃ failure, run.load after = .error failure := by
  cases isFile : run.file with
  | none => exact Or.inl (load_eq_of_noFile isFile after tree ▸ loaded)
  | some path =>
      rw [load_file isFile] at loaded ⊢
      cases isRead : tree.read path with
      | error cause =>
          rw [isRead] at loaded
          cases loaded
      | ok text =>
          rw [isRead] at loaded
          obtain ⟨location, leads, isText, noSlash⟩ := Workspace.read_eq_ok_iff.1 isRead
          have keeps : tree.KeepsDirectories after := by
            have first := Workspace.keepsDirectories_createDirectories tree output
            rw [created] at first
            exact first.trans writes.keepsDirectories
          have leadsAgain := keeps.locatePath leads
          by_cases overwritten :
              ∃ kind : ArtifactKind, kind.isRegenerated = true ∧ location = place output kind
          · obtain ⟨kind, regenerated, rfl⟩ := overwritten
            have stands := writes.stands (run.nodup_kinds documents) ⟨kind, run.rendering documents kind⟩
              (List.mem_map.2 ⟨kind, by cases kind <;> decide, rfl⟩)
            have isRendering : after.read path = .ok (run.rendering documents kind) :=
              Workspace.read_eq_ok_iff.2 ⟨_, leadsAgain,
                (stands.settled regenerated).entryAt?_eq (Client.place_ne_nil _ _), noSlash⟩
            obtain ⟨failure, fails⟩ :=
              Client.ofOrigin_contents run.client (Model.merge documents).1 regenerated path
            rw [isRendering]
            simp only [rendering, fails]
            exact Or.inr ⟨failure, rfl⟩
          · rw [not_exists] at overwritten
            have keptText : after.entryAt? location = some (.text text) := by
              refine writes.kept (fun kind regenerated isPlace =>
                overwritten kind ⟨regenerated, isPlace⟩) ?_
              have kept := (Workspace.sameOrNew_createDirectories tree output location).kept isText
              rwa [created] at kept
            have sameText : after.read path = .ok text :=
              Workspace.read_eq_ok_iff.2 ⟨location, leadsAgain, keptText, noSlash⟩
            rw [sameText]
            exact Or.inl loaded

/-- To repeat a run that has written all its files changes nothing. -/
theorem perform_again {prepared after : Workspace} {files : List WrittenFile}
    (loaded : run.load tree = .ok documents)
    (created : tree.createDirectories output = (.ok (), prepared))
    (writes : Writes output prepared (run.artifacts documents) files after) :
    (run.perform output after).2 = after := by
  rw [perform_eq]
  rcases load_again loaded created writes with loadedAgain | ⟨failure, fails⟩
  · have stand := writes.stands (run.nodup_kinds documents)
    have isFirst : ⟨.types, run.rendering documents .types⟩ ∈ run.artifacts documents :=
      List.mem_cons_self
    obtain ⟨directory, walked⟩ := Client.walk_of_locatePath (stand _ isFirst).leads
    have createdAgain := Workspace.createDirectories_of_walk
      (Workspace.noFault_of_createDirectories created) walked
    obtain ⟨filesAgain, written⟩ := Client.outcome_mapM_writeFile_of_stands run.fetch stand
    simp only [loadedAgain, outcome_writeFiles, createdAgain, written]
  · simp only [fails]

end Run

end TypedClient
