import TypedClient.Proofs.Workspace.Creation
import TypedClient.Proofs.Workspace.Files

/-!
Contract: what writing the files of a client does to a tree.

Owns:
- `outcome`, what a step of a run yields and leaves behind in a tree;
- `Client.WritesOne` and `Client.Writes`, writing one file and writing several;
- that a run writes its files in order, up to the first that cannot be written;
- what stands in the tree afterwards, and that writing the same files again changes nothing.

Does not own: where the documents of a run come from.
-/

namespace TypedClient

section Outcome

variable {α β : Type} {tree : Workspace}

/-- What a step of a run yields in a tree, and the tree that it leaves behind. -/
def outcome (step : ExceptT Failure (StateM Workspace) α) (tree : Workspace) :
    Except Failure α × Workspace :=
  StateT.run (ExceptT.run step) tree

/-- Reading and changing the tree never fails as such. -/
theorem outcome_lift (action : StateM Workspace α) :
    outcome (liftM action : ExceptT Failure (StateM Workspace) α) tree =
      (.ok (StateT.run action tree).1, (StateT.run action tree).2) :=
  rfl

/-- A later step goes on in the tree that the earlier one left behind, if that did not fail. -/
theorem outcome_bind (step : ExceptT Failure (StateM Workspace) α)
    (next : α → ExceptT Failure (StateM Workspace) β) :
    outcome (step >>= next) tree =
      match outcome step tree with
      | (.ok value, after) => outcome (next value) after
      | (.error failure, after) => (.error failure, after) := by
  change (match StateT.run (ExceptT.run step) tree with
    | (result, after) => StateT.run (ExceptT.bindCont next result) after) = _
  rw [outcome]
  rcases StateT.run (ExceptT.run step) tree with ⟨_ | _, after⟩ <;> rfl

end Outcome

namespace Client

variable {output : String} {fetch : Url → Except FetchFault String} {tree middle after : Workspace}
  {artifact : Artifact} {artifacts : List Artifact} {file : WrittenFile} {files : List WrittenFile}

/-! ## One file -/

/-- Writing one file succeeds: it is written anew, or written where nothing stands, or left alone. -/
inductive WritesOne (output : String) :
    Workspace → Artifact → WrittenFile → Workspace → Prop
  | replaced {tree : Workspace} {artifact : Artifact}
      (regenerated : artifact.kind.isRegenerated = true)
      (leads : tree.locatePath (pathIn output artifact.kind.fileName) =
        .ok (place output artifact.kind))
      (free : tree.entryAt? (place output artifact.kind) ≠ some .directory) :
      WritesOne output tree artifact
        ⟨pathIn output artifact.kind.fileName, artifact.kind, .written⟩
        (tree.withEntry (place output artifact.kind) (.text artifact.contents))
  | created {tree : Workspace} {artifact : Artifact}
      (kept : artifact.kind.isRegenerated = false)
      (leads : tree.locatePath (pathIn output artifact.kind.fileName) =
        .ok (place output artifact.kind))
      (nothing : tree.entryAt? (place output artifact.kind) = none) :
      WritesOne output tree artifact
        ⟨pathIn output artifact.kind.fileName, artifact.kind, .created⟩
        (tree.withEntry (place output artifact.kind) (.text artifact.contents))
  | skipped {tree : Workspace} {artifact : Artifact}
      (kept : artifact.kind.isRegenerated = false)
      (leads : tree.locatePath (pathIn output artifact.kind.fileName) =
        .ok (place output artifact.kind))
      (stands : (tree.entryAt? (place output artifact.kind)).isSome = true) :
      WritesOne output tree artifact
        ⟨pathIn output artifact.kind.fileName, artifact.kind, .skipped⟩ tree

/-- What writing one file comes to. -/
theorem outcome_writeFile (output : String) (fetch : Url → Except FetchFault String)
    (artifact : Artifact) (tree : Workspace) :
    outcome (writeFile (Workspace.surroundings fetch) output artifact) tree =
      if artifact.kind.isRegenerated = false ∧
          tree.exists? (pathIn output artifact.kind.fileName) = true then
        (.ok ⟨pathIn output artifact.kind.fileName, artifact.kind, .skipped⟩, tree)
      else
        let wrote :=
          Workspace.writeOrKeep (pathIn output artifact.kind.fileName) artifact.contents tree
        ((wrote.1.map (fun _ => ⟨pathIn output artifact.kind.fileName, artifact.kind,
            if artifact.kind.isRegenerated then .written else .created⟩)).mapError
          (.write (pathIn output artifact.kind.fileName)), wrote.2) := by
  have ran : StateT.run ((Workspace.surroundings fetch).write
      (pathIn output artifact.kind.fileName) artifact.contents) tree =
    Workspace.writeOrKeep (pathIn output artifact.kind.fileName) artifact.contents tree := rfl
  rw [writeFile]
  cases regenerated : artifact.kind.isRegenerated with
  | true =>
      simp only [reduceCtorEq, false_and, if_false, if_true]
      rw [outcome_bind, outcome_lift, ran]
      rcases Workspace.writeOrKeep _ artifact.contents tree with ⟨_ | _, after⟩ <;> rfl
  | false =>
      simp only [Bool.false_eq_true, if_false, true_and]
      rw [outcome_bind, outcome_lift]
      change outcome (if tree.exists? (pathIn output artifact.kind.fileName) then _ else _) tree = _
      split
      · rfl
      · rw [outcome_bind, outcome_lift, ran]
        rcases Workspace.writeOrKeep _ artifact.contents tree with ⟨_ | _, after⟩ <;> rfl

/-- Writing one file succeeds, or it fails and changes nothing. -/
theorem writesOne_or_failure (output : String) (fetch : Url → Except FetchFault String)
    (artifact : Artifact) (tree : Workspace) :
    (∃ file after, outcome (writeFile (Workspace.surroundings fetch) output artifact) tree =
        (.ok file, after) ∧ WritesOne output tree artifact file after) ∨
    ∃ cause, outcome (writeFile (Workspace.surroundings fetch) output artifact) tree =
        (.error (.write (pathIn output artifact.kind.fileName) cause), tree) := by
  have noSlash := wantsDirectory_pathIn_fileName output artifact.kind
  rw [outcome_writeFile]
  split
  · rename_i skips
    obtain ⟨kept, found⟩ := skips
    obtain ⟨location, leads⟩ := Workspace.exists_locatePath_of_exists? found
    have isPlace := eq_place_of_locatePath leads
    subst isPlace
    rw [Workspace.exists?_eq noSlash leads] at found
    exact Or.inl ⟨_, _, rfl, .skipped kept leads found⟩
  · rename_i writes
    rw [Workspace.writeOrKeep]
    cases written : tree.write (pathIn output artifact.kind.fileName) artifact.contents with
    | error cause => exact Or.inr ⟨cause, rfl⟩
    | ok after =>
        obtain ⟨location, leads, free, rfl⟩ := (Workspace.write_eq_ok_iff noSlash).1 written
        have isPlace := eq_place_of_locatePath leads
        subst isPlace
        refine Or.inl ⟨_, _, rfl, ?_⟩
        cases regenerated : artifact.kind.isRegenerated with
        | true => exact .replaced regenerated leads free
        | false =>
            refine .created regenerated leads ?_
            rw [Workspace.exists?_eq noSlash leads] at writes
            simpa [regenerated] using writes

theorem WritesOne.leads (writes : WritesOne output tree artifact file after) :
    tree.locatePath (pathIn output artifact.kind.fileName) =
      .ok (place output artifact.kind) := by
  cases writes <;> assumption

theorem WritesOne.keepsDirectories (writes : WritesOne output tree artifact file after) :
    tree.KeepsDirectories after := by
  cases writes with
  | replaced _ _ free => exact Workspace.keepsDirectories_withEntry free
  | created _ _ nothing =>
      refine Workspace.keepsDirectories_withEntry (fun isDirectory => ?_)
      rw [nothing] at isDirectory
      cases isDirectory
  | skipped => exact Workspace.KeepsDirectories.refl _

/-- Writing one file changes nothing but its place. -/
theorem WritesOne.entryAt?_eq (writes : WritesOne output tree artifact file after)
    {location : Location} (elsewhere : location ≠ place output artifact.kind) :
    after.entryAt? location = tree.entryAt? location := by
  cases writes with
  | replaced => exact Workspace.entryAt?_withEntry_of_ne _ _ elsewhere
  | created => exact Workspace.entryAt?_withEntry_of_ne _ _ elsewhere
  | skipped => rfl

theorem place_ne_nil (output : String) (kind : ArtifactKind) : place output kind ≠ [] := by
  simp [place]

/-! ## What stands in a tree -/

/-- A file stands in a tree: its path leads to its place, where its text stands if it is written anew
in every run, and anything at all otherwise. -/
structure Stands (output : String) (tree : Workspace) (artifact : Artifact) : Prop where
  leads : tree.locatePath (pathIn output artifact.kind.fileName) =
    .ok (place output artifact.kind)
  settled : artifact.kind.isRegenerated = true →
    tree.Settled (place output artifact.kind) (.text artifact.contents)
  present : (tree.entryAt? (place output artifact.kind)).isSome = true

/-- A file that was written or left alone stands there. -/
theorem WritesOne.stands (writes : WritesOne output tree artifact file after) :
    Stands output after artifact := by
  refine ⟨writes.keepsDirectories.locatePath writes.leads, ?_, ?_⟩
  · intro regenerated
    cases writes with
    | replaced => exact Workspace.settled_withEntry _ _ _
    | created kept =>
        rw [kept] at regenerated
        cases regenerated
    | skipped kept =>
        rw [kept] at regenerated
        cases regenerated
  · cases writes with
    | replaced =>
        rw [Workspace.entryAt?_withEntry_self _ _ (place_ne_nil _ _)]
        rfl
    | created =>
        rw [Workspace.entryAt?_withEntry_self _ _ (place_ne_nil _ _)]
        rfl
    | skipped _ _ stands => exact stands

/-- A file goes on standing when another one is written. -/
theorem Stands.writesOne {other : Artifact} (stands : Stands output tree artifact)
    (writes : WritesOne output tree other file after) (different : artifact.kind ≠ other.kind) :
    Stands output after artifact := by
  have elsewhere : place output artifact.kind ≠ place output other.kind :=
    fun same => different (place_injective output same)
  refine ⟨writes.keepsDirectories.locatePath stands.leads, ?_, ?_⟩
  · intro regenerated
    have settled := stands.settled regenerated
    cases writes with
    | replaced => exact settled.withEntry elsewhere
    | created => exact settled.withEntry elsewhere
    | skipped => exact settled
  · rw [writes.entryAt?_eq elsewhere]
    exact stands.present

/-- What stands is read at its path. -/
theorem Stands.read (stands : Stands output tree artifact)
    (regenerated : artifact.kind.isRegenerated = true) :
    tree.read (pathIn output artifact.kind.fileName) = .ok artifact.contents :=
  Workspace.read_eq_ok_iff.2 ⟨_, stands.leads,
    (stands.settled regenerated).entryAt?_eq (place_ne_nil _ _),
    wantsDirectory_pathIn_fileName output artifact.kind⟩

/-- To write what stands there changes nothing. -/
theorem Stands.outcome_writeFile (stands : Stands output tree artifact)
    (fetch : Url → Except FetchFault String) :
    ∃ file, outcome (writeFile (Workspace.surroundings fetch) output artifact) tree =
      (.ok file, tree) := by
  have noSlash := wantsDirectory_pathIn_fileName output artifact.kind
  rw [Client.outcome_writeFile]
  cases regenerated : artifact.kind.isRegenerated with
  | false =>
      rw [Workspace.exists?_eq noSlash stands.leads, stands.present]
      exact ⟨_, rfl⟩
  | true =>
      have settled := stands.settled regenerated
      have isText := settled.entryAt?_eq (place_ne_nil _ _)
      have written : tree.write (pathIn output artifact.kind.fileName) artifact.contents =
          .ok tree := by
        refine (Workspace.write_eq_ok_iff noSlash).2 ⟨_, stands.leads, ?_, settled.withEntry_eq.symm⟩
        rw [isText]
        simp
      rw [Workspace.writeOrKeep, written]
      exact ⟨_, rfl⟩

/-! ## Several files -/

/-- Writing several files, one after the other, succeeds. -/
inductive Writes (output : String) :
    Workspace → List Artifact → List WrittenFile → Workspace → Prop
  | nil (tree : Workspace) : Writes output tree [] [] tree
  | cons {tree middle after : Workspace} {artifact : Artifact} {file : WrittenFile}
      {artifacts : List Artifact} {files : List WrittenFile}
      (first : WritesOne output tree artifact file middle)
      (rest : Writes output middle artifacts files after) :
      Writes output tree (artifact :: artifacts) (file :: files) after

/-- The files are written in order, all of them or up to the first that cannot be written. -/
theorem writes_or_failure (output : String) (fetch : Url → Except FetchFault String)
    (artifacts : List Artifact) (tree : Workspace) :
    (∃ files after,
      outcome (artifacts.mapM (writeFile (Workspace.surroundings fetch) output)) tree =
        (.ok files, after) ∧ Writes output tree artifacts files after) ∨
    ∃ done artifact later files after cause, artifacts = done ++ artifact :: later ∧
      Writes output tree done files after ∧
      outcome (artifacts.mapM (writeFile (Workspace.surroundings fetch) output)) tree =
        (.error (.write (pathIn output artifact.kind.fileName) cause), after) := by
  induction artifacts generalizing tree with
  | nil => exact Or.inl ⟨[], tree, rfl, .nil tree⟩
  | cons artifact rest inductionHypothesis =>
      rw [List.mapM_cons, outcome_bind]
      rcases writesOne_or_failure output fetch artifact tree with
        ⟨file, middle, isOutcome, writes⟩ | ⟨cause, isOutcome⟩
      · simp only [isOutcome]
        rw [outcome_bind]
        rcases inductionHypothesis middle with
          ⟨files, after, ofRest, writesRest⟩ |
            ⟨done, failing, later, files, after, cause, rfl, writesDone, ofRest⟩
        · simp only [ofRest]
          exact Or.inl ⟨_, _, rfl, .cons writes writesRest⟩
        · simp only [ofRest]
          exact Or.inr ⟨artifact :: done, failing, later, _, _, cause, rfl,
            .cons writes writesDone, rfl⟩
      · simp only [isOutcome]
        exact Or.inr ⟨[], artifact, rest, [], tree, cause, rfl, .nil tree, rfl⟩

theorem Writes.keepsDirectories (writes : Writes output tree artifacts files after) :
    tree.KeepsDirectories after := by
  induction writes with
  | nil tree => exact Workspace.KeepsDirectories.refl tree
  | cons first _ inductionHypothesis => exact first.keepsDirectories.trans inductionHypothesis

/-- Writing files changes nothing but their places. -/
theorem Writes.entryAt?_eq (writes : Writes output tree artifacts files after)
    {location : Location}
    (elsewhere : ∀ artifact ∈ artifacts, location ≠ place output artifact.kind) :
    after.entryAt? location = tree.entryAt? location := by
  induction writes with
  | nil tree => rfl
  | cons first _ inductionHypothesis =>
      rw [List.forall_mem_cons] at elsewhere
      exact (inductionHypothesis elsewhere.2).trans (first.entryAt?_eq elsewhere.1)

/-- What stands anywhere else than at the place of a file that is written anew in every run stays
there. -/
theorem WritesOne.kept (writes : WritesOne output tree artifact file after) {location : Location}
    {entry : Entry}
    (elsewhere : ∀ kind : ArtifactKind, kind.isRegenerated = true → location ≠ place output kind)
    (stands : tree.entryAt? location = some entry) : after.entryAt? location = some entry := by
  cases writes with
  | replaced regenerated =>
      rwa [Workspace.entryAt?_withEntry_of_ne _ _ (elsewhere _ regenerated)]
  | created _ _ nothing =>
      have different : location ≠ place output artifact.kind := by
        rintro rfl
        rw [nothing] at stands
        cases stands
      rwa [Workspace.entryAt?_withEntry_of_ne _ _ different]
  | skipped => exact stands

theorem Writes.kept (writes : Writes output tree artifacts files after) {location : Location}
    {entry : Entry}
    (elsewhere : ∀ kind : ArtifactKind, kind.isRegenerated = true → location ≠ place output kind)
    (stands : tree.entryAt? location = some entry) : after.entryAt? location = some entry := by
  induction writes with
  | nil tree => exact stands
  | cons first _ inductionHypothesis => exact inductionHypothesis (first.kept elsewhere stands)

/-- A file goes on standing when others are written. -/
theorem Stands.writes (stands : Stands output tree artifact)
    (writes : Writes output tree artifacts files after)
    (different : artifact.kind ∉ artifacts.map Artifact.kind) : Stands output after artifact := by
  induction writes with
  | nil tree => exact stands
  | cons first _ inductionHypothesis =>
      rw [List.map_cons, List.mem_cons, not_or] at different
      exact inductionHypothesis (stands.writesOne first different.1) different.2

/-- All files of different kinds that were written stand there afterwards. -/
theorem Writes.stands (writes : Writes output tree artifacts files after)
    (different : (artifacts.map Artifact.kind).Nodup) :
    ∀ artifact ∈ artifacts, Stands output after artifact := by
  induction writes with
  | nil tree => simp
  | cons first rest inductionHypothesis =>
      rw [List.map_cons, List.nodup_cons] at different
      rw [List.forall_mem_cons]
      exact ⟨first.stands.writes rest different.1, inductionHypothesis different.2⟩

/-- What is reported about a file. -/
def reported (output : String) (tree : Workspace) (kind : ArtifactKind) : WrittenFile :=
  ⟨pathIn output kind.fileName, kind,
    if kind.isRegenerated then .written
    else if tree.entryAt? (place output kind) = none then .created
    else .skipped⟩

theorem WritesOne.file_eq (writes : WritesOne output tree artifact file after) :
    file = reported output tree artifact.kind := by
  cases writes with
  | replaced regenerated => simp [reported, regenerated]
  | created kept _ nothing => simp [reported, kept, nothing]
  | skipped kept _ stands =>
      have something : tree.entryAt? (place output artifact.kind) ≠ none :=
        Option.isSome_iff_ne_none.1 stands
      simp [reported, kept, something]

/-- A file that is not written anew in every run is reported as created exactly if nothing stood at
its place before. -/
theorem Writes.files_eq (writes : Writes output tree artifacts files after)
    (different : (artifacts.map Artifact.kind).Nodup) :
    files = (artifacts.map Artifact.kind).map (reported output tree) := by
  induction writes with
  | nil tree => rfl
  | @cons tree middle after artifact file artifacts files first _ inductionHypothesis =>
      rw [List.map_cons, List.nodup_cons] at different
      have sameReport : (artifacts.map Artifact.kind).map (reported output middle) =
          (artifacts.map Artifact.kind).map (reported output tree) := by
        apply List.map_congr_left
        intro later isLater
        have elsewhere : place output later ≠ place output artifact.kind := by
          intro same
          exact different.1 (place_injective output same ▸ isLater)
        rw [reported, reported, first.entryAt?_eq elsewhere]
      rw [List.map_cons, List.map_cons, inductionHypothesis different.2, sameReport, first.file_eq]

/-- To write again what stands there changes nothing. -/
theorem outcome_mapM_writeFile_of_stands (fetch : Url → Except FetchFault String)
    (stand : ∀ artifact ∈ artifacts, Stands output tree artifact) :
    ∃ files, outcome (artifacts.mapM (writeFile (Workspace.surroundings fetch) output)) tree =
      (.ok files, tree) := by
  induction artifacts with
  | nil => exact ⟨[], rfl⟩
  | cons artifact rest inductionHypothesis =>
      rw [List.forall_mem_cons] at stand
      obtain ⟨file, ofFirst⟩ := stand.1.outcome_writeFile fetch
      obtain ⟨files, ofRest⟩ := inductionHypothesis stand.2
      rw [List.mapM_cons, outcome_bind, ofFirst]
      simp only
      rw [outcome_bind, ofRest]
      exact ⟨_, rfl⟩

end Client

end TypedClient
