import TypedClient.Proofs.Workspace.Places

/-!
Contract: what writing a file changes in a tree, and when it changes nothing.

Owns:
- `Workspace.Settled`, that an entry stands at a place, and nothing else does;
- that writing what is settled changes nothing;
- reading, writing and finding a file by its path, in terms of the entry at its place.

Does not own: which files are written.
-/

namespace TypedClient.Workspace

variable {workspace after : Workspace} {location other : Location} {entry otherEntry : Entry}
  {path content : String}

/-! ## Settled entries -/

/-- An entry stands at a place, and nothing else does. -/
structure Settled (workspace : Workspace) (location : Location) (entry : Entry) : Prop where
  present : (location, entry) ∈ workspace.entries
  only : ∀ old ∈ workspace.entries, old.1 = location → old.2 = entry

theorem any_iff : workspace.entries.any (fun old => old.1 = location) = true ↔
    ∃ old ∈ workspace.entries, old.1 = location := by
  simp

theorem settled_withEntry (workspace : Workspace) (location : Location) (entry : Entry) :
    (workspace.withEntry location entry).Settled location entry := by
  rw [withEntry]
  split
  · rename_i present
    obtain ⟨old, isOld, isThere⟩ := any_iff.1 present
    refine ⟨List.mem_map.2 ⟨old, isOld, if_pos isThere⟩, ?_⟩
    intro new isNew isLocation
    obtain ⟨source, _, rfl⟩ := List.mem_map.1 isNew
    by_cases isThere : source.1 = location
    · rw [if_pos isThere]
    · rw [if_neg isThere] at isLocation
      exact absurd isLocation isThere
  · rename_i absent
    refine ⟨List.mem_append_right _ (List.mem_singleton_self _), ?_⟩
    intro old isOld isLocation
    rcases List.mem_append.1 isOld with earlier | isNew
    · exact absurd (any_iff.2 ⟨old, earlier, isLocation⟩) absent
    · rw [List.mem_singleton.1 isNew]

/-- What is settled at one place stays so when an entry is put at another place. -/
theorem Settled.withEntry (settled : workspace.Settled location entry) (different : location ≠ other) :
    (workspace.withEntry other otherEntry).Settled location entry := by
  rw [Workspace.withEntry]
  split
  · refine ⟨List.mem_map.2 ⟨_, settled.present, if_neg different⟩, ?_⟩
    intro old isOld isLocation
    obtain ⟨source, isSource, rfl⟩ := List.mem_map.1 isOld
    by_cases isOther : source.1 = other
    · rw [if_pos isOther] at isLocation
      exact absurd isLocation.symm different
    · rw [if_neg isOther] at isLocation ⊢
      exact settled.only source isSource isLocation
  · refine ⟨List.mem_append_left _ settled.present, ?_⟩
    intro old isOld isLocation
    rcases List.mem_append.1 isOld with earlier | isNew
    · exact settled.only old earlier isLocation
    · rw [List.mem_singleton.1 isNew] at isLocation
      exact absurd isLocation.symm different

/-- To put an entry where it is settled changes nothing. -/
theorem Settled.withEntry_eq (settled : workspace.Settled location entry) :
    workspace.withEntry location entry = workspace := by
  have same : workspace.entries.map (fun old =>
      if old.1 = location then (location, entry) else old) = workspace.entries.map id := by
    apply List.map_congr_left
    intro old isOld
    by_cases isThere : old.1 = location
    · rw [if_pos isThere, id_eq, ← isThere, ← settled.only old isOld isThere]
    · rw [if_neg isThere, id_eq]
  rw [Workspace.withEntry, if_pos (any_iff.2 ⟨_, settled.present, rfl⟩), same, List.map_id]

theorem Settled.entryAt?_eq (settled : workspace.Settled location entry) (below : location ≠ []) :
    workspace.entryAt? location = some entry := by
  have same := entryAt?_withEntry_self workspace entry below
  rwa [settled.withEntry_eq] at same

/-! ## Files -/

/-- Writing a file replaces the entry at its place, which is no directory. -/
theorem write_eq_ok_iff (noSlash : (Steps.ofPath path).wantsDirectory = false) :
    workspace.write path content = .ok after ↔
      ∃ location, workspace.locatePath path = .ok location ∧
        workspace.entryAt? location ≠ some .directory ∧
          after = workspace.withEntry location (.text content) := by
  rw [write, put]
  cases located : workspace.locatePath path with
  | error fault =>
      constructor
      · intro written
        cases written
      · rintro ⟨location, isLocation, _⟩
        cases isLocation
  | ok location =>
      change (if _ then _ else _) = _ ↔ _
      rw [noSlash]
      simp only [Bool.false_eq_true, false_or]
      by_cases isDirectory : workspace.entryAt? location = some .directory
      · rw [if_pos isDirectory]
        constructor
        · intro written
          cases written
        · rintro ⟨_, isLocation, free, _⟩
          rw [← Except.ok.inj isLocation] at free
          exact absurd isDirectory free
      · rw [if_neg isDirectory]
        constructor
        · intro written
          exact ⟨location, rfl, isDirectory, (Except.ok.inj written).symm⟩
        · rintro ⟨_, isLocation, _, rfl⟩
          rw [← Except.ok.inj isLocation]
          rfl

theorem entryOf_of_locatePath (located : workspace.locatePath path = .ok location) :
    workspace.entryOf path =
      match workspace.entryAt? location with
      | none => .error .missing
      | some entry =>
          if entry ≠ Entry.directory ∧ (Steps.ofPath path).wantsDirectory then .error .notDirectory
          else .ok entry := by
  rw [entryOf, located]
  rfl

/-- Something is found at the path of a file if an entry stands at its place. -/
theorem exists?_eq (noSlash : (Steps.ofPath path).wantsDirectory = false)
    (located : workspace.locatePath path = .ok location) :
    workspace.exists? path = (workspace.entryAt? location).isSome := by
  rw [exists?, entryOf_of_locatePath located]
  cases workspace.entryAt? location with
  | none => rfl
  | some entry => simp [noSlash, Except.isOk, Except.toBool]

theorem exists_locatePath_of_exists? (found : workspace.exists? path = true) :
    ∃ location, workspace.locatePath path = .ok location := by
  cases located : workspace.locatePath path with
  | ok location => exact ⟨location, rfl⟩
  | error fault =>
      rw [exists?, entryOf, located] at found
      cases found

/-- A file is read if its path leads to a text, and not by way of a slash at its end. -/
theorem read_eq_ok_iff :
    workspace.read path = .ok content ↔ ∃ location, workspace.locatePath path = .ok location ∧
      workspace.entryAt? location = some (.text content) ∧
        (Steps.ofPath path).wantsDirectory = false := by
  cases located : workspace.locatePath path with
  | error fault =>
      rw [read, entryOf, located]
      constructor
      · intro isText
        cases isText
      · rintro ⟨location, isLocation, _⟩
        cases isLocation
  | ok location =>
      rw [read, entryOf_of_locatePath located]
      constructor
      · intro isText
        refine ⟨location, rfl, ?_⟩
        cases stands : workspace.entryAt? location with
        | none =>
            rw [stands] at isText
            cases isText
        | some entry =>
            rw [stands] at isText
            cases wants : (Steps.ofPath path).wantsDirectory <;> rw [wants] at isText <;>
              cases entry <;> simp [bind, Except.bind, pure, Except.pure] at isText ⊢
            exact isText
      · rintro ⟨_, isLocation, stands, noSlash⟩
        rw [Except.ok.inj isLocation, stands, noSlash]
        rfl

/-- A text put at a place keeps the directories, unless it replaces one. -/
theorem keepsDirectories_withEntry (free : workspace.entryAt? location ≠ some .directory) :
    KeepsDirectories workspace (workspace.withEntry location entry) := by
  intro place isDirectory
  have different : place ≠ location := by
    rintro rfl
    exact free isDirectory
  rw [entryAt?_withEntry_of_ne workspace entry different]
  exact isDirectory

end TypedClient.Workspace
