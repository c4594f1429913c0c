import TypedClient.Proofs.Workspace.Places

/-!
Contract: what creating directories changes in a tree.

Owns:
- `Workspace.SameOrNew`, that at a place nothing changed, or a directory was created where nothing
  stood;
- that creating the directory at a path creates nothing but directories on the way to it;
- that creating a directory that can be walked to changes nothing.

Does not own: files.
-/

namespace TypedClient.Workspace

variable {before middle after workspace : Workspace} {location place : Location}
  {names : List String} {path : String}

/-- At a place nothing changed, or nothing stood there and it is one of those where a directory was
created. -/
def SameOrNew (Created : Location → Prop) (before after : Workspace) (location : Location) : Prop :=
  after.entryAt? location = before.entryAt? location ∨
    Created location ∧ before.entryAt? location = none ∧ after.entryAt? location = some .directory

section SameOrNew

variable {Created More : Location → Prop}

theorem SameOrNew.refl (workspace : Workspace) (location : Location) :
    SameOrNew Created workspace workspace location :=
  Or.inl rfl

theorem SameOrNew.trans (first : SameOrNew Created before middle location)
    (second : SameOrNew Created middle after location) :
    SameOrNew Created before after location := by
  rcases first with same | ⟨created, nothing, isDirectory⟩
  · rcases second with sameAgain | ⟨created, nothing, isDirectory⟩
    · exact Or.inl (sameAgain.trans same)
    · exact Or.inr ⟨created, same ▸ nothing, isDirectory⟩
  · rcases second with sameAgain | ⟨_, nothingThere, _⟩
    · exact Or.inr ⟨created, nothing, sameAgain.trans isDirectory⟩
    · rw [isDirectory] at nothingThere
      cases nothingThere

theorem SameOrNew.mono (weaker : ∀ location, Created location → More location)
    (same : SameOrNew Created before after location) : SameOrNew More before after location :=
  same.imp_right (fun ⟨created, rest⟩ => ⟨weaker location created, rest⟩)

/-- Whatever stands at a place stays there. -/
theorem SameOrNew.kept (same : SameOrNew Created before after location) {entry : Entry}
    (stands : before.entryAt? location = some entry) : after.entryAt? location = some entry := by
  rcases same with same | ⟨_, nothing, _⟩
  · exact same.trans stands
  · rw [stands] at nothing
    cases nothing

end SameOrNew

/-- A directory is made at a place where nothing stands. -/
theorem makeDirectory_eq (located : workspace.locate names = .ok place) :
    workspace.makeDirectory names =
      if (workspace.entryAt? place).isSome then .error .taken
      else .ok (workspace.withEntry place .directory) := by
  rw [makeDirectory, located]
  simp only [bind, Except.bind]
  cases workspace.entryAt? place <;> rfl

theorem makeDirectory_eq_ok (made : workspace.makeDirectory names = .ok after) :
    workspace.entryAt? (destination names) = none ∧
      after = workspace.withEntry (destination names) .directory := by
  cases located : workspace.locate names with
  | error fault =>
      rw [makeDirectory, located] at made
      cases made
  | ok location =>
      have isDestination := locate_eq_ok located
      subst isDestination
      rw [makeDirectory_eq located] at made
      split at made
      · cases made
      · rename_i nothing
        rw [Option.not_isSome_iff_eq_none] at nothing
        exact ⟨nothing, (Except.ok.inj made).symm⟩

theorem sameOrNew_makeDirectory (made : workspace.makeDirectory names = .ok after)
    (location : Location) :
    SameOrNew (fun place => place = destination names) workspace after location := by
  obtain ⟨nothing, rfl⟩ := makeDirectory_eq_ok made
  by_cases isPlace : location = destination names
  · subst isPlace
    have below : destination names ≠ [] := by
      intro isRoot
      rw [isRoot, entryAt?_nil] at nothing
      cases nothing
    exact Or.inr ⟨rfl, nothing, entryAt?_withEntry_self workspace .directory below⟩
  · exact Or.inl (entryAt?_withEntry_of_ne workspace .directory isPlace)

/-- Only directories at the candidates are created. -/
theorem sameOrNew_createBelow (workspace : Workspace) (candidates : List (List String))
    (location : Location) :
    SameOrNew (fun place => ∃ names ∈ candidates, place = destination names) workspace
      (workspace.createBelow candidates).2 location := by
  induction candidates generalizing workspace with
  | nil => exact SameOrNew.refl workspace location
  | cons names upper inductionHypothesis =>
      have weaker : ∀ place, (∃ other ∈ upper, place = destination other) →
          ∃ other ∈ names :: upper, place = destination other :=
        fun _ ⟨other, isUpper, isPlace⟩ => ⟨other, List.mem_cons_of_mem _ isUpper, isPlace⟩
      have ofUpper := (inductionHypothesis workspace).mono weaker
      have ofFirst : ∀ {tree created : Workspace}, tree.makeDirectory names = .ok created →
          SameOrNew (fun place => ∃ other ∈ names :: upper, place = destination other) tree created
            location :=
        fun made => (sameOrNew_makeDirectory made location).mono
          (fun _ isPlace => ⟨names, List.mem_cons_self, isPlace⟩)
      rw [createBelow]
      split
      · rename_i made
        exact ofFirst made
      · split
        · rename_i reached
          rwa [reached] at ofUpper
        · rename_i reached
          rw [reached] at ofUpper
          split
          · rename_i made
            exact ofUpper.trans (ofFirst made)
          · exact ofUpper
          · exact ofUpper
      · exact SameOrNew.refl workspace location
      · exact SameOrNew.refl workspace location

/-! ## The way of a path -/

/-- A place is passed on the way of some steps. -/
def OnWay (names : List String) (location : Location) : Prop :=
  ∃ start, start <+: names ∧ location = destination start

/-- Steps that stay where they are can be left out. -/
theorem exists_prefix_of_filter {start names : List String} (location : Location)
    (isStart : start <+: names.filter (· ≠ ".")) :
    ∃ longer, longer <+: names ∧ longer.foldl stepTo location = start.foldl stepTo location := by
  induction names generalizing location start with
  | nil =>
      rw [List.filter_nil, List.prefix_nil] at isStart
      exact ⟨[], List.nil_prefix, by rw [isStart]⟩
  | cons step rest inductionHypothesis =>
      by_cases stays : step = "."
      · subst stays
        rw [List.filter_cons_of_neg (by simp)] at isStart
        obtain ⟨longer, isLonger, same⟩ := inductionHypothesis location isStart
        exact ⟨"." :: longer, List.cons_prefix_cons.2 ⟨rfl, isLonger⟩, same⟩
      · rw [List.filter_cons_of_pos (by simpa using stays), List.prefix_cons_iff] at isStart
        rcases isStart with rfl | ⟨later, rfl, isLater⟩
        · exact ⟨[], List.nil_prefix, rfl⟩
        · obtain ⟨longer, isLonger, same⟩ := inductionHypothesis (stepTo location step) isLater
          exact ⟨step :: longer, List.cons_prefix_cons.2 ⟨rfl, isLonger⟩, same⟩

theorem onWay_of_prefix_essential {steps : Steps} {start : List String}
    (isStart : start <+: steps.essential) : OnWay steps.names (destination start) := by
  unfold Steps.essential at isStart
  cases names : steps.names with
  | nil =>
      rw [names] at isStart
      exact ⟨[], List.nil_prefix, by rw [List.prefix_nil.1 isStart]⟩
  | cons first rest =>
      rw [names] at isStart
      change start <+: first :: rest.filter (· ≠ ".") at isStart
      rcases List.prefix_cons_iff.1 isStart with rfl | ⟨later, rfl, isLater⟩
      · exact ⟨[], List.nil_prefix, rfl⟩
      · obtain ⟨longer, isLonger, same⟩ := exists_prefix_of_filter (stepTo [] first) isLater
        exact ⟨first :: longer, List.cons_prefix_cons.2 ⟨rfl, isLonger⟩, same.symm⟩

theorem prefix_of_mem_starts {start : List String} (isStart : start ∈ starts names) :
    start <+: names := by
  rw [starts, List.mem_reverse] at isStart
  obtain ⟨count, _, rfl⟩ := List.mem_map.1 isStart
  exact List.take_prefix _ _

/-- Creating the directory at a path creates nothing but directories on the way to it. -/
theorem sameOrNew_createDirectories (workspace : Workspace) (path : String) (location : Location) :
    SameOrNew (OnWay (Steps.ofPath path).names) workspace (workspace.createDirectories path).2
      location := by
  rw [createDirectories]
  split
  · exact SameOrNew.refl workspace location
  · split
    · exact SameOrNew.refl workspace location
    · refine (sameOrNew_createBelow workspace _ location).mono ?_
      rintro _ ⟨names, isCandidate, rfl⟩
      rcases List.mem_cons.1 isCandidate with rfl | isStart
      · exact ⟨_, List.prefix_rfl, rfl⟩
      · exact onWay_of_prefix_essential
          ((prefix_of_mem_starts isStart).trans (List.dropLast_prefix _))

/-- Creating directories keeps those that are there. -/
theorem keepsDirectories_createDirectories (workspace : Workspace) (path : String) :
    KeepsDirectories workspace (workspace.createDirectories path).2 :=
  fun location isDirectory => (sameOrNew_createDirectories workspace path location).kept isDirectory

theorem noFault_of_createDirectories
    (created : workspace.createDirectories path = (.ok (), after)) :
    path.isEmpty = true ∨ pathFault? path = none := by
  rw [createDirectories] at created
  split at created
  · rename_i isEmpty
    exact Or.inl isEmpty
  · split at created
    · cases created
    · rename_i noFault
      exact Or.inr noFault

/-- To create a directory that is there changes nothing. -/
theorem createDirectories_of_walk (noFault : path.isEmpty = true ∨ pathFault? path = none)
    (walked : workspace.walk [] (Steps.ofPath path).names = .ok place) :
    workspace.createDirectories path = (.ok (), workspace) := by
  obtain ⟨located, isThere⟩ := locate_of_walk walked
  have taken : workspace.makeDirectory (Steps.ofPath path).names = .error .taken := by
    rw [makeDirectory_eq located, isThere]
    rfl
  have isDirectory : workspace.isDirectory (Steps.ofPath path).names = true := by
    rw [Workspace.isDirectory, located]
    exact decide_eq_true isThere
  rw [createDirectories]
  split
  · rfl
  · rename_i nonempty
    rw [noFault.resolve_left nonempty]
    change workspace.createBelow (_ :: _) = _
    rw [createBelow, taken]
    change ((if workspace.isDirectory (Steps.ofPath path).names then _ else _), workspace) = _
    rw [if_pos isDirectory]

end TypedClient.Workspace
