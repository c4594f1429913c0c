import TypedClient.Proofs.Workspace.Creation

/-!
Contract: what saving and removing a file change in a tree.

Owns:
- that saving a file changes nothing but what stands at its path and on the way to it;
- that removing what a path leads to changes nothing but this and what is below it.

Does not own: who edits the tree, and when.
-/

namespace TypedClient.Workspace

variable {workspace after : Workspace} {place location : Location} {path : String}

theorem locatePath_eq_destination (located : workspace.locatePath path = .ok place) :
    place = destination (Steps.ofPath path).names :=
  locate_eq_ok (locatePath_eq_ok located).2

theorem entryAt?_put_of_ne {entry : Entry} (written : workspace.put path entry = .ok after)
    (elsewhere : location ≠ destination (Steps.ofPath path).names) :
    after.entryAt? location = workspace.entryAt? location := by
  cases located : workspace.locatePath path with
  | error fault =>
      rw [put, located] at written
      cases written
  | ok place =>
      rw [← locatePath_eq_destination located] at elsewhere
      rw [put, located] at written
      change (if _ then _ else _) = _ at written
      split at written
      · cases written
      · obtain rfl := Except.ok.inj written
        exact entryAt?_withEntry_of_ne workspace entry elsewhere

/-- Saving a file leaves alone what is not on the way to it. -/
theorem entryAt?_putBelow_of_not_onWay (workspace : Workspace) (entry : Entry)
    (elsewhere : ¬ OnWay (Steps.ofPath path).names location) :
    (workspace.putBelow path entry).2.entryAt? location = workspace.entryAt? location := by
  have onlyOnWay : SameOrNew (OnWay (Steps.ofPath path).names) workspace
      (workspace.createBelow (starts (Steps.ofPath path).essential.dropLast)).2 location := by
    refine (sameOrNew_createBelow workspace _ location).mono ?_
    rintro _ ⟨names, isCandidate, rfl⟩
    exact onWay_of_prefix_essential
      ((prefix_of_mem_starts isCandidate).trans (List.dropLast_prefix _))
  have created := onlyOnWay.resolve_right (fun new => elsewhere new.1)
  have notThere : location ≠ destination (Steps.ofPath path).names :=
    fun isThere => elsewhere ⟨_, List.prefix_rfl, isThere⟩
  rw [putBelow]
  split
  · rename_i reached
    rw [reached] at created
    exact created
  · rename_i reached
    rw [reached] at created
    split
    · rename_i written
      exact (entryAt?_put_of_ne written notThere).trans created
    · exact created

theorem entryAt?_without (notBelow : ¬ place <+: location) :
    (workspace.without place).entryAt? location = workspace.entryAt? location := by
  have stays : ∀ entry : Location × Entry,
      decide ((!place.isPrefixOf entry.1) = true ∧ decide (entry.1 = location) = true) =
        decide (entry.1 = location) := by
    intro entry
    by_cases isThere : entry.1 = location
    · have notPrefix : place.isPrefixOf location = false := by
        rwa [← Bool.not_eq_true, List.isPrefixOf_iff_prefix]
      simp [isThere, notPrefix]
    · simp [isThere]
  rw [entryAt?, entryAt?, without, List.find?_filter]
  simp only [stays]

/-- Removing what a path leads to leaves alone what is not below it. -/
theorem entryAt?_remove_of_not_prefix (workspace : Workspace)
    (elsewhere : ¬ destination (Steps.ofPath path).names <+: location) :
    (workspace.remove path).2.entryAt? location = workspace.entryAt? location := by
  rw [remove]
  split
  · rename_i located
    rw [← locatePath_eq_destination located] at elsewhere
    exact absurd List.nil_prefix elsewhere
  · rename_i located
    rw [← locatePath_eq_destination located] at elsewhere
    exact entryAt?_without elsewhere
  · rfl
  · rfl

end TypedClient.Workspace
