import Mathlib.Data.Finset.Card
import Mathlib.Dynamics.PeriodicPts.Defs
import TypedClient.Document.Lookup

/-!
Contract: chains of references between schemas.

Owns:
- `Document.Leads`, what a pointer leads to, and `Document.hop`, the schema one reference further;
- `Document.behind`, the schema at the end of a chain of references;
- that the bound in `behind` costs nothing: a chain that has not ended after as many steps as there
  are components never ends.

Does not own: references below the top of a schema.
-/

namespace TypedClient

/-- Whether a schema is a reference. -/
def Schema.isReference : Schema → Bool
  | .reference _ => true
  | _ => false

theorem Schema.isReference_iff {schema : Schema} :
    schema.isReference = true ↔ ∃ pointer, schema = .reference pointer := by
  cases schema <;> simp [isReference]

namespace Document

/-- A pointer leads to a component: it names it, and the document has a schema of this name. -/
def Leads (document : Document) (pointer name : String) (schema : Schema) : Prop :=
  Pointer.target? Pointer.schemaPlaces pointer = some name ∧ document.schema? name = some schema

/-- The schema that a reference leads to; a reference that leads nowhere says nothing. Every other
schema stays as it is. -/
def hop (document : Document) : Schema → Schema
  | .reference pointer =>
      ((Pointer.target? Pointer.schemaPlaces pointer).bind document.schema?).getD .unknown
  | schema => schema

/-- The schema at the end of a chain of references. A chain that only comes back to itself has no
end, and says nothing. -/
def behind (document : Document) (schema : Schema) : Schema :=
  let last := document.hop^[document.schemaNames.length + 1] schema
  if last.isReference then .unknown else last

variable {document : Document} {pointer name : String} {schema target : Schema}

theorem Leads.unique {other : String} {otherTarget : Schema}
    (leads : document.Leads pointer name target)
    (leadsOther : document.Leads pointer other otherTarget) :
    name = other ∧ target = otherTarget := by
  have sameName : name = other := Option.some.inj (leads.1.symm.trans leadsOther.1)
  subst sameName
  exact ⟨rfl, Option.some.inj (leads.2.symm.trans leadsOther.2)⟩

/-! ## One step -/

theorem hop_of_leads (leads : document.Leads pointer name target) :
    document.hop (.reference pointer) = target := by
  simp [hop, leads.1, leads.2]

theorem hop_of_nowhere (nowhere : ∀ name target, ¬ document.Leads pointer name target) :
    document.hop (.reference pointer) = .unknown := by
  cases named : Pointer.target? Pointer.schemaPlaces pointer with
  | none => simp [hop, named]
  | some name =>
      cases found : document.schema? name with
      | none => simp [hop, named, found]
      | some target => exact absurd ⟨named, found⟩ (nowhere name target)

theorem hop_of_not_isReference (plain : schema.isReference = false) :
    document.hop schema = schema := by
  cases schema <;> first | rfl | cases plain

theorem exists_leads_of_hop_isReference (isReference : (document.hop schema).isReference = true) :
    ∃ name, document.schema? name = some (document.hop schema) := by
  by_cases plain : schema.isReference = true
  · obtain ⟨pointer, rfl⟩ := Schema.isReference_iff.1 plain
    by_cases somewhere : ∃ name target, document.Leads pointer name target
    · obtain ⟨name, target, leads⟩ := somewhere
      exact ⟨name, by rw [hop_of_leads leads]; exact leads.2⟩
    · push Not at somewhere
      rw [hop_of_nowhere somewhere] at isReference
      cases isReference
  · rw [Bool.not_eq_true] at plain
    rw [hop_of_not_isReference plain, plain] at isReference
    cases isReference

/-! ## Chains -/

theorem iterate_hop_of_not_isReference {steps more : Nat}
    (ended : (document.hop^[steps] schema).isReference = false) (later : steps ≤ more) :
    document.hop^[more] schema = document.hop^[steps] schema := by
  induction more, later using Nat.le_induction with
  | base => rfl
  | succ more later inductionHypothesis =>
      rw [Function.iterate_succ_apply', inductionHypothesis, hop_of_not_isReference ended]

/-- A chain of references that comes back to where it was never ends. -/
theorem isReference_of_periodic {period : Nat} (positive : 0 < period)
    (back : document.hop^[period] schema = schema) (isReference : schema.isReference = true)
    (steps : Nat) : (document.hop^[steps] schema).isReference = true := by
  by_contra ended
  rw [Bool.not_eq_true] at ended
  have returns : document.hop^[period * (steps + 1)] schema = schema :=
    Function.IsPeriodicPt.mul_const (f := document.hop) back (steps + 1)
  have later : steps ≤ period * (steps + 1) :=
    (Nat.le_succ steps).trans (Nat.le_mul_of_pos_left _ positive)
  have stays := iterate_hop_of_not_isReference ended later
  rw [returns] at stays
  rw [← stays, isReference] at ended
  cases ended

theorem isReference_of_later {steps more : Nat}
    (isReference : (document.hop^[more] schema).isReference = true) (earlier : steps ≤ more) :
    (document.hop^[steps] schema).isReference = true := by
  by_contra ended
  rw [Bool.not_eq_true] at ended
  rw [iterate_hop_of_not_isReference ended earlier, ended] at isReference
  cases isReference

/-- A chain that meets a reference twice never ends. -/
theorem isReference_of_revisited {early late : Nat} (ordered : early < late)
    (meets : document.hop^[early] schema = document.hop^[late] schema)
    (isReference : (document.hop^[early] schema).isReference = true) (steps : Nat) :
    (document.hop^[steps] schema).isReference = true := by
  have back : document.hop^[late - early] (document.hop^[early] schema) =
      document.hop^[early] schema := by
    rw [← Function.iterate_add_apply, Nat.sub_add_cancel ordered.le, meets]
  by_cases before : steps ≤ early
  · exact isReference_of_later isReference before
  · have onward := isReference_of_periodic (by omega) back isReference (steps - early)
    rwa [← Function.iterate_add_apply, Nat.sub_add_cancel (by omega)] at onward

/-- There are fewer components than steps, so a long chain meets some component twice. -/
theorem exists_revisited
    (long : (document.hop^[document.schemaNames.length + 1] schema).isReference = true) :
    ∃ early late, early < late ∧ late ≤ document.schemaNames.length + 1 ∧
      document.hop^[early] schema = document.hop^[late] schema := by
  have component : ∀ index, ∃ name, index ≤ document.schemaNames.length →
      document.schema? name = some (document.hop^[index + 1] schema) := by
    intro index
    by_cases below : index ≤ document.schemaNames.length
    · have arrives := isReference_of_later long (Nat.succ_le_succ below)
      rw [Function.iterate_succ_apply'] at arrives ⊢
      obtain ⟨name, found⟩ := exists_leads_of_hop_isReference arrives
      exact ⟨name, fun _ => found⟩
    · exact ⟨"", fun isBelow => absurd isBelow below⟩
  choose nameAt found using component
  have crowded : document.schemaNames.toFinset.card <
      (Finset.range (document.schemaNames.length + 1)).card := by
    rw [Finset.card_range]
    exact Nat.lt_succ_of_le (List.toFinset_card_le _)
  have lands : ∀ index ∈ Finset.range (document.schemaNames.length + 1),
      nameAt index ∈ document.schemaNames.toFinset := by
    intro index below
    rw [List.mem_toFinset]
    exact mem_schemaNames_of_schema? (found index (Nat.le_of_lt_succ (Finset.mem_range.1 below)))
  obtain ⟨first, firstBelow, second, secondBelow, different, same⟩ :=
    Finset.exists_ne_map_eq_of_card_lt_of_maps_to crowded lands
  rw [Finset.mem_range, Nat.lt_succ_iff] at firstBelow secondBelow
  have meets : document.hop^[first + 1] schema = document.hop^[second + 1] schema := by
    have foundFirst := found first firstBelow
    rw [same, found second secondBelow, Option.some.injEq] at foundFirst
    exact foundFirst.symm
  rcases Nat.lt_or_gt_of_ne different with before | after
  · exact ⟨first + 1, second + 1, by omega, by omega, meets⟩
  · exact ⟨second + 1, first + 1, by omega, by omega, meets.symm⟩

/-- A chain that has not ended after as many steps as there are components, and one, never ends. -/
theorem isReference_of_long_chain
    (long : (document.hop^[document.schemaNames.length + 1] schema).isReference = true)
    (steps : Nat) : (document.hop^[steps] schema).isReference = true := by
  obtain ⟨early, late, ordered, bounded, meets⟩ := exists_revisited long
  exact isReference_of_revisited ordered meets
    (isReference_of_later long (ordered.le.trans bounded)) steps

/-! ## The end of a chain -/

theorem isReference_behind (schema : Schema) : (document.behind schema).isReference = false := by
  simp only [behind]
  split
  · rfl
  · rename_i ended
    simpa using ended

/-- Wherever a chain ends, that is what stands behind it. -/
theorem behind_eq_of_ended {steps : Nat}
    (ended : (document.hop^[steps] schema).isReference = false) :
    document.behind schema = document.hop^[steps] schema := by
  have atBound : (document.hop^[document.schemaNames.length + 1] schema).isReference = false := by
    by_contra long
    rw [Bool.not_eq_false] at long
    rw [isReference_of_long_chain long steps] at ended
    cases ended
  have same : document.hop^[document.schemaNames.length + 1] schema =
      document.hop^[steps] schema := by
    rcases Nat.le_total steps (document.schemaNames.length + 1) with below | above
    · exact iterate_hop_of_not_isReference ended below
    · exact (iterate_hop_of_not_isReference atBound above).symm
  simp only [behind]
  rw [same, if_neg (by simp [ended])]

theorem behind_eq_unknown (endless : ∀ steps, (document.hop^[steps] schema).isReference = true) :
    document.behind schema = .unknown := by
  unfold behind
  exact if_pos (endless _)

theorem behind_of_not_isReference (plain : schema.isReference = false) :
    document.behind schema = schema :=
  @behind_eq_of_ended document schema 0 plain

/-- One step along a chain changes nothing about its end. -/
theorem behind_hop (schema : Schema) :
    document.behind (document.hop schema) = document.behind schema := by
  by_cases ends : ∃ steps, (document.hop^[steps] (document.hop schema)).isReference = false
  · obtain ⟨steps, ended⟩ := ends
    rw [behind_eq_of_ended ended]
    rw [← Function.iterate_succ_apply] at ended ⊢
    exact (behind_eq_of_ended ended).symm
  · push Not at ends
    have endless : ∀ steps, (document.hop^[steps] schema).isReference = true := by
      intro steps
      by_contra ended
      rw [Bool.not_eq_true] at ended
      have further := iterate_hop_of_not_isReference ended (Nat.le_succ steps)
      apply ends steps
      rw [← Function.iterate_succ_apply, further, ended]
    rw [behind_eq_unknown endless]
    exact behind_eq_unknown (fun steps => by simpa using ends steps)

theorem behind_reference_of_leads (leads : document.Leads pointer name target) :
    document.behind (.reference pointer) = document.behind target := by
  rw [← behind_hop, hop_of_leads leads]

theorem behind_reference_of_nowhere
    (nowhere : ∀ name target, ¬ document.Leads pointer name target) :
    document.behind (.reference pointer) = .unknown := by
  rw [← behind_hop, hop_of_nowhere nowhere, behind_of_not_isReference rfl]

end Document

end TypedClient
