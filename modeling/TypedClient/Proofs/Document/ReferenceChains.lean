import Mathlib.Data.List.Basic
import TypedClient.Document.Lookup
import TypedClient.Reference.Fresh

/-!
Contract: references to parameters, bodies and responses are followed up to a limit.

Owns:
- `Pointer.LeadsTo`, that a pointer names an entry of one of some sections of a document;
- `OrReference.After`, what stands behind some steps along a chain of references;
- `OrReference.Answered`, what is found for an item: what stands at the end of its chain, or why
  there is nothing;
- that parameters, bodies and responses are found so, each in their own sections.

Does not own: references between schemas.
-/

namespace TypedClient

namespace Pointer

/-- A pointer leads to an entry: it names it in one of some sections, each with its place. -/
def LeadsTo {α : Type} (sections : List (String × Ordered α)) (pointer : String) (entry : α) :
    Prop :=
  ∃ place ∈ sections, ∃ name,
    target? [place.1] pointer = some name ∧ place.2.lookup? name = some entry

variable {α : Type} {place other newer older pointer name : String}
  {newerEntries olderEntries : Ordered α} {entry : α}

theorem prefix_of_target? (named : target? [place] pointer = some name) :
    place.toList <+: pointer.toList := by
  rw [target?, Option.map_eq_some_iff] at named
  obtain ⟨rest, remains, _⟩ := named
  have starts := Option.eq_some_of_filter_eq_some remains
  rw [remainder?, List.findSome?_singleton, List.isPrefixOf?_eq_some_iff_append_eq] at starts
  exact ⟨rest, starts⟩

/-- No pointer names something at two places of which none starts with the other. -/
theorem target?_eq_none (apart : ¬ place.toList <+: other.toList ∧ ¬ other.toList <+: place.toList)
    (named : target? [other] pointer = some name) : target? [place] pointer = none := by
  rw [Option.eq_none_iff_forall_ne_some]
  intro another alsoNamed
  rcases List.prefix_or_prefix_of_prefix (prefix_of_target? alsoNamed) (prefix_of_target? named)
    with before | behind
  · exact apart.1 before
  · exact apart.2 behind

theorem atPointer?_eq_some_iff
    (apart : ¬ newer.toList <+: older.toList ∧ ¬ older.toList <+: newer.toList) :
    Document.atPointer? (newer, newerEntries) (older, olderEntries) pointer = some entry ↔
      LeadsTo [(newer, newerEntries), (older, olderEntries)] pointer entry := by
  rw [Document.atPointer?, Option.or_eq_some_iff, LeadsTo]
  simp only [Option.bind_eq_some_iff, List.mem_cons, List.not_mem_nil, or_false, or_and_right,
    exists_or, exists_eq_left]
  refine or_congr_right ⟨fun found => found.2, fun found => ⟨?_, found⟩⟩
  obtain ⟨name, named, _⟩ := found
  rw [target?_eq_none apart named, Option.bind_none]

end Pointer

namespace OrReference

variable {α : Type} {Leads : String → OrReference α → Prop}

/-- Some steps along a chain of references lead from one item to another. -/
inductive After (Leads : String → OrReference α → Prop) :
    Nat → OrReference α → OrReference α → Prop
  | here (item : OrReference α) : After Leads 0 item item
  | step {pointer : String} {next last : OrReference α} {steps : Nat} (leads : Leads pointer next)
      (later : After Leads steps next last) : After Leads (steps + 1) (.reference pointer) last

/-- What is found for an item, when at most so many items of its chain are looked at. -/
structure Answered (Leads : String → OrReference α → Prop) (limit : Nat) (item : OrReference α)
    (found : Except Warning α) : Prop where
  /-- Exactly what stands in its place behind fewer steps than the limit is found. -/
  ends : ∀ target, found = .ok target ↔ ∃ steps < limit, After Leads steps item (.inline target)
  /-- A step without an entry to lead to ends the search. -/
  dangles : ∀ steps < limit, ∀ pointer, After Leads steps item (.reference pointer) →
    (∀ next, ¬ Leads pointer next) → found = .error (.danglingReference pointer)
  /-- A chain with as many steps as the limit is too long, whatever it leads to. -/
  long : ∀ steps, limit ≤ steps → ∀ last, After Leads steps item last →
    found = .error .longReferenceChain
  /-- So is a chain that comes back to where it was. -/
  cyclic : ∀ steps period, 0 < period → ∀ last, After Leads steps item last →
    After Leads period last last → found = .error .longReferenceChain

variable {item next last : OrReference α} {steps more limit : Nat}

/-! ## Chains -/

theorem After.append (first : After Leads steps item next) (second : After Leads more next last) :
    After Leads (steps + more) item last := by
  induction first with
  | here item => rwa [Nat.zero_add]
  | step leads _ inductionHypothesis =>
      rw [Nat.add_right_comm]
      exact .step leads (inductionHypothesis second)

theorem After.exists_between (after : After Leads (steps + more) item last) :
    ∃ between, After Leads steps item between ∧ After Leads more between last := by
  induction steps generalizing item with
  | zero => exact ⟨item, .here item, by rwa [Nat.zero_add] at after⟩
  | succ steps inductionHypothesis =>
      rw [Nat.add_right_comm] at after
      cases after with
      | step leads later =>
          obtain ⟨between, before, behind⟩ := inductionHypothesis later
          exact ⟨between, .step leads before, behind⟩

/-- A chain that comes back can be followed as long as one likes. -/
theorem After.around (back : After Leads more last last) (rounds : Nat) :
    After Leads (more * rounds) last last := by
  induction rounds with
  | zero => exact .here last
  | succ rounds inductionHypothesis => exact inductionHypothesis.append back

/-! ## Following -/

section Following

variable {lookup? : String → Option (OrReference α)}

/-- Each step along a chain uses up one step of the bound. -/
theorem follow_of_after (looks : ∀ pointer next, lookup? pointer = some next ↔ Leads pointer next)
    (after : After Leads steps item last) (left : Nat) :
    item.follow lookup? (steps + left) = last.follow lookup? left := by
  induction after with
  | here item => rw [Nat.zero_add]
  | step leads _ inductionHypothesis =>
      rw [Nat.add_right_comm, follow, (looks _ _).2 leads]
      exact inductionHypothesis

theorem exists_after_of_follow
    (looks : ∀ pointer next, lookup? pointer = some next ↔ Leads pointer next) {target : α}
    (found : item.follow lookup? limit = .ok target) :
    ∃ steps < limit, After Leads steps item (.inline target) := by
  induction limit generalizing item with
  | zero => cases found
  | succ limit inductionHypothesis =>
      cases item with
      | inline item =>
          cases found
          exact ⟨0, Nat.succ_pos limit, .here _⟩
      | reference pointer =>
          rw [follow] at found
          split at found
          · rename_i next isNext
            obtain ⟨steps, below, after⟩ := inductionHypothesis found
            exact ⟨steps + 1, Nat.succ_lt_succ below, .step ((looks _ _).1 isNext) after⟩
          · cases found

theorem answered_follow (looks : ∀ pointer next, lookup? pointer = some next ↔ Leads pointer next)
    (limit : Nat) (item : OrReference α) :
    Answered Leads limit item (item.follow lookup? limit) := by
  have long : ∀ steps, limit ≤ steps → ∀ last, After Leads steps item last →
      item.follow lookup? limit = .error .longReferenceChain := by
    intro steps enough last after
    obtain ⟨more, rfl⟩ := Nat.exists_eq_add_of_le enough
    obtain ⟨between, before, _⟩ := after.exists_between
    exact follow_of_after looks before 0
  constructor
  case ends =>
    refine fun target => ⟨exists_after_of_follow looks, ?_⟩
    rintro ⟨steps, below, after⟩
    obtain ⟨left, rfl⟩ := Nat.exists_eq_add_of_lt below
    exact follow_of_after looks after (left + 1)
  case dangles =>
    intro steps below pointer after nowhere
    obtain ⟨left, rfl⟩ := Nat.exists_eq_add_of_lt below
    have noEntry : lookup? pointer = none :=
      Option.eq_none_iff_forall_ne_some.2 (fun next isNext => nowhere next ((looks _ _).1 isNext))
    rw [Nat.add_assoc, follow_of_after looks after, follow, noEntry]
  case long => exact long
  case cyclic =>
    intro steps period positive last after back
    exact long (steps + period * limit) (Nat.le_add_left_of_le (Nat.le_mul_of_pos_left _ positive))
      last (after.append (back.around limit))

end Following

end OrReference

namespace Document

variable (document : Document)

/-- Where parameters stand. -/
def parameterSections : List (String × Ordered (OrReference Parameter)) :=
  [("#/components/parameters/", document.components.parameters),
    ("#/parameters/", document.parameters)]

def bodySections : List (String × Ordered (OrReference RequestBody)) :=
  [("#/components/requestBodies/", document.components.requestBodies)]

def responseSections : List (String × Ordered (OrReference Response)) :=
  [("#/components/responses/", document.components.responses),
    ("#/responses/", document.responses)]

variable {document}

theorem atPointer?_parameters (pointer : String) (next : OrReference Parameter) :
    atPointer? ("#/components/parameters/", document.components.parameters)
        ("#/parameters/", document.parameters) pointer = some next ↔
      Pointer.LeadsTo document.parameterSections pointer next :=
  Pointer.atPointer?_eq_some_iff (by decide)

theorem answered_parameter (item : OrReference Parameter) :
    OrReference.Answered (Pointer.LeadsTo document.parameterSections) stepLimit item
      (document.parameter item) :=
  OrReference.answered_follow atPointer?_parameters stepLimit item

theorem answered_requestBody (item : OrReference RequestBody) :
    OrReference.Answered (Pointer.LeadsTo document.bodySections) stepLimit item
      (document.requestBody item) := by
  refine OrReference.answered_follow (fun pointer next => ?_) stepLimit item
  simp [Pointer.LeadsTo, bodySections, Option.bind_eq_some_iff]

theorem answered_response (item : OrReference Response) :
    OrReference.Answered (Pointer.LeadsTo document.responseSections) stepLimit item
      (document.response item) :=
  OrReference.answered_follow (fun _ _ => Pointer.atPointer?_eq_some_iff (by decide)) stepLimit item

/-- Parameters, bodies and responses are found at the ends of chains of references with fewer steps
than the limit. For a longer chain, for one that comes back to where it was and for one that leads
nowhere there is nothing. -/
theorem references_followed_below_limit (document : Document) :
    (∀ item, OrReference.Answered (Pointer.LeadsTo document.parameterSections) stepLimit item
      (document.parameter item)) ∧
    (∀ item, OrReference.Answered (Pointer.LeadsTo document.bodySections) stepLimit item
      (document.requestBody item)) ∧
    ∀ item, OrReference.Answered (Pointer.LeadsTo document.responseSections) stepLimit item
      (document.response item) :=
  ⟨answered_parameter, answered_requestBody, answered_response⟩

/-! ## A chain that is too long -/

/-- The reference to one of the parameters of a chain. -/
def chained (number : Nat) : OrReference Parameter :=
  .reference ("#/components/parameters/" ++ numbered "Page" number)

def chainEnd : Parameter := ⟨"page", "query", false, none, some "integer"⟩

/-- A document whose parameters refer to each other, each to the next one. The last one stands in
its place. -/
def chainDocument (length : Nat) : Document where
  components := {
    parameters := (List.range length).map (fun number => (numbered "Page" number,
      if number + 1 = length then .inline chainEnd else chained (number + 1))) }

/-- The parameter behind as many steps as the limit is not found. -/
theorem parameter_behind_limit_missing :
    OrReference.After (Pointer.LeadsTo (chainDocument stepLimit).parameterSections) stepLimit
      (chained 0) (.inline chainEnd) ∧
    (chainDocument stepLimit).parameter (chained 0) = .error .longReferenceChain := by
  have missing : (chainDocument stepLimit).parameter (chained 0) = .error .longReferenceChain := rfl
  have foundLater : (chained 0).follow (atPointer?
      ("#/components/parameters/", (chainDocument stepLimit).components.parameters)
      ("#/parameters/", (chainDocument stepLimit).parameters)) (stepLimit + 1) = .ok chainEnd := rfl
  obtain ⟨steps, below, after⟩ :=
    OrReference.exists_after_of_follow atPointer?_parameters foundLater
  have notBelow : ¬ steps < stepLimit := by
    intro short
    have found := ((answered_parameter _).ends chainEnd).2 ⟨steps, short, after⟩
    rw [missing] at found
    cases found
  have exactly : steps = stepLimit := by omega
  exact ⟨exactly ▸ after, missing⟩

/-- One step less is short enough. -/
example : (chainDocument 7).parameter (chained 0) = .ok chainEnd := rfl

end Document

end TypedClient
