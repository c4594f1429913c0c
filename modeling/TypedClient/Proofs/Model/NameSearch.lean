import Mathlib.Order.Bounds.Basic
import TypedClient.Proofs.Model.Placement

/-!
Contract: the search for a free name, as counting that no bound stops.

Owns:
- `CountsTo`, that counting on one by one ends at the first number that passes a test;
- how far counting can get, given how many names are taken;
- that the names of declarations and of endpoints are the ones at which counting ends, and that
  adding an endpoint takes exactly one more name.

Does not own: which names are taken.
-/

namespace TypedClient

/-- Counting on from a number, one by one, ends at the first number that passes a test. Nothing is
said about numbers beyond it, and a test that no number passes has no end. -/
inductive CountsTo (passes : Nat → Prop) : Nat → Nat → Prop
  | stop {number : Nat} (passed : passes number) : CountsTo passes number number
  | goOn {number result : Nat} (failed : ¬ passes number)
      (later : CountsTo passes (number + 1) result) : CountsTo passes number result

namespace CountsTo

variable {passes : Nat → Prop} {start result : Nat}

theorem isLeast (counts : CountsTo passes start result) :
    IsLeast {number | start ≤ number ∧ passes number} result := by
  induction counts with
  | stop passed => exact ⟨⟨Nat.le_refl _, passed⟩, fun number within => within.1⟩
  | @goOn start result failed later inductionHypothesis =>
      obtain ⟨⟨above, passed⟩, least⟩ := inductionHypothesis
      refine ⟨⟨by omega, passed⟩, fun number within => least ⟨?_, within.2⟩⟩
      have different : number ≠ start := by
        rintro rfl
        exact failed within.2
      have atLeast : start ≤ number := within.1
      show start + 1 ≤ number
      omega

/-- Counting ends wherever there is a least number. -/
theorem of_isLeast (least : IsLeast {number | start ≤ number ∧ passes number} result) :
    CountsTo passes start result := by
  obtain ⟨⟨above, passed⟩, lower⟩ := least
  -- The induction is on the numbers that are left to try.
  induction remaining : result - start generalizing start with
  | zero =>
      have same : start = result := by omega
      rw [same]
      exact stop passed
  | succ count inductionHypothesis =>
      have failed : ¬ passes start := by
        intro passedHere
        have least : result ≤ start := lower ⟨Nat.le_refl start, passedHere⟩
        omega
      have different : result ≠ start := by
        rintro rfl
        exact failed passed
      apply goOn failed
      apply inductionHypothesis
      · intro number within
        have further : start + 1 ≤ number := within.1
        exact lower ⟨by omega, within.2⟩
      · omega
      · omega

end CountsTo

/-! ## How far counting can get -/

/-- Each number that is passed over has a name of its own that is taken. -/
theorem le_card_add_two {taken : Finset String} {name : Nat → String}
    (distinct : Function.Injective name) {number : Nat}
    (occupied : ∀ smaller, 2 ≤ smaller → smaller < number → name smaller ∈ taken) :
    number ≤ taken.card + 2 := by
  have within : ∀ smaller ∈ Finset.Ico 2 number, name smaller ∈ taken := by
    intro smaller member
    rw [Finset.mem_Ico] at member
    exact occupied smaller member.1 member.2
  have few := Finset.card_le_card_of_injOn name within distinct.injOn
  rw [Nat.card_Ico] at few
  omega

theorem numbered_ne (base : String) (number : Nat) : numbered base number ≠ base := by
  intro same
  have characters := congrArg String.toList same
  rw [numbered, String.toList_append, List.append_right_eq_self, Nat.toString_eq_repr,
    Nat.toList_repr] at characters
  exact Nat.toDigits_ne_nil characters

/-- The base is taken itself, and is none of the names with a number. -/
theorem le_card_add_one {taken : Finset String} {base : String} (isTaken : base ∈ taken)
    {number : Nat}
    (occupied : ∀ smaller, 2 ≤ smaller → smaller < number → numbered base smaller ∈ taken) :
    number ≤ taken.card + 1 := by
  have others : ∀ smaller, 2 ≤ smaller → smaller < number →
      numbered base smaller ∈ taken.erase base := by
    intro smaller from2 below
    exact Finset.mem_erase.2 ⟨numbered_ne base smaller, occupied smaller from2 below⟩
  have bounded := le_card_add_two (numbered_injective base) others
  have one := Finset.card_erase_add_one isTaken
  omega

/-! ## Names of declarations and endpoints -/

/-- What the search for a free number behind a name comes to: the number at which counting from two
on ends, which is the least free one, and no greater than some bound. -/
structure Finds (isFree : Nat → Prop) (bound number : Nat) : Prop where
  counts : CountsTo isFree 2 number
  isLeast : IsLeast {number | 2 ≤ number ∧ isFree number} number
  bounded : number ≤ bound

theorem Finds.of_least {isFree : Nat → Prop} {bound number : Nat} (from2 : 2 ≤ number)
    (free : isFree number) (least : ∀ smaller, 2 ≤ smaller → smaller < number → ¬ isFree smaller)
    (bounded : number ≤ bound) : Finds isFree bound number := by
  have isLeast : IsLeast {number | 2 ≤ number ∧ isFree number} number := by
    refine ⟨⟨from2, free⟩, fun other within => ?_⟩
    by_contra below
    exact least other within.1 (Nat.lt_of_not_le below) within.2
  exact ⟨.of_isLeast isLeast, isLeast, bounded⟩

/-- A name that is taken gets the first free number behind it. -/
theorem fresh_finds {taken : List String} {base : String} (isTaken : base ∈ taken) :
    ∃ number, Finds (fun number => numbered base number ∉ taken) (taken.toFinset.card + 1) number ∧
      fresh taken base = numbered base number := by
  obtain ⟨number, from2, isNumbered, free, least⟩ := fresh_of_mem isTaken
  refine ⟨number, ?_, isNumbered⟩
  apply Finds.of_least from2 free
  · intro smaller isFrom2 below
    exact not_not.2 (least smaller isFrom2 below)
  · apply le_card_add_one (List.mem_toFinset.2 isTaken)
    intro smaller isFrom2 below
    exact List.mem_toFinset.2 (least smaller isFrom2 below)

namespace Model

/-- The stem of the types of an endpoint with a number behind its camel name. -/
def numberedStem (endpoint : Endpoint) (number : Nat) : String :=
  (endpoint.withName (numbered endpoint.camelName number)).typeName

/-- Different numbers make different stems, also through the capital in the middle. -/
theorem numberedStem_injective (endpoint : Endpoint) :
    Function.Injective (numberedStem endpoint) := by
  intro first second same
  have stems : numbered (Naming.typeName endpoint.method.key endpoint.camelName) first =
      numbered (Naming.typeName endpoint.method.key endpoint.camelName) second := by
    rw [← Naming.typeName_numbered, ← Naming.typeName_numbered]
    exact same
  exact numbered_injective _ stems

/-- An endpoint whose stem is taken gets the first number that makes it free. -/
theorem uniqueEndpoint_finds {taken : List String} {endpoint : Endpoint}
    (isTaken : endpoint.typeName ∈ taken) :
    ∃ number, Finds (fun number => numberedStem endpoint number ∉ taken)
        (taken.toFinset.card + 2) number ∧
      uniqueEndpoint taken endpoint = endpoint.withName (numbered endpoint.camelName number) := by
  obtain ⟨free, _⟩ | ⟨_, number, from2, renamed, free, least⟩ := placed_uniqueEndpoint taken endpoint
  · exact absurd isTaken free
  · rw [renamed] at free
    refine ⟨number, ?_, renamed⟩
    apply Finds.of_least from2 free
    · intro smaller isFrom2 below
      exact not_not.2 (least smaller isFrom2 below)
    · apply le_card_add_two (numberedStem_injective endpoint)
      intro smaller isFrom2 below
      exact List.mem_toFinset.2 (least smaller isFrom2 below)

/-- **The search for a free name always ends, at the first one.** A name that is free is kept; one
that is taken gets the number at which counting from two on ends, the least that makes it free. An
endpoint keeps its name if the stem of its types is free, and otherwise gets the number at which
counting ends behind its camel name; adding it takes exactly one stem more, its own. Counting never
gets further than the number of names that are taken, by one for a declaration and by two for an
endpoint. -/
theorem search_ends_at_first_free :
    (∀ (taken : List String) (base : String),
      (base ∉ taken ∧ fresh taken base = base) ∨
      (base ∈ taken ∧ ∃ number,
        Finds (fun number => numbered base number ∉ taken) (taken.toFinset.card + 1) number ∧
          fresh taken base = numbered base number)) ∧
    ∀ (state : Merging) (endpoint : Endpoint), ∃ unique : Endpoint,
      (withEndpoint state endpoint).model.endpoints = state.model.endpoints ++ [unique] ∧
      (withEndpoint state endpoint).typeNames = unique.typeName :: state.typeNames ∧
      unique.typeName ∉ state.typeNames ∧
      ((endpoint.typeName ∉ state.typeNames ∧ unique = endpoint) ∨
        (endpoint.typeName ∈ state.typeNames ∧ ∃ number,
          Finds (fun number => numberedStem endpoint number ∉ state.typeNames)
              (state.typeNames.toFinset.card + 2) number ∧
            unique = endpoint.withName (numbered endpoint.camelName number))) := by
  constructor
  · intro taken base
    by_cases isTaken : base ∈ taken
    · exact Or.inr ⟨isTaken, fresh_finds isTaken⟩
    · exact Or.inl ⟨isTaken, fresh_of_not_mem isTaken⟩
  · intro state endpoint
    have placed := placed_uniqueEndpoint state.typeNames endpoint
    refine ⟨uniqueEndpoint state.typeNames endpoint, rfl, rfl, placed.not_mem, ?_⟩
    by_cases isTaken : endpoint.typeName ∈ state.typeNames
    · exact Or.inr ⟨isTaken, uniqueEndpoint_finds isTaken⟩
    · refine Or.inl ⟨isTaken, ?_⟩
      rw [uniqueEndpoint, if_neg (by simpa using isTaken)]

-- Numbers that are part of a name are left alone, and the first one in question may be free.
example : fresh ["Node2", "Node", "Node3"] "Node" = "Node4" ∧
    fresh ["Node2", "Node", "Node3"] "Node2" = "Node22" := by
  decide

end Model

end TypedClient
