import Mathlib.Order.Interval.Finset.Nat
import TypedClient.Proofs.Script.Identifier
import TypedClient.Reference.Fresh

/-!
Contract: the search for a name that is not taken.

Owns:
- that different numbers make different names of one base;
- `WithDigits`, that a name is another one with nothing but digits behind it;
- that the search for the least number finds one, if the names it tries are different;
- what `fresh` returns: the base if it is free, else the least free number behind it.

Does not own: what the names are for.
-/

namespace TypedClient

/-- A name is another one with digits behind it, or with none. -/
def WithDigits (base name : String) : Prop :=
  ∃ digits : List Char, (∀ digit ∈ digits, digit.isDigit = true) ∧
    name.toList = base.toList ++ digits

protected theorem WithDigits.refl (name : String) : WithDigits name name :=
  ⟨[], by simp, (List.append_nil _).symm⟩

protected theorem WithDigits.trans {base name longer : String} (first : WithDigits base name)
    (second : WithDigits name longer) : WithDigits base longer := by
  obtain ⟨digits, areDigits, isName⟩ := first
  obtain ⟨more, moreDigits, isLonger⟩ := second
  exact ⟨digits ++ more, List.forall_mem_append.2 ⟨areDigits, moreDigits⟩,
    by rw [isLonger, isName, List.append_assoc]⟩

theorem withDigits_numbered (base : String) (number : Nat) :
    WithDigits base (numbered base number) :=
  ⟨(toString number).toList, fun _ => Script.isDigit_of_mem_toString, String.toList_append⟩

theorem numbered_injective (base : String) : Function.Injective (numbered base) := by
  intro first second same
  have characters := congrArg String.toList same
  simp only [numbered, String.toList_append] at characters
  have digits := List.append_cancel_left characters
  rw [Nat.toString_eq_repr, Nat.toString_eq_repr, Nat.toList_repr, Nat.toList_repr] at digits
  rw [← Nat.ofDigitChars_ten_toDigits (n := first), digits, Nat.ofDigitChars_ten_toDigits]

/-- A number found by the search is the least one from two on that makes the name free. -/
theorem leastNumber?_spec {isFree : String → Bool} {base : String} {bound number : Nat}
    (found : leastNumber? isFree base bound = some number) :
    2 ≤ number ∧ isFree (numbered base number) = true ∧
      ∀ smaller, 2 ≤ smaller → smaller < number → isFree (numbered base smaller) = false := by
  unfold leastNumber? at found
  rw [List.find?_range'_eq_some, List.mem_range'_1] at found
  obtain ⟨free, ⟨from2, _⟩, least⟩ := found
  exact ⟨from2, free, fun smaller isFrom2 below => by simpa using least smaller isFrom2 below⟩

/-- One number more than there are names is enough, whatever is made of the numbered names, if
different numbers still make different names. -/
theorem exists_leastNumber (taken : List String) {base : String} (name : String → String)
    (distinct : Function.Injective (fun number => name (numbered base number))) :
    ∃ number, leastNumber? (fun candidate => !taken.contains (name candidate)) base
      (taken.length + 1) = some number := by
  by_contra notFound
  have exhausted : leastNumber? (fun candidate => !taken.contains (name candidate)) base
      (taken.length + 1) = none := by
    rw [Option.eq_none_iff_forall_ne_some]
    exact fun number found => notFound ⟨number, found⟩
  unfold leastNumber? at exhausted
  rw [List.find?_range'_eq_none] at exhausted
  have allTaken : ∀ number ∈ Finset.Ico 2 (2 + (taken.length + 1)),
      name (numbered base number) ∈ taken.toFinset := by
    intro number within
    rw [Finset.mem_Ico] at within
    have occupied := exhausted number within.1 within.2
    rw [List.mem_toFinset]
    simpa using occupied
  have few := Finset.card_le_card_of_injOn _ allTaken distinct.injOn
  rw [Nat.card_Ico] at few
  have bounded := List.toFinset_card_le taken
  omega

theorem fresh_of_not_mem {taken : List String} {base : String} (free : base ∉ taken) :
    fresh taken base = base := by
  unfold fresh
  rw [if_neg (by simpa using free)]

/-- A base that is taken gets the least number from two on that makes it free. -/
theorem fresh_of_mem {taken : List String} {base : String} (isTaken : base ∈ taken) :
    ∃ number, 2 ≤ number ∧ fresh taken base = numbered base number ∧
      numbered base number ∉ taken ∧
      ∀ smaller, 2 ≤ smaller → smaller < number → numbered base smaller ∈ taken := by
  obtain ⟨number, found⟩ := exists_leastNumber taken id (numbered_injective base)
  obtain ⟨from2, free, least⟩ := leastNumber?_spec found
  refine ⟨number, from2, ?_, by simpa using free, ?_⟩
  · unfold fresh
    simp only [id_eq] at found
    rw [if_pos (by simpa using isTaken), found]
  · intro smaller isFrom2 below
    simpa using least smaller isFrom2 below

theorem withDigits_fresh (taken : List String) (base : String) :
    WithDigits base (fresh taken base) := by
  by_cases isTaken : base ∈ taken
  · obtain ⟨number, _, isNumbered, _⟩ := fresh_of_mem isTaken
    rw [isNumbered]
    exact withDigits_numbered base number
  · rw [fresh_of_not_mem isTaken]
    exact WithDigits.refl base

theorem fresh_not_mem (taken : List String) (base : String) : fresh taken base ∉ taken := by
  by_cases isTaken : base ∈ taken
  · obtain ⟨number, _, isNumbered, free, _⟩ := fresh_of_mem isTaken
    rw [isNumbered]
    exact free
  · rw [fresh_of_not_mem isTaken]
    exact isTaken

end TypedClient
