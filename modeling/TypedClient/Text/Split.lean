/-!
Contract: cutting text into parts, and replacing in it.

Owns:
- `splitWhere`, the parts of a text between the characters of a set;
- what stands in parts that are put together again;
- `replacePair`, a text with each pair of two given neighbours replaced.

Does not own: any particular separator or escape.
-/

namespace TypedClient.Text

/-- The parts of a text between its separators; neighbouring separators have an empty part between
them. -/
def splitWhere (isSeparator : Char → Bool) : List Char → List (List Char)
  | [] => [[]]
  | character :: rest =>
      if isSeparator character then [] :: splitWhere isSeparator rest
      else
        match splitWhere isSeparator rest with
        | [] => [[character]]
        | part :: parts => (character :: part) :: parts

/-- The text with each occurrence of two given neighbours replaced, from the left. -/
def replacePair (first second : Char) (replacement : List Char) : List Char → List Char
  | [] => []
  | [character] => [character]
  | character :: next :: rest =>
      if character = first ∧ next = second then
        replacement ++ replacePair first second replacement rest
      else character :: replacePair first second replacement (next :: rest)

/-- A character that opens no pair stays in front of what becomes of the rest. -/
theorem replacePair_cons_of_ne {first second character : Char} {replacement : List Char}
    (different : character ≠ first) (rest : List Char) :
    replacePair first second replacement (character :: rest) =
      character :: replacePair first second replacement rest := by
  cases rest with
  | nil => rfl
  | cons next more => rw [replacePair, if_neg (fun same => different same.1)]

theorem splitWhere_ne_nil (isSeparator : Char → Bool) (text : List Char) :
    splitWhere isSeparator text ≠ [] := by
  cases text with
  | nil => simp [splitWhere]
  | cons character rest =>
      simp only [splitWhere]
      split
      · simp
      · split <;> simp

/-- No part holds a separator. -/
theorem not_isSeparator_of_mem_splitWhere {isSeparator : Char → Bool} {text part : List Char}
    (member : part ∈ splitWhere isSeparator text) :
    ∀ character ∈ part, isSeparator character = false := by
  induction text generalizing part with
  | nil =>
      simp only [splitWhere, List.mem_singleton] at member
      simp [member]
  | cons character rest inductionHypothesis =>
      simp only [splitWhere] at member
      split at member
      · rcases List.mem_cons.1 member with rfl | later
        · simp
        · exact inductionHypothesis later
      · rename_i plain
        split at member
        · rename_i empty
          exact absurd empty (splitWhere_ne_nil isSeparator rest)
        · rename_i head parts equation
          rcases List.mem_cons.1 member with rfl | later
          · intro other otherMember
            rcases List.mem_cons.1 otherMember with rfl | inHead
            · simpa using plain
            · exact inductionHypothesis (by simp [equation]) other inHead
          · exact inductionHypothesis (by simp [equation, later])

/-- The parts on the two sides of a separator are split on their own. -/
theorem splitWhere_append_separator {isSeparator : Char → Bool} {separator : Char}
    (separates : isSeparator separator = true) (before after : List Char) :
    splitWhere isSeparator (before ++ separator :: after) =
      splitWhere isSeparator before ++ splitWhere isSeparator after := by
  induction before with
  | nil => simp [splitWhere, separates]
  | cons character rest inductionHypothesis =>
      rw [List.cons_append, splitWhere, splitWhere, inductionHypothesis]
      split
      · rfl
      · cases parts : splitWhere isSeparator rest with
        | nil => exact absurd parts (splitWhere_ne_nil isSeparator rest)
        | cons part parts => rfl

theorem splitWhere_of_plain {isSeparator : Char → Bool} {text : List Char}
    (plain : ∀ character ∈ text, isSeparator character = false) :
    splitWhere isSeparator text = [text] := by
  induction text with
  | nil => rfl
  | cons character rest inductionHypothesis =>
      rw [List.forall_mem_cons] at plain
      rw [splitWhere, plain.1, inductionHypothesis plain.2]
      rfl

section Parts

variable {α : Type} {item between : α} {part : List α} {parts : List (List α)}

/-- An item of a row stands in one of its parts, or between them. -/
theorem mem_intercalate (member : item ∈ [between].intercalate parts) :
    item = between ∨ ∃ part ∈ parts, item ∈ part := by
  induction parts with
  | nil => exact absurd member List.not_mem_nil
  | cons part rest inductionHypothesis =>
      by_cases alone : rest = []
      · subst alone
        rw [List.intercalate_singleton] at member
        exact Or.inr ⟨part, List.mem_cons_self, member⟩
      · rw [List.intercalate_cons_of_ne_nil alone, List.append_assoc, List.mem_append,
          List.singleton_append, List.mem_cons] at member
        rcases member with here | isBetween | later
        · exact Or.inr ⟨part, List.mem_cons_self, here⟩
        · exact Or.inl isBetween
        · refine (inductionHypothesis later).imp_right ?_
          exact fun ⟨found, isPart, inside⟩ => ⟨found, List.mem_cons_of_mem _ isPart, inside⟩

theorem mem_intercalate_of_mem (isPart : part ∈ parts) (member : item ∈ part) :
    item ∈ [between].intercalate parts := by
  induction parts with
  | nil => exact absurd isPart List.not_mem_nil
  | cons first rest inductionHypothesis =>
      by_cases alone : rest = []
      · subst alone
        rw [List.intercalate_singleton, ← List.mem_singleton.1 isPart]
        exact member
      · rw [List.intercalate_cons_of_ne_nil alone, List.append_assoc, List.mem_append]
        rcases List.mem_cons.1 isPart with rfl | later
        · exact Or.inl member
        · exact Or.inr (List.mem_append_right _ (inductionHypothesis later))

end Parts

end TypedClient.Text
