import TypedClient.Proofs.Endpoint.PathParameters
import TypedClient.Proofs.Script.ValidIdentifier

/-!
Contract: which names of path parameters lead to which identifiers.

Owns:
- `Script.joined`, the words of a name put together;
- `Extraction.settled`, what becomes of such a text, and that it stays when this is done again;
- that two names lead to one identifier exactly if their words do, or if one of them is written as
  the identifier of the other;
- that the identifier is a word that can name a variable, and never a reserved word or the name of
  another argument.

Does not own: the other names that generated code uses.
-/

namespace TypedClient

open Script (isReserved reservedWords guardDigit guardReserved nameWords identifier)

/-- The words of a name put together, all but the first in upper case at their start. -/
def Script.joined (name : String) : List Char :=
  match nameWords name.toList with
  | [] => []
  | first :: rest => first ++ rest.flatMap Text.capitalized

theorem Script.identifier_eq (name : String) :
    (identifier name).toList = if joined name = [] then "_empty".toList
      else guardReserved (guardDigit (joined name)) := by
  unfold identifier joined
  cases words : nameWords name.toList with
  | nil => rfl
  | cons first rest =>
      have isName : IsName first := isName_of_mem_nameWords (words ▸ List.mem_cons_self)
      have nonempty : first ++ rest.flatMap Text.capitalized ≠ [] := by
        simp [isName.nonempty]
      rw [String.toList_ofList]
      exact (if_neg nonempty).symm

namespace Extraction

/-- Whether a text gets an underscore in front. -/
def isGuarded (text : List Char) : Bool := text.head?.any Char.isDigit || isReserved text

/-- What the words of a name, put together, become as the identifier of a path parameter. -/
def settled (text : List Char) : List Char :=
  if text = [] then "_empty".toList
  else if isGuarded text then '_' :: text
  else if text ∈ argumentNames.map String.toList then text ++ "Param".toList
  else text

/-- What a text was before it was settled, if that changed it. -/
def unsettled : List Char → List Char
  | '_' :: rest => if rest = "empty".toList then [] else rest
  | text => text.take (text.length - "Param".length)

theorem mem_map_toList {words : List String} {text : List Char} :
    text ∈ words.map String.toList ↔ String.ofList text ∈ words := by
  constructor
  · intro member
    obtain ⟨word, isWord, rfl⟩ := List.mem_map.1 member
    rwa [String.ofList_toList]
  · intro member
    exact List.mem_map.2 ⟨_, member, String.toList_ofList⟩

theorem isReserved_iff {text : List Char} :
    isReserved text = true ↔ text ∈ reservedWords.map String.toList := by
  rw [mem_map_toList, isReserved, List.contains_iff_mem]

theorem not_isGuarded_underscore (text : List Char) : isGuarded ('_' :: text) = false := by
  have notReserved : isReserved ('_' :: text) = false := by
    rw [Bool.eq_false_iff, ne_eq, isReserved_iff]
    intro member
    have heads := List.mem_map_of_mem (f := List.head?) member
    exact absurd heads (by rw [List.head?_cons]; decide)
  rw [isGuarded, notReserved]
  rfl

theorem underscore_not_mem (text : List Char) :
    '_' :: text ∉ argumentNames.map String.toList := by
  intro member
  have heads := List.mem_map_of_mem (f := List.head?) member
  exact absurd heads (by rw [List.head?_cons]; decide)

theorem settled_underscore (text : List Char) : settled ('_' :: text) = '_' :: text := by
  rw [settled, if_neg (by simp), if_neg (by simp [not_isGuarded_underscore]),
    if_neg (underscore_not_mem text)]

theorem toList_identifier (name : String) :
    (identifier name).toList = if Script.joined name = [] then "_empty".toList
      else if isGuarded (Script.joined name) then '_' :: Script.joined name
      else Script.joined name := by
  rw [Script.identifier_eq]
  split
  · rfl
  · rename_i nonempty
    obtain ⟨first, rest, isJoined⟩ := List.exists_cons_of_ne_nil nonempty
    rw [isJoined, guardDigit, isGuarded, List.head?_cons, Option.any_some]
    cases isDigit : first.isDigit with
    | true =>
        have notReserved := not_isGuarded_underscore (first :: rest)
        rw [isGuarded, Bool.or_eq_false_iff] at notReserved
        rw [if_pos rfl, guardReserved, notReserved.2]
        rfl
    | false => rfl

/-- The identifier of a path parameter depends on the words of its name put together alone. -/
theorem toList_pathIdentifier (name : String) :
    (pathIdentifier name).toList = settled (Script.joined name) := by
  have apart : (pathIdentifier name).toList =
      if (identifier name).toList ∈ argumentNames.map String.toList
        then (identifier name).toList ++ "Param".toList else (identifier name).toList := by
    simp only [pathIdentifier, mem_map_toList, String.ofList_toList, List.contains_iff_mem]
    split
    · exact String.toList_append
    · rfl
  rw [apart, toList_identifier, settled]
  by_cases empty : Script.joined name = []
  · rw [if_pos empty, if_pos empty]
    exact if_neg (underscore_not_mem _)
  · rw [if_neg empty, if_neg empty]
    by_cases guarded : isGuarded (Script.joined name) = true
    · rw [if_pos guarded, if_pos guarded]
      exact if_neg (underscore_not_mem _)
    · rw [if_neg guarded, if_neg guarded]

/-! ## Texts that become the same -/

theorem settled_cases (text : List Char) :
    settled text = text ∨ (text = [] ∧ settled text = "_empty".toList) ∨
      (isGuarded text = true ∧ settled text = '_' :: text) ∨
      (text ∈ argumentNames.map String.toList ∧ settled text = text ++ "Param".toList) := by
  unfold settled
  split
  · rename_i isEmpty
    exact Or.inr (Or.inl ⟨isEmpty, rfl⟩)
  · split
    · rename_i guarded
      exact Or.inr (Or.inr (Or.inl ⟨guarded, rfl⟩))
    · split
      · rename_i taken
        exact Or.inr (Or.inr (Or.inr ⟨taken, rfl⟩))
      · exact Or.inl rfl

theorem settled_settled (text : List Char) : settled (settled text) = settled text := by
  have ofArguments : ∀ text ∈ argumentNames.map String.toList,
      settled (text ++ "Param".toList) = text ++ "Param".toList := by decide
  rcases settled_cases text with kept | ⟨_, empty⟩ | ⟨_, guarded⟩ | ⟨taken, renamed⟩
  · rw [kept, kept]
  · rw [empty]
    exact settled_underscore _
  · rw [guarded]
    exact settled_underscore _
  · rw [renamed]
    exact ofArguments text taken

theorem unsettled_settled {text : List Char} (changed : settled text ≠ text) :
    unsettled (settled text) = text := by
  have ofArguments : ∀ text ∈ argumentNames.map String.toList,
      unsettled (text ++ "Param".toList) = text := by decide
  have emptyFree : isGuarded "empty".toList = false := by decide
  rcases settled_cases text with kept | ⟨rfl, empty⟩ | ⟨isGuarded, guarded⟩ | ⟨taken, renamed⟩
  · exact absurd kept changed
  · rw [empty]
    rfl
  · rw [guarded, unsettled, if_neg]
    rintro rfl
    rw [emptyFree] at isGuarded
    cases isGuarded
  · rw [renamed]
    exact ofArguments text taken

/-- Two texts become the same exactly if they are the same, or if one of them is what the other one
becomes. -/
theorem settled_eq_iff {first second : List Char} :
    settled first = settled second ↔
      first = second ∨ second = settled first ∨ first = settled second := by
  constructor
  · intro same
    by_cases firstKept : settled first = first
    · exact Or.inr (Or.inr (firstKept.symm.trans same))
    · by_cases secondKept : settled second = second
      · exact Or.inr (Or.inl (secondKept.symm.trans same.symm))
      · left
        rw [← unsettled_settled firstKept, same, unsettled_settled secondKept]
  · rintro (rfl | rfl | rfl)
    · rfl
    · exact (settled_settled first).symm
    · exact settled_settled second

/-- What a text never becomes: one that does not stay as it is. -/
theorem settled_ne {word : List Char} (changed : settled word ≠ word) (text : List Char) :
    settled text ≠ word := by
  rintro rfl
  exact changed (settled_settled text)

/-- No reserved word and no name of another argument is the identifier of a path parameter. -/
theorem pathIdentifier_not_mem (name : String) :
    pathIdentifier name ∉ reservedWords ++ argumentNames := by
  have changed : ∀ word ∈ reservedWords ++ argumentNames, settled word.toList ≠ word.toList := by
    decide
  intro member
  exact settled_ne (changed _ member) _ (toList_pathIdentifier name).symm

/-- What a path parameter is called by is an identifier. -/
theorem isIdentifier_pathIdentifier (name : String) :
    Script.IsIdentifier (pathIdentifier name).toList where
  isPlain := by
    have ofName := (Script.isIdentifier_identifier name).isPlain
    simp only [pathIdentifier]
    split
    · rw [String.toList_append]
      exact Script.isPlainName_append ofName (by decide)
    · exact ofName
  notReserved := by
    rw [Bool.eq_false_iff, ne_eq, isReserved_iff, mem_map_toList, String.ofList_toList]
    exact fun isReserved => pathIdentifier_not_mem name (List.mem_append_left _ isReserved)

end Extraction

end TypedClient
