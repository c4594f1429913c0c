import Mathlib.Data.List.Basic
import TypedClient.Proofs.Script.Identifier

/-!
Contract: which texts are identifiers, and that every name is made one.

Owns:
- `IsIdentifier`, a plain name that is not reserved;
- when some characters behind an opening make an identifier;
- that the identifier of any name is one, and that exactly the names that are identifiers stay as
  they are.

Does not own: that the identifiers of different names differ.
-/

namespace TypedClient.Script

open TypedClient.Text

/-- A text that can stand as an identifier: it starts with a letter, an underscore or a dollar sign,
goes on with these or digits, and is not reserved. -/
structure IsIdentifier (text : List Char) : Prop where
  isPlain : isPlainName text = true
  notReserved : isReserved text = false

instance (text : List Char) : Decidable (IsIdentifier text) :=
  decidable_of_iff (isPlainName text = true ∧ isReserved text = false)
    ⟨fun ⟨isPlain, notReserved⟩ => ⟨isPlain, notReserved⟩,
      fun valid => ⟨valid.isPlain, valid.notReserved⟩⟩

theorem IsIdentifier.isName {text : List Char} (valid : IsIdentifier text) : IsName text :=
  isName_of_isPlainName valid.isPlain

/-! ## Openings -/

/-- An opening that can start an identifier, and that no reserved word goes on from. -/
structure IsOpening (opening : List Char) : Prop where
  isPlain : isPlainName opening = true
  unreserved : ∀ word ∈ reservedWords, opening <+: word.toList → word.toList = opening

/-- What goes on from an opening is an identifier. -/
theorem IsOpening.append {opening : List Char} (isOpening : IsOpening opening) {rest : List Char}
    (isName : IsName rest) : IsIdentifier (opening ++ rest) where
  isPlain := isPlainName_append isOpening.isPlain isName.inName
  notReserved := by
    rw [Bool.eq_false_iff]
    intro reserved
    have isWord := List.contains_iff_mem.1 reserved
    have starts : opening <+: (String.ofList (opening ++ rest)).toList := by
      rw [String.toList_ofList]
      exact List.prefix_append _ _
    have whole := isOpening.unreserved _ isWord starts
    rw [String.toList_ofList] at whole
    exact isName.nonempty (List.append_right_eq_self.1 whole)

/-! ## The identifier of a name -/

theorem isNameStart_of_isNamePart {character : Char} (inName : isNamePart character = true)
    (notDigit : ¬ character.isDigit = true) : isNameStart character = true := by
  simp only [isNamePart, isNameStart, Char.isAlphanum, Bool.or_eq_true] at inName ⊢
  tauto

theorem isPlainName_guardDigit {text : List Char} (isName : IsName text) :
    isPlainName (guardDigit text) = true := by
  obtain ⟨first, rest, rfl⟩ := List.exists_cons_of_ne_nil isName.nonempty
  simp only [guardDigit]
  split
  · exact isPlainName_cons rfl isName.inName
  · rename_i notDigit
    have inName := inName_cons.1 isName.inName
    exact isPlainName_cons (isNameStart_of_isNamePart inName.1 notDigit) inName.2

/-- No reserved word starts with an underscore, so that one in front is enough. -/
theorem isIdentifier_guardReserved {word : List Char} (isPlain : isPlainName word = true) :
    IsIdentifier (guardReserved word) := by
  unfold guardReserved
  split
  · have underscored : IsOpening ['_'] := ⟨rfl, by decide⟩
    exact underscored.append (isName_of_isPlainName isPlain)
  · rename_i free
    exact ⟨isPlain, Bool.eq_false_iff.2 free⟩

theorem guardDigit_of_isPlainName {text : List Char} (isPlain : isPlainName text = true) :
    guardDigit text = text := by
  cases text with
  | nil => rfl
  | cons first rest =>
      rw [isPlainName, Bool.and_eq_true] at isPlain
      rw [guardDigit, if_neg]
      intro isDigit
      rw [isNameStart_of_isDigit isDigit] at isPlain
      cases isPlain.1

theorem not_isWordBreak_of_isNamePart {character : Char} (inName : isNamePart character = true) :
    isWordBreak character = false := by
  rw [Bool.eq_false_iff]
  intro breaks
  simp only [isWordBreak, Bool.or_eq_true, decide_eq_true_eq] at breaks
  rcases breaks with (rfl | rfl) | rfl <;> exact absurd inName (by decide)

/-- A name of characters of identifiers is a single word. -/
theorem nameWords_of_isName {name : List Char} (isName : IsName name) : nameWords name = [name] := by
  have whole : splitWhere isWordBreak name = [name] :=
    splitWhere_of_plain (fun character member =>
      not_isWordBreak_of_isNamePart (isName.inName character member))
  have kept : name.filter isNamePart = name := List.filter_eq_self.2 isName.inName
  have isWord : (!name.isEmpty) = true := by simpa using isName.nonempty
  rw [nameWords, whole, List.map_singleton, kept, List.filter_singleton, isWord]
  rfl

theorem isIdentifier_identifier (name : String) : IsIdentifier (identifier name).toList := by
  unfold identifier
  cases words : nameWords name.toList with
  | nil =>
      change IsIdentifier "_empty".toList
      decide
  | cons first rest =>
      have areNames : ∀ word ∈ first :: rest, IsName word :=
        words ▸ fun word member => isName_of_mem_nameWords member
      rw [List.forall_mem_cons] at areNames
      have joined : IsName (first ++ rest.flatMap capitalized) :=
        areNames.1.append
          (inName_flatMap_capitalized (fun word member => (areNames.2 word member).inName))
      rw [String.toList_ofList]
      exact isIdentifier_guardReserved (isPlainName_guardDigit joined)

theorem identifier_of_isIdentifier {name : String} (valid : IsIdentifier name.toList) :
    identifier name = name := by
  have alone : identifier name =
      String.ofList (guardReserved (guardDigit (name.toList ++ [].flatMap capitalized))) := by
    rw [identifier, nameWords_of_isName valid.isName]
  rw [alone, List.flatMap_nil, List.append_nil, guardDigit_of_isPlainName valid.isPlain,
    guardReserved, if_neg (Bool.eq_false_iff.1 valid.notReserved), String.ofList_toList]

/-- **Every name is made an identifier, and an identifier stays as it is.** The identifier of any
name is one; a name is its own identifier exactly if it is one already, and so taking the identifier
again changes nothing. -/
theorem identifiers_valid_and_stable (name : String) :
    IsIdentifier (identifier name).toList ∧
      (identifier name = name ↔ IsIdentifier name.toList) ∧
      identifier (identifier name) = identifier name := by
  have valid := isIdentifier_identifier name
  refine ⟨valid, ⟨fun kept => ?_, identifier_of_isIdentifier⟩, identifier_of_isIdentifier valid⟩
  rwa [kept] at valid

-- A reserved word that is put together from several parts is kept apart as well.
example : identifier "--delete" = "_delete" := by decide

end TypedClient.Script
