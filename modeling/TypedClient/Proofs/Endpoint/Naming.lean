import TypedClient.Endpoint.Basic
import TypedClient.Proofs.Reference.FreshNames
import TypedClient.Proofs.Script.Identifier
import TypedClient.Source

/-!
Contract: of which characters the names of endpoints are made.

Owns:
- that the name of any path consists of letters and digits, and the qualifier of any address of
  characters of identifiers;
- that the name of any path is not empty, and stays so in all that is made of it;
- that a symbol stays a symbol with digits behind it.

Does not own: which names are taken.
-/

namespace TypedClient

open Script (InName IsName inName_append)

namespace Naming

theorem isAlphanum_of_mem_camelFrom {afterJoint : Bool} {text : List Char} :
    ∀ character ∈ camelFrom afterJoint text, character.isAlphanum = true := by
  induction text generalizing afterJoint with
  | nil => exact fun _ member => absurd member List.not_mem_nil
  | cons character rest inductionHypothesis =>
      have ofWritten : ∀ written : Char, ∀ kept ∈ (if written.isAlphanum = true then
          written :: camelFrom false rest else camelFrom false rest), kept.isAlphanum = true := by
        intro written
        split
        · rename_i isKept
          exact List.forall_mem_cons.2 ⟨isKept, inductionHypothesis⟩
        · exact inductionHypothesis
      rw [camelFrom]
      split
      · exact inductionHypothesis
      · exact ofWritten _

theorem isAlphanum_of_mem_ofPath (path : String) :
    ∀ character ∈ (ofPath path).toList, character.isAlphanum = true := by
  have inWords : ∀ character ∈ camelCase
      ((PathPiece.ofPath (withoutLeadingSlash path.toList)).flatMap pieceWords),
      character.isAlphanum = true := isAlphanum_of_mem_camelFrom
  unfold ofPath
  generalize camelCase _ = name at inWords
  cases name with
  | nil =>
      have letters : "root".toList.all Char.isAlphanum = true := by decide
      exact List.all_eq_true.1 letters
  | cons first rest =>
      change ∀ character ∈ (String.ofList (first :: rest)).toList, character.isAlphanum = true
      rwa [String.toList_ofList]

theorem inName_ofPath (path : String) : InName (ofPath path).toList :=
  fun character member =>
    Script.isNamePart_of_isAlphanum (isAlphanum_of_mem_ofPath path character member)

theorem inName_capital {name : String} (inName : InName name.toList) :
    InName (capital name).toList := by
  rw [capital, String.toList_ofList]
  exact Script.inName_capitalized inName

theorem inName_qualify {qualifier name : String} (qualified : InName qualifier.toList)
    (inName : InName name.toList) : InName (qualify qualifier name).toList := by
  unfold qualify
  split
  · exact inName
  · rw [String.toList_append]
    exact inName_append.2 ⟨qualified, inName_capital inName⟩

/-- The qualifier that an address suggests has no other characters than the names of types. -/
theorem inTypeName_qualifierOf (address : String) :
    Script.InTypeName (Source.qualifierOf address).toList := by
  unfold Source.qualifierOf
  split
  · rw [String.toList_ofList]
    exact fun character member =>
      Script.isTypeNamePart_of_isAlphanum (isAlphanum_of_mem_camelFrom character member)
  · exact fun character member => absurd member List.not_mem_nil

/-! ## Names that are not empty -/

theorem uppercase_ne_nil (character : Char) : Text.uppercase character ≠ [] := by
  have ofTable : ∀ entry ∈ Text.uppercaseExpansions, entry.2 ≠ [] := by decide
  simp only [Text.uppercase]
  split
  · simp
  · split
    · rename_i entry found
      simpa using ofTable entry (List.mem_of_find?_eq_some found)
    · split <;> simp

theorem capital_ne_empty {name : String} (nonempty : name ≠ "") : capital name ≠ "" := by
  intro isEmpty
  have characters := congrArg String.toList isEmpty
  rw [capital, String.toList_ofList] at characters
  cases isName : name.toList with
  | nil => exact nonempty (String.toList_eq_nil_iff.1 isName)
  | cons first rest =>
      rw [isName, Text.capitalized] at characters
      exact uppercase_ne_nil first (List.append_eq_nil_iff.1 characters).1

theorem ofPath_ne_empty (path : String) : ofPath path ≠ "" := by
  unfold ofPath
  split
  · decide
  · rename_i name nonempty
    intro isEmpty
    exact nonempty (by simpa using congrArg String.toList isEmpty)

theorem qualify_ne_empty (qualifier : String) {name : String} (nonempty : name ≠ "") :
    qualify qualifier name ≠ "" := by
  unfold qualify
  split
  · exact nonempty
  · intro isEmpty
    exact capital_ne_empty nonempty (String.append_eq_empty_iff.1 isEmpty).2

theorem isName_capital {name : String} (isName : IsName name.toList) :
    IsName (capital name).toList where
  nonempty := by
    have named : name ≠ "" := fun isEmpty => isName.nonempty (String.toList_eq_nil_iff.2 isEmpty)
    exact fun isEmpty => capital_ne_empty named (String.toList_eq_nil_iff.1 isEmpty)
  inName := inName_capital isName.inName

/-- The name of a path is a name under any qualifier. -/
theorem isName_qualify_ofPath {qualifier : String} (qualified : InName qualifier.toList)
    (path : String) : IsName (qualify qualifier (ofPath path)).toList where
  nonempty := by
    have nonempty := qualify_ne_empty qualifier (ofPath_ne_empty path)
    exact fun isEmpty => nonempty (String.toList_eq_nil_iff.1 isEmpty)
  inName := inName_qualify qualified (inName_ofPath path)

end Naming

/-- The name of a request function starts as its method does. -/
theorem Endpoint.head?_functionName (endpoint : Endpoint) :
    endpoint.functionName.toList.head? = endpoint.method.key.toList.head? := by
  have nonempty : endpoint.method.key.toList ≠ [] := by
    cases endpoint.method <;> decide
  rw [functionName, Naming.functionName, String.toList_append,
    List.head?_append_of_ne_nil _ nonempty]

/-! ## Names with digits behind them -/

namespace WithDigits

variable {base name : String}

theorem inName (withDigits : WithDigits base name) (inName : InName base.toList) :
    InName name.toList := by
  obtain ⟨digits, areDigits, isName⟩ := withDigits
  rw [isName]
  exact inName_append.2 ⟨inName, Script.inName_of_digits areDigits⟩

theorem isName (withDigits : WithDigits base name) (isName : Script.IsName base.toList) :
    Script.IsName name.toList := by
  obtain ⟨digits, areDigits, isWhole⟩ := withDigits
  rw [isWhole]
  exact isName.append (Script.inName_of_digits areDigits)

theorem isSymbol (withDigits : WithDigits base name) (isSymbol : Script.IsSymbol base.toList) :
    Script.IsSymbol name.toList := by
  obtain ⟨digits, areDigits, isName⟩ := withDigits
  rw [isName]
  exact isSymbol.append (Script.inName_of_digits areDigits)

theorem inTypeName (withDigits : WithDigits base name)
    (inTypeName : Script.InTypeName base.toList) : Script.InTypeName name.toList := by
  obtain ⟨digits, areDigits, isName⟩ := withDigits
  rw [isName]
  exact List.forall_mem_append.2 ⟨inTypeName, fun digit member =>
    Script.isTypeNamePart_of_isAlphanum (Script.isAlphanum_of_isDigit (areDigits digit member))⟩

theorem notDigit_iff (withDigits : WithDigits base name) (nonempty : base.toList ≠ []) :
    Script.NotDigit name.toList ↔ Script.NotDigit base.toList := by
  obtain ⟨digits, _, isName⟩ := withDigits
  rw [isName]
  exact Script.notDigit_append nonempty digits

end WithDigits

end TypedClient
