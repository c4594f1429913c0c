import Mathlib.Tactic.Common
import TypedClient.Script.Identifier

/-!
Contract: of which characters identifiers are made.

Owns:
- that putting the first character in upper case leads from characters of identifiers to characters
  of identifiers;
- `IsName`, the texts that are made of such characters, and that the identifier of any name is among
  them;
- `IsSymbol`, those of them that do not start with a small letter, and that the name of any type is
  among them;
- `CanNameType`, the texts that can name a type, and that the name of any type is among them.

Does not own: the names of parameters, which may be reserved.
-/

namespace TypedClient.Script

open TypedClient.Text

/-- All characters of a text may stand in identifiers. -/
def InName (text : List Char) : Prop := ∀ character ∈ text, isNamePart character = true

-- Named, since a search may settle the statement by a run over all characters there are.
instance (text : List Char) : Decidable (InName text) :=
  List.decidableBAll (fun character => isNamePart character = true) text

@[simp] theorem inName_nil : InName [] := fun _ member => absurd member List.not_mem_nil

@[simp] theorem inName_cons {character : Char} {rest : List Char} :
    InName (character :: rest) ↔ isNamePart character = true ∧ InName rest :=
  List.forall_mem_cons

@[simp] theorem inName_append {first second : List Char} :
    InName (first ++ second) ↔ InName first ∧ InName second :=
  List.forall_mem_append

/-- A text of characters that may stand in identifiers. -/
structure IsName (text : List Char) : Prop where
  nonempty : text ≠ []
  inName : InName text

theorem IsName.append {first second : List Char} (isName : IsName first) (inName : InName second) :
    IsName (first ++ second) :=
  ⟨by simp [isName.nonempty], inName_append.2 ⟨isName.inName, inName⟩⟩

theorem InName.append {first second : List Char} (inName : InName first) (isName : IsName second) :
    IsName (first ++ second) :=
  ⟨by simp [isName.nonempty], inName_append.2 ⟨inName, isName.inName⟩⟩

theorem isNamePart_of_isNameStart {character : Char} (isStart : isNameStart character = true) :
    isNamePart character = true := by
  simp only [isNameStart, isNamePart, Char.isAlphanum, Bool.or_eq_true] at isStart ⊢
  tauto

theorem isPlainName_cons {first : Char} {rest : List Char} (starts : isNameStart first = true)
    (inName : InName rest) : isPlainName (first :: rest) = true := by
  rw [isPlainName, starts, Bool.true_and, List.all_eq_true]
  exact inName

theorem isPlainName_append {first rest : List Char} (isPlain : isPlainName first = true)
    (inName : InName rest) : isPlainName (first ++ rest) = true := by
  cases first with
  | nil => cases isPlain
  | cons start later =>
      rw [isPlainName, Bool.and_eq_true, List.all_eq_true] at isPlain
      exact isPlainName_cons isPlain.1 (inName_append.2 ⟨isPlain.2, inName⟩)

theorem isName_of_isPlainName {name : List Char} (plain : isPlainName name = true) :
    IsName name := by
  cases name with
  | nil => cases plain
  | cons first rest =>
      rw [isPlainName, Bool.and_eq_true, List.all_eq_true] at plain
      exact ⟨by simp, inName_cons.2 ⟨isNamePart_of_isNameStart plain.1, plain.2⟩⟩

/-- No small letter stands at the start of a text. -/
def NotLower (text : List Char) : Prop := ∀ first ∈ text.head?, first.isLower = false

@[simp] theorem notLower_nil : NotLower [] := fun _ member => nomatch member

@[simp] theorem notLower_cons {first : Char} {rest : List Char} :
    NotLower (first :: rest) ↔ first.isLower = false := by
  simp [NotLower]

instance : ∀ text : List Char, Decidable (NotLower text)
  | [] => .isTrue notLower_nil
  | first :: _ => decidable_of_iff (first.isLower = false) notLower_cons.symm

theorem notLower_append {first : List Char} (nonempty : first ≠ []) (second : List Char) :
    NotLower (first ++ second) ↔ NotLower first := by
  obtain ⟨character, rest, rfl⟩ := List.exists_cons_of_ne_nil nonempty
  rw [List.cons_append, notLower_cons, notLower_cons]

/-- A name that does not start with a small letter. -/
structure IsSymbol (text : List Char) : Prop extends IsName text where
  notLower : NotLower text

theorem IsSymbol.append {first second : List Char} (isSymbol : IsSymbol first)
    (inName : InName second) : IsSymbol (first ++ second) where
  toIsName := isSymbol.toIsName.append inName
  notLower := (notLower_append isSymbol.nonempty second).2 isSymbol.notLower

/-- The codes of letters. -/
theorem code_of_isAlpha {character : Char} (isAlpha : character.isAlpha = true) :
    (65 ≤ character.toNat ∧ character.toNat ≤ 90) ∨
      (97 ≤ character.toNat ∧ character.toNat ≤ 122) := by
  change (decide (character.val ≥ 'A'.val ∧ character.val ≤ 'Z'.val) ||
    (decide (character.val ≥ 'a'.val) && decide (character.val ≤ 'z'.val))) = true at isAlpha
  simp only [Bool.or_eq_true, Bool.and_eq_true, decide_eq_true_eq, ge_iff_le,
    UInt32.le_iff_toNat_le] at isAlpha
  exact isAlpha

theorem isNameStart_of_isDigit {character : Char} (isDigit : character.isDigit = true) :
    isNameStart character = false := by
  have upTo9 : character.toNat ≤ 57 := (Char.isDigit_iff_toNat.1 isDigit).2
  have from0 : 48 ≤ character.toNat := (Char.isDigit_iff_toNat.1 isDigit).1
  by_contra starts
  simp only [isNameStart, Bool.or_eq_true, decide_eq_true_eq, Bool.not_eq_false] at starts
  rcases starts with (isAlpha | rfl) | rfl
  · have code := code_of_isAlpha isAlpha
    omega
  · exact absurd upTo9 (by decide)
  · exact absurd from0 (by decide)

theorem lt_of_isNamePart {character : Char} (inName : isNamePart character = true) :
    character.toNat < 0x80 := by
  simp only [isNamePart, Char.isAlphanum, Bool.or_eq_true, decide_eq_true_eq] at inName
  rcases inName with ((isAlpha | isDigit) | rfl) | rfl
  · have code := code_of_isAlpha isAlpha
    omega
  · have upTo9 : character.toNat ≤ 57 := (Char.isDigit_iff_toNat.1 isDigit).2
    omega
  · decide
  · decide

theorem isNamePart_toUpper_of_lt : ∀ code < 0x80, isNamePart (Char.ofNat code) = true →
    isNamePart (Char.ofNat code).toUpper = true := by
  decide

theorem inName_uppercase {character : Char} (inName : isNamePart character = true) :
    InName (uppercase character) := by
  have ascii := lt_of_isNamePart inName
  have upper := isNamePart_toUpper_of_lt character.toNat ascii
  rw [Char.ofNat_toNat] at upper
  rw [uppercase_of_ascii ascii]
  exact inName_cons.2 ⟨upper inName, inName_nil⟩

theorem inName_capitalized {word : List Char} (inName : InName word) :
    InName (capitalized word) := by
  cases word with
  | nil => exact inName_nil
  | cons first rest =>
      rw [inName_cons] at inName
      exact inName_append.2 ⟨inName_uppercase inName.1, inName.2⟩

theorem isName_guardDigit {text : List Char} (isName : IsName text) : IsName (guardDigit text) := by
  obtain ⟨first, rest, rfl⟩ := List.exists_cons_of_ne_nil isName.nonempty
  simp only [guardDigit]
  split
  · exact ⟨by simp, inName_cons.2 ⟨rfl, isName.inName⟩⟩
  · exact isName

theorem isName_guardReserved {word : List Char} (isName : IsName word) :
    IsName (guardReserved word) := by
  unfold guardReserved
  split
  · exact ⟨by simp, inName_cons.2 ⟨rfl, isName.inName⟩⟩
  · exact isName

theorem isName_of_mem_nameWords {name word : List Char} (member : word ∈ nameWords name) :
    IsName word := by
  obtain ⟨isWord, nonempty⟩ := List.mem_filter.1 member
  obtain ⟨part, _, rfl⟩ := List.mem_map.1 isWord
  exact ⟨by simpa using nonempty, fun character inWord => (List.mem_filter.1 inWord).2⟩

theorem inName_flatMap_capitalized {words : List (List Char)}
    (inWords : ∀ word ∈ words, InName word) : InName (words.flatMap capitalized) := by
  intro character member
  obtain ⟨word, isWord, inWord⟩ := List.mem_flatMap.1 member
  exact inName_capitalized (inWords word isWord) character inWord

/-- The identifier of any name consists of characters of identifiers. -/
theorem isName_identifier (name : String) : IsName (identifier name).toList := by
  unfold identifier
  cases words : nameWords name.toList with
  | nil =>
      change IsName "_empty".toList
      exact ⟨by decide, by decide⟩
  | cons first rest =>
      rw [String.toList_ofList]
      have areNames : ∀ word ∈ first :: rest, IsName word := by
        rw [← words]
        exact fun word member => isName_of_mem_nameWords member
      rw [List.forall_mem_cons] at areNames
      apply isName_guardReserved
      apply isName_guardDigit
      exact areNames.1.append
        (inName_flatMap_capitalized (fun word member => (areNames.2 word member).inName))

theorem isNamePart_of_isAlphanum {character : Char} (isAlphanum : character.isAlphanum = true) :
    isNamePart character = true := by
  simp [isNamePart, isAlphanum]

theorem isDigit_of_mem_toString {number : Nat} {character : Char}
    (member : character ∈ (toString number).toList) : character.isDigit = true := by
  rw [Nat.toString_eq_repr, Nat.toList_repr] at member
  exact Nat.isDigit_of_mem_toDigits (by decide) (by decide) member

theorem isAlphanum_of_isDigit {character : Char} (isDigit : character.isDigit = true) :
    character.isAlphanum = true := by
  rw [Char.isAlphanum, isDigit, Bool.or_true]

theorem inName_of_digits {digits : List Char}
    (areDigits : ∀ digit ∈ digits, digit.isDigit = true) : InName digits :=
  fun digit member => isNamePart_of_isAlphanum (isAlphanum_of_isDigit (areDigits digit member))

theorem inName_toString (number : Nat) : InName (toString number).toList :=
  inName_of_digits (fun _ => isDigit_of_mem_toString)

theorem isNamePart_of_isTypeNamePart {character : Char}
    (inType : isTypeNamePart character = true) : isNamePart character = true := by
  simp only [isTypeNamePart, Bool.or_eq_true] at inType
  simp only [isNamePart, Bool.or_eq_true]
  exact Or.inl inType

theorem isLower_toUpper_of_lt : ∀ code < 0x80, (Char.ofNat code).toUpper.isLower = false := by
  decide

theorem capitalized_cons {first : Char} (inName : isNamePart first = true) (rest : List Char) :
    capitalized (first :: rest) = first.toUpper :: rest := by
  rw [capitalized, uppercase_of_ascii (lt_of_isNamePart inName), List.singleton_append]

theorem isLower_toUpper {character : Char} (inName : isNamePart character = true) :
    character.toUpper.isLower = false := by
  have upper := isLower_toUpper_of_lt character.toNat (lt_of_isNamePart inName)
  rwa [Char.ofNat_toNat] at upper

theorem notLower_capitalized_append {word : List Char} (inName : InName word) {behind : List Char}
    (notLower : NotLower behind) : NotLower (capitalized word ++ behind) := by
  cases word with
  | nil => exact notLower
  | cons first rest =>
      have inFirst := (inName_cons.1 inName).1
      rw [capitalized_cons inFirst, List.cons_append, notLower_cons]
      exact isLower_toUpper inFirst

theorem notLower_flatMap_capitalized {words : List (List Char)}
    (inWords : ∀ word ∈ words, InName word) : NotLower (words.flatMap capitalized) := by
  induction words with
  | nil => exact notLower_nil
  | cons first rest inductionHypothesis =>
      rw [List.forall_mem_cons] at inWords
      rw [List.flatMap_cons]
      exact notLower_capitalized_append inWords.1 (inductionHypothesis inWords.2)

theorem isSymbol_guardDigit {text : List Char} (isSymbol : IsSymbol text) :
    IsSymbol (guardDigit text) where
  toIsName := isName_guardDigit isSymbol.toIsName
  notLower := by
    obtain ⟨first, rest, rfl⟩ := List.exists_cons_of_ne_nil isSymbol.nonempty
    simp only [guardDigit]
    split
    · exact notLower_cons.2 rfl
    · exact isSymbol.notLower

/-! ## Names of types -/

/-- All characters of a text may stand in the name of a type. -/
def InTypeName (text : List Char) : Prop := ∀ character ∈ text, isTypeNamePart character = true

instance (text : List Char) : Decidable (InTypeName text) :=
  List.decidableBAll (fun character => isTypeNamePart character = true) text

theorem isTypeNamePart_of_isAlphanum {character : Char} (isAlphanum : character.isAlphanum = true) :
    isTypeNamePart character = true := by
  rw [isTypeNamePart, isAlphanum, Bool.true_or]

theorem InTypeName.inName {text : List Char} (inTypeName : InTypeName text) : InName text :=
  fun character member => isNamePart_of_isTypeNamePart (inTypeName character member)

/-- No digit stands at the start of a text. -/
def NotDigit (text : List Char) : Prop := ∀ first ∈ text.head?, first.isDigit = false

@[simp] theorem notDigit_nil : NotDigit [] := fun _ member => nomatch member

@[simp] theorem notDigit_cons {first : Char} {rest : List Char} :
    NotDigit (first :: rest) ↔ first.isDigit = false := by
  simp [NotDigit]

instance : ∀ text : List Char, Decidable (NotDigit text)
  | [] => .isTrue notDigit_nil
  | first :: _ => decidable_of_iff (first.isDigit = false) notDigit_cons.symm

theorem notDigit_append {first : List Char} (nonempty : first ≠ []) (second : List Char) :
    NotDigit (first ++ second) ↔ NotDigit first := by
  obtain ⟨character, rest, rfl⟩ := List.exists_cons_of_ne_nil nonempty
  rw [List.cons_append, notDigit_cons, notDigit_cons]

theorem notDigit_guardDigit (text : List Char) : NotDigit (guardDigit text) := by
  cases text with
  | nil => exact notDigit_nil
  | cons first rest =>
      simp only [guardDigit]
      split
      · exact notDigit_cons.2 rfl
      · rename_i noDigit
        exact notDigit_cons.2 (by simpa using noDigit)

theorem inTypeName_guardDigit {text : List Char} (inTypeName : InTypeName text) :
    InTypeName (guardDigit text) := by
  cases text with
  | nil => exact inTypeName
  | cons first rest =>
      simp only [guardDigit]
      split
      · exact List.forall_mem_cons.2 ⟨rfl, inTypeName⟩
      · exact inTypeName

theorem isTypeNamePart_toUpper_of_lt : ∀ code < 0x80, isTypeNamePart (Char.ofNat code) = true →
    isTypeNamePart (Char.ofNat code).toUpper = true := by
  decide

theorem isDigit_toUpper_of_lt : ∀ code < 0x80,
    (Char.ofNat code).toUpper.isDigit = (Char.ofNat code).isDigit := by
  decide

theorem inTypeName_capitalized {word : List Char} (inTypeName : InTypeName word) :
    InTypeName (capitalized word) := by
  cases word with
  | nil => exact inTypeName
  | cons first rest =>
      obtain ⟨inFirst, inRest⟩ := List.forall_mem_cons.1 inTypeName
      have inName := isNamePart_of_isTypeNamePart inFirst
      have upper := isTypeNamePart_toUpper_of_lt first.toNat (lt_of_isNamePart inName)
      rw [Char.ofNat_toNat] at upper
      rw [capitalized_cons inName]
      exact List.forall_mem_cons.2 ⟨upper inFirst, inRest⟩

/-- Upper case at its start does not free a word from a digit there. -/
theorem notDigit_capitalized_append {word : List Char} (inName : InName word) {behind : List Char}
    (notDigit : NotDigit behind) : NotDigit (capitalized word ++ behind) ↔ NotDigit word := by
  cases word with
  | nil => exact iff_of_true notDigit notDigit_nil
  | cons first rest =>
      have inFirst := (inName_cons.1 inName).1
      have same := isDigit_toUpper_of_lt first.toNat (lt_of_isNamePart inFirst)
      rw [Char.ofNat_toNat] at same
      rw [capitalized_cons inFirst, List.cons_append, notDigit_cons, notDigit_cons, same]

/-- Every reserved word starts with a small letter. -/
theorem isReserved_of_notLower {word : List Char} (notLower : NotLower word) :
    isReserved word = false := by
  have small : ∀ reserved ∈ reservedWords, ¬ NotLower reserved.toList := by decide
  rw [Bool.eq_false_iff]
  intro isReserved
  refine small (String.ofList word) (List.contains_iff_mem.1 isReserved) ?_
  rwa [String.toList_ofList]

/-- A text that can name a type, but for a digit at its start. -/
structure IsTypeWord (text : List Char) : Prop where
  nonempty : text ≠ []
  inTypeName : InTypeName text
  notReserved : isReserved text = false

/-- A text that can name a type. -/
structure CanNameType (text : List Char) : Prop extends IsTypeWord text where
  notDigit : NotDigit text

/-- What the name of a type is made of. -/
theorem typeIdentifier_cases (name : String) :
    typeIdentifier name = "Schema" ∨
    ∃ parts : List (List Char), (∀ part ∈ parts, InTypeName part) ∧
      parts.flatMap capitalized ≠ [] ∧
      typeIdentifier name = String.ofList (guardDigit (parts.flatMap capitalized)) := by
  have inParts : ∀ part ∈ (splitWhere (fun character => !isTypeNamePart character)
      name.toList).filter (fun part => !part.isEmpty), InTypeName part := by
    intro part member character inPart
    have notBreak := not_isSeparator_of_mem_splitWhere (List.mem_filter.1 member).1 character inPart
    simpa using notBreak
  unfold typeIdentifier
  split
  · exact Or.inl rfl
  · rename_i nonempty
    exact Or.inr ⟨_, inParts, nonempty, rfl⟩

/-- The name of a type consists of characters of identifiers, whatever it is made from. -/
theorem isSymbol_typeIdentifier (name : String) : IsSymbol (typeIdentifier name).toList := by
  rcases typeIdentifier_cases name with isSchema | ⟨parts, inParts, nonempty, isName⟩
  · rw [isSchema]
    exact ⟨⟨by decide, by decide⟩, by decide⟩
  · have inNames : ∀ part ∈ parts, InName part := fun part member => (inParts part member).inName
    rw [isName, String.toList_ofList]
    exact isSymbol_guardDigit
      ⟨⟨nonempty, inName_flatMap_capitalized inNames⟩, notLower_flatMap_capitalized inNames⟩

theorem canNameType_typeIdentifier (name : String) : CanNameType (typeIdentifier name).toList where
  nonempty := (isSymbol_typeIdentifier name).nonempty
  inTypeName := by
    rcases typeIdentifier_cases name with isSchema | ⟨parts, inParts, _, isName⟩
    · rw [isSchema]
      decide
    · rw [isName, String.toList_ofList]
      apply inTypeName_guardDigit
      intro character member
      obtain ⟨part, isPart, inPart⟩ := List.mem_flatMap.1 member
      exact inTypeName_capitalized (inParts part isPart) character inPart
  notReserved := isReserved_of_notLower (isSymbol_typeIdentifier name).notLower
  notDigit := by
    rcases typeIdentifier_cases name with isSchema | ⟨parts, _, _, isName⟩
    · rw [isSchema]
      decide
    · rw [isName, String.toList_ofList]
      exact notDigit_guardDigit _

end TypedClient.Script
