import TypedClient.Proofs.TypeText.Denotation

/-!
Contract: the names of types in a text.

Owns:
- `isTypeName`, the words that name a type which is not built in;
- `typeNames?`, these names in the text of a type, in their order;
- `Cites`, with one rule for each form that the type of an argument has.

Does not own: where the types of these names come from.
-/

namespace TypedClient.TypeText

/-- The built-in types of the generated code, with the values that are types themselves. -/
def builtInTypes : List String :=
  ["any", "boolean", "false", "never", "null", "number", "string", "true", "unknown", "Parameters"]

/-- Whether a word is the name of a type that is not built in. -/
def isTypeName (word : String) : Bool :=
  Script.isPlainName word.toList && !builtInTypes.contains word

def Leaf.typeName? : Leaf → Option String
  | .word text => if isTypeName text then some text else none
  | _ => none

def TypeExpression.typeNames (type : TypeExpression) : List String :=
  type.leaves.filterMap Leaf.typeName?

/-- The names of types in the text of a type; none if the text is no type. -/
def typeNames? (text : String) : Option (List String) :=
  ((scan text).bind readType).map TypeExpression.typeNames

/-- The names of types in several texts. -/
def typeNamesOf? (texts : List String) : Option (List String) :=
  (texts.mapM typeNames?).map List.flatten

theorem typeNamesOf?_cons {text : String} {names : List String} (rest : List String)
    (first : typeNames? text = some names) :
    typeNamesOf? (text :: rest) = (typeNamesOf? rest).map (names ++ ·) := by
  rw [typeNamesOf?, typeNamesOf?, List.mapM_cons, first]
  cases rest.mapM typeNames? <;> rfl

theorem typeNamesOf?_append {first second names more : List String}
    (ofFirst : typeNamesOf? first = some names) (ofSecond : typeNamesOf? second = some more) :
    typeNamesOf? (first ++ second) = some (names ++ more) := by
  rw [typeNamesOf?, Option.map_eq_some_iff] at ofFirst ofSecond
  obtain ⟨lists, ofTexts, rfl⟩ := ofFirst
  obtain ⟨others, ofOthers, rfl⟩ := ofSecond
  rw [typeNamesOf?, List.mapM_append, ofTexts, ofOthers]
  simp

/-- A text is the text of a type with these names. -/
def Cites (text : String) (names : List String) : Prop :=
  ∃ tokens layout, Writes text tokens ∧ (∀ word, .word word ∈ tokens → IsWord word.toList) ∧
    Reads tokens layout ∧ layout.closed.typeNames = names

namespace Cites

variable {text : String} {names : List String}

theorem typeNames? (cites : Cites text names) : TypeText.typeNames? text = some names := by
  obtain ⟨tokens, layout, writes, words, reads, rfl⟩ := cites
  rw [TypeText.typeNames?, scan, writes.spelled.scan words, Option.bind_some, reads.readType,
    Option.map_some]

theorem of_denotes {type : TypeExpression} (denotes : Denotes text type)
    (named : type.typeNames = names) : Cites text names := by
  obtain ⟨tokens, layout, writes, words, reads, rfl⟩ := denotes
  exact ⟨tokens, layout, writes, words, reads, named⟩

theorem exists_denotes (cites : Cites text names) :
    ∃ type, Denotes text type ∧ type.typeNames = names := by
  obtain ⟨tokens, layout, writes, words, reads, named⟩ := cites
  exact ⟨layout.closed, ⟨tokens, layout, writes, words, reads, rfl⟩, named⟩

theorem word (isWord : IsWord text.toList) :
    Cites text (if isTypeName text then [text] else []) := by
  apply of_denotes (.word isWord)
  by_cases named : isTypeName text <;>
    simp [TypeExpression.typeNames, TypeExpression.leaves, Leaf.typeName?, named]

theorem typeNamesOf?_map {α : Type} {items : List α} {textOf : α → String}
    {namesOf : α → List String} (ofItems : ∀ item ∈ items, Cites (textOf item) (namesOf item)) :
    typeNamesOf? (items.map textOf) = some (items.flatMap namesOf) := by
  induction items with
  | nil => rfl
  | cons item rest inductionHypothesis =>
      rw [List.forall_mem_cons] at ofItems
      rw [List.map_cons, typeNamesOf?_cons _ ofItems.1.typeNames?,
        inductionHypothesis ofItems.2, Option.map_some, List.flatMap_cons]

/-- The type of an argument that is read off a function has no names but built-in ones. -/
theorem parameter {function : String} (isWord : IsWord function.toList) (index : Nat) :
    Cites ("Parameters<typeof " ++ function ++ ">[" ++ toString index ++ "]") [] := by
  apply of_denotes (.parameter isWord index)
  simp [TypeExpression.typeNames, TypeExpression.leaves, TypeExpression.leavesOfItems,
    Leaf.typeName?, isTypeName, builtInTypes]

/-- The members of an object between semicolons. -/
theorem object {α : Type} {items : List α} {nameOf textOf : α → String}
    {namesOf : α → List String} (nonempty : items ≠ [])
    (keys : ∀ item ∈ items, IsWord (nameOf item).toList)
    (types : ∀ item ∈ items, Cites (textOf item) (namesOf item)) :
    Cites ("\x7b " ++
      "; ".intercalate (items.map (fun item => nameOf item ++ ": " ++ textOf item)) ++ " \x7d")
      (items.flatMap namesOf) := by
  choose! typeOf denotes named using fun item member => (types item member).exists_denotes
  apply of_denotes (.object nonempty keys denotes)
  rw [TypeExpression.typeNames, TypeExpression.leaves_object, List.flatMap_map,
    List.filterMap_cons, List.filterMap_flatMap]
  exact List.flatMap_congr named

end Cites

end TypedClient.TypeText
