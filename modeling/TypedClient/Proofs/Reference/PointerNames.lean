import Mathlib.Data.List.Induction
import TypedClient.Proofs.Reference.Trail

/-!
Contract: the pointers that name the components of a document.

Owns:
- `Pointer.encodeName`, a name as it stands in a pointer, and `Pointer.addressing`, the pointer to a
  component at one of the places for schemas;
- `Pointer.IsEscaped`, the texts in which each tilde belongs to an escape;
- that decoding undoes encoding, and encoding undoes the decoding of an escaped text without slashes;
- which pointers name a component at all, and that escaped pointers at one place are told apart by
  the names that they give.

Does not own: what the components are.
-/

namespace TypedClient

namespace Pointer

open TypedClient.Text

/-! ## Names and their escapes -/

/-- The text with each occurrence of a character replaced. -/
def replaceEach (character : Char) (replacement text : List Char) : List Char :=
  text.flatMap (fun other => if other = character then replacement else [other])

/-- A name as it stands in a pointer: a tilde is written `~0`, and then a slash `~1`. -/
def encodeName (name : List Char) : List Char :=
  replaceEach '/' ['~', '1'] (replaceEach '~' ['~', '0'] name)

/-- Each tilde has a zero or a one behind it. -/
def IsEscaped : List Char → Prop
  | [] => True
  | character :: rest =>
      (character = '~' → rest.head? = some '0' ∨ rest.head? = some '1') ∧ IsEscaped rest

variable {character : Char} {text name : List Char}

theorem replaceEach_cons (replaced : Char) (replacement : List Char) (rest : List Char) :
    replaceEach replaced replacement (character :: rest) =
      (if character = replaced then replacement else [character]) ++
        replaceEach replaced replacement rest :=
  List.flatMap_cons

theorem encodeName_tilde (rest : List Char) :
    encodeName ('~' :: rest) = '~' :: '0' :: encodeName rest := by
  simp [encodeName, replaceEach_cons]

theorem encodeName_slash (rest : List Char) :
    encodeName ('/' :: rest) = '~' :: '1' :: encodeName rest := by
  simp [encodeName, replaceEach_cons]

theorem encodeName_plain (notTilde : character ≠ '~') (notSlash : character ≠ '/')
    (rest : List Char) : encodeName (character :: rest) = character :: encodeName rest := by
  simp [encodeName, replaceEach_cons, notTilde, notSlash]

theorem decodeName_tilde (rest : List Char) :
    decodeName ('~' :: '0' :: rest) = '~' :: decodeName rest := by
  have firstPass : replacePair '~' '1' ['/'] ('~' :: '0' :: rest) =
      '~' :: '0' :: replacePair '~' '1' ['/'] rest := by
    rw [replacePair, if_neg (by decide), replacePair_cons_of_ne (by decide)]
  rw [decodeName, firstPass]
  rfl

theorem decodeName_slash (rest : List Char) :
    decodeName ('~' :: '1' :: rest) = '/' :: decodeName rest := by
  have firstPass : replacePair '~' '1' ['/'] ('~' :: '1' :: rest) =
      '/' :: replacePair '~' '1' ['/'] rest := rfl
  rw [decodeName, firstPass, replacePair_cons_of_ne (by decide)]
  rfl

theorem decodeName_plain (notTilde : character ≠ '~') (rest : List Char) :
    decodeName (character :: rest) = character :: decodeName rest := by
  rw [decodeName, replacePair_cons_of_ne notTilde, replacePair_cons_of_ne notTilde]
  rfl

/-- Decoding undoes encoding: an escape is decoded as a whole, and no other tilde is there. -/
theorem decodeName_encodeName (name : List Char) : decodeName (encodeName name) = name := by
  induction name with
  | nil => rfl
  | cons character rest inductionHypothesis =>
      by_cases tilde : character = '~'
      · rw [tilde, encodeName_tilde, decodeName_tilde, inductionHypothesis]
      by_cases slash : character = '/'
      · rw [slash, encodeName_slash, decodeName_slash, inductionHypothesis]
      · rw [encodeName_plain tilde slash, decodeName_plain tilde, inductionHypothesis]

/-- Encoding undoes decoding, where each tilde belongs to an escape and no slash stands for itself. -/
theorem encodeName_decodeName (escaped : IsEscaped text) (noSlash : '/' ∉ text) :
    encodeName (decodeName text) = text := by
  -- Two characters at a time, since an escape is decoded as a whole.
  induction text using List.twoStepInduction with
  | nil => rfl
  | singleton character =>
      have notTilde : character ≠ '~' := fun tilde => by simpa using escaped.1 tilde
      rw [List.mem_singleton] at noSlash
      rw [decodeName_plain notTilde, encodeName_plain notTilde (Ne.symm noSlash)]
      rfl
  | cons_cons character next rest ofRest ofNext =>
      rw [List.mem_cons, List.mem_cons, not_or, not_or] at noSlash
      obtain ⟨notSlash, _, restPlain⟩ := noSlash
      by_cases tilde : character = '~'
      · subst tilde
        have mark : next = '0' ∨ next = '1' := by simpa using escaped.1 rfl
        rcases mark with rfl | rfl
        · rw [decodeName_tilde, encodeName_tilde, ofRest escaped.2.2 restPlain]
        · rw [decodeName_slash, encodeName_slash, ofRest escaped.2.2 restPlain]
      · have nextPlain : '/' ∉ next :: rest := by simpa [restPlain] using ‹¬ '/' = next›
        rw [decodeName_plain tilde, encodeName_plain tilde (Ne.symm notSlash),
          ofNext next escaped.2 nextPlain]

theorem slash_not_mem_encodeName (name : List Char) : '/' ∉ encodeName name := by
  induction name with
  | nil => exact List.not_mem_nil
  | cons character rest inductionHypothesis =>
      by_cases tilde : character = '~'
      · rw [tilde, encodeName_tilde]
        simpa using inductionHypothesis
      by_cases slash : character = '/'
      · rw [slash, encodeName_slash]
        simpa using inductionHypothesis
      · rw [encodeName_plain tilde slash, List.mem_cons, not_or]
        exact ⟨Ne.symm slash, inductionHypothesis⟩

theorem IsEscaped.of_append {before after : List Char} (escaped : IsEscaped (before ++ after)) :
    IsEscaped after := by
  induction before with
  | nil => exact escaped
  | cons character rest inductionHypothesis => exact inductionHypothesis escaped.2

/-! ## Pointers -/

/-- The pointer to a component at one of the places for schemas. -/
def addressing (place name : String) : String :=
  place ++ String.ofList (encodeName name.toList)

variable {pointer place component : String}

theorem remainder?_schemaPlaces (isPlace : place ∈ schemaPlaces)
    (starts : pointer.toList = place.toList ++ text) :
    remainder? schemaPlaces pointer = some text := by
  rw [remainder?, starts]
  simp only [schemaPlaces, List.mem_cons, List.not_mem_nil, or_false] at isPlace
  rcases isPlace with rfl | rfl <;> simp [schemaPlaces, List.isPrefixOf?]

/-- What a pointer to one of the places names. -/
theorem target?_schemaPlaces_iff (isPlace : place ∈ schemaPlaces)
    (starts : pointer.toList = place.toList ++ text) :
    target? schemaPlaces pointer = some component ↔
      text ≠ [] ∧ '/' ∉ text ∧ decodeName text = component.toList := by
  have sameName : String.ofList (decodeName text) = component ↔
      decodeName text = component.toList := by
    rw [← String.toList_inj, String.toList_ofList]
  rw [target?, remainder?_schemaPlaces isPlace starts]
  by_cases named : text ≠ [] ∧ '/' ∉ text
  · rw [Option.filter_some_pos (by simpa using named), Option.map_some, Option.some.injEq, sameName]
    simp [named]
  · rw [Option.filter_some_neg (by simpa using named)]
    simp only [Option.map_none, reduceCtorEq, false_iff]
    exact fun names => named ⟨names.1, names.2.1⟩

theorem exists_place_of_target? (names : target? schemaPlaces pointer = some component) :
    ∃ place ∈ schemaPlaces, ∃ text, pointer.toList = place.toList ++ text := by
  rw [target?, Option.map_eq_some_iff] at names
  obtain ⟨text, remains, _⟩ := names
  obtain ⟨place, isPlace, starts⟩ :=
    List.exists_of_findSome?_eq_some (Option.eq_some_of_filter_eq_some remains)
  exact ⟨place, isPlace, text, (List.isPrefixOf?_eq_some_iff_append_eq.1 starts).symm⟩

theorem target?_addressing (isPlace : place ∈ schemaPlaces) (named : component ≠ "") :
    target? schemaPlaces (addressing place component) = some component := by
  have starts : (addressing place component).toList =
      place.toList ++ encodeName component.toList := by
    rw [addressing, String.toList_append, String.toList_ofList]
  have decoded := decodeName_encodeName component.toList
  refine (target?_schemaPlaces_iff isPlace starts).2
    ⟨fun isEmpty => ?_, slash_not_mem_encodeName _, decoded⟩
  rw [isEmpty] at decoded
  exact named (String.toList_eq_nil_iff.1 decoded.symm)

/-- Exactly the pointers to something right below one of the places name a component. -/
theorem isSome_target?_iff :
    (target? schemaPlaces pointer).isSome ↔ ∃ place ∈ schemaPlaces, ∃ text,
      pointer.toList = place.toList ++ text ∧ text ≠ [] ∧ '/' ∉ text := by
  rw [Option.isSome_iff_exists]
  constructor
  · rintro ⟨component, names⟩
    obtain ⟨place, isPlace, text, starts⟩ := exists_place_of_target? names
    obtain ⟨nonempty, noSlash, _⟩ := (target?_schemaPlaces_iff isPlace starts).1 names
    exact ⟨place, isPlace, text, starts, nonempty, noSlash⟩
  · rintro ⟨place, isPlace, text, starts, nonempty, noSlash⟩
    refine ⟨String.ofList (decodeName text), (target?_schemaPlaces_iff isPlace starts).2 ?_⟩
    exact ⟨nonempty, noSlash, String.toList_ofList.symm⟩

/-- An escaped pointer is the one that addresses the component that it names. -/
theorem eq_addressing (isPlace : place ∈ schemaPlaces)
    (starts : place.toList <+: pointer.toList) (escaped : IsEscaped pointer.toList)
    (names : target? schemaPlaces pointer = some component) :
    pointer = addressing place component := by
  obtain ⟨text, isPointer⟩ := starts
  obtain ⟨_, noSlash, decoded⟩ := (target?_schemaPlaces_iff isPlace isPointer.symm).1 names
  have encoded := encodeName_decodeName (isPointer ▸ escaped).of_append noSlash
  rw [decoded] at encoded
  rw [← String.toList_inj, addressing, String.toList_append, String.toList_ofList, encoded,
    isPointer]

/-- **Every component has its pointers.** At each place for schemas the pointer made of the escapes of
a name, which is not empty, names the component, and a reference to it is expanded as the schema of the
component; exactly the pointers to something right below a place name a component; and escaped
pointers at one place that name the same component are the same. -/
theorem pointers_address_components :
    (∀ place ∈ schemaPlaces, ∀ component : String, component ≠ "" →
      target? schemaPlaces (addressing place component) = some component ∧
      ∀ (document : Document) (schema : Schema), document.schema? component = some schema →
        document.expand [] (.reference (addressing place component)) =
          document.expand [component] schema) ∧
    (∀ pointer : String, (target? schemaPlaces pointer).isSome ↔
      ∃ place ∈ schemaPlaces, ∃ text,
        pointer.toList = place.toList ++ text ∧ text ≠ [] ∧ '/' ∉ text) ∧
    ∀ place ∈ schemaPlaces, ∀ pointer other component : String,
      place.toList <+: pointer.toList → place.toList <+: other.toList →
      IsEscaped pointer.toList → IsEscaped other.toList →
      target? schemaPlaces pointer = some component →
      target? schemaPlaces other = some component → pointer = other := by
  refine ⟨fun place isPlace component named => ?_, fun pointer => isSome_target?_iff, ?_⟩
  · have names := target?_addressing isPlace named
    refine ⟨names, fun document schema found => ?_⟩
    rw [Document.expand, Schema.expandWith]
    exact Document.expandPointer_of_not_mem ⟨names, found⟩ List.not_mem_nil
  · intro place isPlace pointer other component starts otherStarts escaped otherEscaped names
      otherNames
    rw [eq_addressing isPlace starts escaped names,
      eq_addressing isPlace otherStarts otherEscaped otherNames]

/-- A document whose one component has a slash and the text of an escape in its name. -/
def escapesDocument : Document where
  definitions := [("a/~1", .primitive .string)]

/-- The escapes of a name come back from the pointer: the last ones for a tilde and a one. -/
theorem escapes_addressed :
    "#/definitions/" ∈ schemaPlaces ∧ "a/~1" ≠ "" ∧
      escapesDocument.schema? "a/~1" = some (.primitive .string) ∧
      target? schemaPlaces "#/definitions/a~1~01" = some "a/~1" ∧
      escapesDocument.expand [] (.reference "#/definitions/a~1~01") =
        escapesDocument.expand ["a/~1"] (.primitive .string) := by
  have isPlace : "#/definitions/" ∈ schemaPlaces := by decide
  have named : "a/~1" ≠ "" := by decide
  have found : escapesDocument.schema? "a/~1" = some (.primitive .string) := by rfl
  obtain ⟨names, expands⟩ := pointers_address_components.1 "#/definitions/" isPlace "a/~1" named
  exact ⟨isPlace, named, found, names, expands escapesDocument _ found⟩

end Pointer

end TypedClient
