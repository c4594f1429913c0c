import TypedClient.Proofs.Endpoint.ArgumentNames
import TypedClient.Proofs.Endpoint.Naming

/-!
Contract: identifiers of path parameters that hide another name.

Owns:
- `Script.unbindable`, the words that strict code cannot bind;
- `Extraction.IsSolid`, the words that are the identifier of a path parameter exactly if the words
  of the parameter are that name already;
- `Endpoint.hideable`, the names around the arguments of an endpoint that are solid.

Does not own: that the generated code uses no other names.
-/

namespace TypedClient

open Extraction (argumentNames pathIdentifier settled)
open Script (isReserved joined reservedWords)

/-- The words that cannot be bound in the strict code of a module. -/
def Script.unbindable : List String :=
  ["await", "break", "case", "catch", "class", "const", "continue", "debugger", "default", "delete",
    "do", "else", "enum", "export", "extends", "false", "finally", "for", "function", "if",
    "implements", "import", "in", "instanceof", "interface", "let", "new", "null", "package",
    "private", "protected", "public", "return", "static", "super", "switch", "this", "throw",
    "true", "try", "typeof", "var", "void", "while", "with", "yield", "eval", "arguments"]

namespace Extraction

/-- The identifiers of path parameters that would be named like other arguments. -/
def renamedArguments : List String := argumentNames.map (· ++ "Param")

/-- A word that no text is changed into, and that is not changed itself. -/
structure IsSolid (word : String) : Prop where
  stays : settled word.toList = word.toList
  unguarded : word.toList.head? ≠ some '_'
  unrenamed : word ∉ renamedArguments

instance (word : String) : Decidable (IsSolid word) :=
  decidable_of_iff (settled word.toList = word.toList ∧ word.toList.head? ≠ some '_' ∧
      word ∉ renamedArguments)
    ⟨fun ⟨stays, unguarded, unrenamed⟩ => ⟨stays, unguarded, unrenamed⟩,
      fun solid => ⟨solid.stays, solid.unguarded, solid.unrenamed⟩⟩

theorem IsSolid.pathIdentifier_eq_iff {word : String} (solid : IsSolid word) (name : String) :
    pathIdentifier name = word ↔ joined name = word.toList := by
  rw [← String.toList_inj, toList_pathIdentifier]
  constructor
  · intro becomes
    rcases settled_cases (joined name) with kept | ⟨_, empty⟩ | ⟨_, guarded⟩ | ⟨taken, renamed⟩
    · exact kept.symm.trans becomes
    · rw [becomes] at empty
      exact absurd (congrArg List.head? empty) solid.unguarded
    · rw [becomes] at guarded
      exact absurd (congrArg List.head? guarded) solid.unguarded
    · exfalso
      apply solid.unrenamed
      rw [becomes] at renamed
      obtain ⟨argument, isArgument, same⟩ := List.mem_map.1 taken
      refine List.mem_map.2 ⟨argument, isArgument, ?_⟩
      rw [← String.toList_inj, String.toList_append, renamed, same]
  · rintro same
    rw [same]
    exact solid.stays

theorem settled_of_free {text : List Char} (nonempty : text ≠ [])
    (noDigit : text.head?.any Char.isDigit = false)
    (free : text ∉ (reservedWords ++ argumentNames).map String.toList) : settled text = text := by
  rw [List.map_append, List.mem_append, not_or] at free
  rw [settled, if_neg nonempty, if_neg, if_neg free.2]
  rw [isGuarded, noDigit, Bool.false_or, isReserved_iff]
  exact free.1

end Extraction

namespace Endpoint

variable {endpoint : Endpoint}

/-- A request function is named like no word that has at most a method in front. -/
theorem functionName_not_mem (named : endpoint.camelName ≠ "") {words : List String}
    (apart : ∀ method ∈ Method.all, ∀ word ∈ words,
      method.key.toList.isPrefixOf word.toList → word = method.key) :
    endpoint.functionName ∉ words := by
  intro member
  have isMethod : endpoint.method ∈ Method.all := by
    cases endpoint.method <;> decide
  have written : endpoint.functionName.toList =
      endpoint.method.key.toList ++ (Naming.capital endpoint.camelName).toList := by
    rw [functionName, Naming.functionName, String.toList_append]
  have isKey := apart _ isMethod _ member (by
    rw [written, List.isPrefixOf_iff_prefix]
    exact List.prefix_append _ _)
  rw [isKey, List.self_eq_append_right, String.toList_eq_nil_iff] at written
  exact Naming.capital_ne_empty named written

theorem isSolid_functionName (named : endpoint.camelName ≠ "") :
    Extraction.IsSolid endpoint.functionName where
  stays := by
    have free : endpoint.functionName ∉ reservedWords ++ argumentNames :=
      functionName_not_mem named (by decide)
    have head := endpoint.head?_functionName
    apply Extraction.settled_of_free
    · intro isEmpty
      rw [isEmpty] at head
      cases isMethod : endpoint.method <;> rw [isMethod] at head <;> exact absurd head (by decide)
    · rw [head]
      cases endpoint.method <;> decide
    · rwa [Extraction.mem_map_toList, String.ofList_toList]
  unguarded := by
    rw [endpoint.head?_functionName]
    cases endpoint.method <;> decide
  unrenamed := functionName_not_mem named (by decide)

/-- The names that the code around the arguments of an endpoint uses for something else: the
request function, its hook, and the names with a meaning of their own. -/
def hideable (endpoint : Endpoint) : List String :=
  ["response", "axiosInstance", "undefined", "useQuery", endpoint.functionName, "eval", "arguments"]

theorem isSolid_of_mem_hideable (named : endpoint.camelName ≠ "") {word : String}
    (member : word ∈ endpoint.hideable) : Extraction.IsSolid word := by
  have ofOthers : ∀ word ∈ ["response", "axiosInstance", "undefined", "useQuery", "eval",
      "arguments"], Extraction.IsSolid word := by decide
  by_cases isFunction : word = endpoint.functionName
  · rw [isFunction]
    exact isSolid_functionName named
  · apply ofOthers
    simpa [hideable, isFunction] using member

theorem pathIdentifier_mem_hideable_iff (named : endpoint.camelName ≠ "") (name : String) :
    pathIdentifier name ∈ endpoint.hideable ↔ String.ofList (joined name) ∈ endpoint.hideable := by
  constructor
  · intro member
    have same := ((isSolid_of_mem_hideable named member).pathIdentifier_eq_iff name).1 rfl
    rwa [same, String.ofList_toList]
  · intro member
    have same := ((isSolid_of_mem_hideable named member).pathIdentifier_eq_iff name).2
      String.toList_ofList.symm
    rwa [same]

/-- What is neither reserved nor the name of another argument hides nothing unless it is hideable. -/
theorem hides_nothing_iff {name : String} (free : name ∉ reservedWords ++ argumentNames) :
    (name ∉ ["response", "axiosInstance", "undefined"] ∧
      name ∉ ["useQuery", endpoint.functionName, "options"] ∧ name ∉ Script.unbindable) ↔
    name ∉ endpoint.hideable := by
  have ofUnbindable : ∀ word ∈ Script.unbindable,
      word ∈ reservedWords ∨ word = "eval" ∨ word = "arguments" := by decide
  rw [List.mem_append, not_or] at free
  have notOptions : name ≠ "options" := by
    rintro rfl
    exact free.2 (by decide)
  have unbindable : name ∈ Script.unbindable ↔ name = "eval" ∨ name = "arguments" := by
    constructor
    · exact fun member => (ofUnbindable name member).resolve_left free.1
    · rintro (rfl | rfl) <;> decide
  simp only [hideable, unbindable, List.mem_cons, List.not_mem_nil, or_false, not_or, notOptions,
    and_assoc]

end Endpoint

theorem Document.camelName_ne_empty {document : Document} {qualifier : String} {endpoint : Endpoint}
    (member : endpoint ∈ (document.extract qualifier).endpoints) : endpoint.camelName ≠ "" := by
  obtain ⟨entry, newName, rfl⟩ := exists_of_mem_extract member
  exact Naming.qualify_ne_empty qualifier (Naming.ofPath_ne_empty entry.1)

end TypedClient
