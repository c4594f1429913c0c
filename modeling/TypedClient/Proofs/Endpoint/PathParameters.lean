import TypedClient.Proofs.Endpoint.Declared
import TypedClient.Proofs.Script.Identifier

/-!
Contract: the parameters that the path of an endpoint has.

Owns:
- `Segmented`, where the placeholders of a path are: from an opening brace up to the first closing
  one, and text behind an opening brace that is never closed;
- that every placeholder with a name has a parameter of this name;
- that the identifiers of path parameters consist of characters of identifiers;
- that the pieces of a path are the only way to cut it like this;
- that keeping each name once keeps all names, each where it appears first.

Does not own: what becomes of the placeholders in a request.
-/

namespace TypedClient

namespace PathPiece

/-- A text and its pieces: placeholders end at the first closing brace, and what follows the first
opening brace that is never closed is one piece. -/
inductive Segmented : List Char → List PathPiece → Prop
  | plain {text : List Char} (noOpening : '{' ∉ text) : Segmented text [.plain text]
  | unclosed {before inside : List Char} (noOpening : '{' ∉ before) (noClosing : '}' ∉ inside) :
      Segmented (before ++ '{' :: inside) [.plain before, .unclosed inside]
  | placeholder {before name after : List Char} {pieces : List PathPiece}
      (noOpening : '{' ∉ before) (noClosing : '}' ∉ name) (later : Segmented after pieces) :
      Segmented (before ++ '{' :: name ++ '}' :: after)
        (.plain before :: .placeholder name :: pieces)

theorem not_mem_of_cut?_eq_none {mark : Char} {text : List Char} (uncut : cut? mark text = none) :
    mark ∉ text := by
  induction text with
  | nil => exact List.not_mem_nil
  | cons character rest inductionHypothesis =>
      rw [cut?] at uncut
      split at uncut
      · cases uncut
      · rename_i different
        rw [Option.map_eq_none_iff] at uncut
        rw [List.mem_cons, not_or]
        exact ⟨fun same => different same.symm, inductionHypothesis uncut⟩

theorem cut?_of_not_mem {mark : Char} {text : List Char} (missing : mark ∉ text) :
    cut? mark text = none := by
  cases cut : cut? mark text with
  | none => rfl
  | some parts =>
      exfalso
      apply missing
      rw [append_of_cut? cut]
      simp

theorem ofPath_of_not_mem {path : List Char} (noOpening : '{' ∉ path) :
    ofPath path = [.plain path] := by
  rw [ofPath]
  split
  · rfl
  · rename_i cut
    rw [cut?_of_not_mem noOpening] at cut
    cases cut

theorem not_mem_of_cut? {mark : Char} {text before after : List Char}
    (cut : cut? mark text = some (before, after)) : mark ∉ before := by
  induction text generalizing before after with
  | nil => cases cut
  | cons character rest inductionHypothesis =>
      rw [cut?] at cut
      split at cut
      · cases cut
        exact List.not_mem_nil
      · rename_i different
        obtain ⟨⟨earlier, later⟩, found, isCut⟩ := Option.map_eq_some_iff.1 cut
        cases isCut
        rw [List.mem_cons, not_or]
        exact ⟨fun same => different same.symm, inductionHypothesis found⟩

theorem segmented_ofPath (path : List Char) : Segmented path (ofPath path) := by
  fun_induction ofPath path with
  | case1 path cut => exact .plain (not_mem_of_cut?_eq_none cut)
  | case2 path before inside cut closed =>
      rw [append_of_cut? cut]
      exact .unclosed (not_mem_of_cut? cut) (not_mem_of_cut?_eq_none closed)
  | case3 path before inside cut name after closed inductionHypothesis =>
      rw [append_of_cut? cut, append_of_cut? closed, ← List.cons_append, ← List.append_assoc]
      exact .placeholder (not_mem_of_cut? cut) (not_mem_of_cut? closed) inductionHypothesis

theorem cut?_append {mark : Char} {before after : List Char} (missing : mark ∉ before) :
    cut? mark (before ++ mark :: after) = some (before, after) := by
  induction before with
  | nil => simp [cut?]
  | cons character rest inductionHypothesis =>
      rw [List.mem_cons, not_or] at missing
      rw [List.cons_append, cut?, if_neg (Ne.symm missing.1), inductionHypothesis missing.2]
      rfl

theorem ofPath_of_unclosed {before inside : List Char} (noOpening : '{' ∉ before)
    (noClosing : '}' ∉ inside) :
    ofPath (before ++ '{' :: inside) = [.plain before, .unclosed inside] := by
  rw [ofPath]
  split <;> rename_i cut <;> rw [cut?_append noOpening] at cut <;> cases cut
  split <;> rename_i closed
  · rfl
  · rw [cut?_of_not_mem noClosing] at closed
    cases closed

theorem ofPath_of_placeholder {before name after : List Char} (noOpening : '{' ∉ before)
    (noClosing : '}' ∉ name) :
    ofPath (before ++ '{' :: name ++ '}' :: after) =
      .plain before :: .placeholder name :: ofPath after := by
  rw [List.append_assoc, List.cons_append, ofPath]
  split <;> rename_i cut <;> rw [cut?_append noOpening] at cut <;> cases cut
  split <;> rename_i closed <;> rw [cut?_append noClosing] at closed <;> cases closed
  rfl

/-- There is one way to cut a path into its pieces. -/
theorem segmented_iff {path : List Char} {pieces : List PathPiece} :
    Segmented path pieces ↔ pieces = ofPath path := by
  constructor
  · intro segmented
    induction segmented with
    | plain noOpening => exact (ofPath_of_not_mem noOpening).symm
    | unclosed noOpening noClosing => exact (ofPath_of_unclosed noOpening noClosing).symm
    | placeholder noOpening noClosing _ inductionHypothesis =>
        rw [ofPath_of_placeholder noOpening noClosing, inductionHypothesis]
  · rintro rfl
    exact segmented_ofPath path

end PathPiece

/-! ## Each name once -/

/-- Each name stays where it appears first. -/
theorem withoutRepeats_eq_eraseDups (names : List String) :
    withoutRepeats names = names.eraseDups := by
  -- What is kept already stays in front, and its names are passed over in what follows.
  have ofKept : ∀ kept : List String,
      names.foldl (fun kept name => if kept.contains name then kept else kept ++ [name]) kept =
        kept ++ (names.filter (fun name => !kept.contains name)).eraseDups := by
    induction names with
    | nil => simp
    | cons name rest inductionHypothesis =>
        intro kept
        rw [List.foldl_cons, inductionHypothesis, List.filter_cons]
        cases isKept : kept.contains name with
        | true => rfl
        | false =>
            have sameRest : rest.filter (fun other => !(kept ++ [name]).contains other) =
                (rest.filter (fun other => !kept.contains other)).filter
                  (fun other => !other == name) := by
              rw [List.filter_filter]
              exact List.filter_congr (fun other _ => by simp [Bool.and_comm, beq_eq_decide])
            simp only [Bool.false_eq_true, ↓reduceIte, Bool.not_false]
            rw [sameRest, List.eraseDups_cons, List.append_assoc, List.singleton_append]
  exact (ofKept []).trans (by simp)

theorem mem_withoutRepeats {names : List String} {name : String} :
    name ∈ withoutRepeats names ↔ name ∈ names := by
  rw [withoutRepeats_eq_eraseDups, List.mem_eraseDups]

/-- Keeping the first of each name keeps names that are all different. -/
theorem withoutRepeats_of_nodup {names : List String} (distinct : names.Nodup) :
    withoutRepeats names = names := by
  rw [withoutRepeats_eq_eraseDups]
  induction names with
  | nil => rfl
  | cons name rest inductionHypothesis =>
      obtain ⟨isNew, distinctRest⟩ := List.nodup_cons.1 distinct
      have unchanged : rest.filter (fun other => !other == name) = rest := by
        rw [List.filter_eq_self]
        intro other isOther
        simpa using ne_of_mem_of_not_mem isOther isNew
      rw [List.eraseDups_cons, unchanged, inductionHypothesis distinctRest]

theorem nodup_withoutRepeats (names : List String) : (withoutRepeats names).Nodup := by
  have ofKept : ∀ kept : List String, kept.Nodup →
      (names.foldl (fun kept name => if kept.contains name then kept else kept ++ [name])
        kept).Nodup := by
    induction names with
    | nil => exact fun _ distinct => distinct
    | cons name rest inductionHypothesis =>
        intro kept distinct
        rw [List.foldl_cons]
        apply inductionHypothesis
        split
        · exact distinct
        · rename_i isNew
          rw [List.contains_iff_mem] at isNew
          rw [← List.concat_eq_append]
          exact distinct.concat isNew
  exact ofKept [] List.nodup_nil

theorem mem_pathPlaceholders_of_mem_ofPath {path : String} {name : List Char} (named : name ≠ [])
    (member : .placeholder name ∈ PathPiece.ofPath path.toList) :
    String.ofList name ∈ pathPlaceholders path := by
  rw [pathPlaceholders, mem_withoutRepeats, List.mem_filterMap]
  refine ⟨.placeholder name, member, ?_⟩
  cases name with
  | nil => exact absurd rfl named
  | cons first rest => rfl

namespace Extraction

open Script (IsName)

variable {document : Document}

theorem isName_pathIdentifier (name : String) : IsName (pathIdentifier name).toList := by
  have ofName := Script.isName_identifier name
  simp only [pathIdentifier]
  split
  · rw [String.toList_append]
    exact ofName.append (by decide)
  · exact ofName

/-- The parameter for a placeholder has the shape of the first declared one with its name. -/
theorem value_placeholderParameter_eq (declared : List Parameter) (name : String) :
    (placeholderParameter document declared name).value =
      pathParameter name (((declared.find? (fun parameter => parameter.name = name)).map
        (fun parameter => (parameterShape document parameter).value)).getD
          (.primitive .string)) := by
  unfold placeholderParameter
  split <;> rename_i found <;> rw [found] <;> rfl

theorem value_placeholderParameter (declared : List Parameter) (name : String) :
    ∃ shape, (placeholderParameter document declared name).value = pathParameter name shape :=
  ⟨_, value_placeholderParameter_eq declared name⟩

theorem value_pathParameters (path : String) (declared : List Parameter) :
    (pathParameters document path declared).value =
      (pathPlaceholders path).map (fun name =>
        (placeholderParameter document declared name).value) ++
      (declared.filter (fun parameter => !(pathPlaceholders path).contains parameter.name)).map
        (fun parameter => (unplacedParameter document path parameter).value) := rfl

/-- Every path parameter has the identifier that its name leads to. -/
theorem exists_of_mem_pathParameters {path : String} {declared : List Parameter}
    {parameter : EndpointParameter}
    (member : parameter ∈ (pathParameters document path declared).value) :
    ∃ name shape, parameter = pathParameter name shape := by
  rw [value_pathParameters, List.mem_append] at member
  rcases member with placed | unplaced
  · obtain ⟨name, _, rfl⟩ := List.mem_map.1 placed
    exact ⟨name, value_placeholderParameter declared name⟩
  · obtain ⟨other, _, rfl⟩ := List.mem_map.1 unplaced
    exact ⟨other.name, _, rfl⟩

theorem exists_mem_pathParameters {path name : String} (declared : List Parameter)
    (isPlaceholder : name ∈ pathPlaceholders path) :
    ∃ parameter ∈ (pathParameters document path declared).value, parameter.name = name := by
  obtain ⟨shape, isValue⟩ := @value_placeholderParameter document declared name
  refine ⟨_, ?_, congrArg EndpointParameter.name isValue⟩
  rw [value_pathParameters]
  exact List.mem_append_left _ (List.mem_map_of_mem isPlaceholder)

end Extraction

namespace Document

variable {document : Document} {qualifier : String} {endpoint : Endpoint}

/-- An extracted endpoint is the endpoint of an operation, with new symbols. -/
theorem exists_of_mem_extract (member : endpoint ∈ (document.extract qualifier).endpoints) :
    ∃ entry newName, endpoint =
      ((Extraction.source document qualifier entry).value).renameSymbols newName := by
  rw [endpoints_extract] at member
  obtain ⟨source, isSource, rfl⟩ := List.mem_map.1 member
  obtain ⟨entry, _, rfl⟩ := List.mem_map.1 isSource
  exact ⟨entry, _, rfl⟩

theorem identifier_eq_of_mem (isEndpoint : endpoint ∈ (document.extract qualifier).endpoints)
    {parameter : EndpointParameter} (member : parameter ∈ endpoint.pathParameters) :
    parameter.identifier = Extraction.pathIdentifier parameter.name := by
  obtain ⟨entry, newName, rfl⟩ := exists_of_mem_extract isEndpoint
  obtain ⟨source, isSource, rfl⟩ := List.mem_map.1 member
  obtain ⟨name, shape, rfl⟩ := Extraction.exists_of_mem_pathParameters isSource
  rfl

theorem isName_identifier_of_mem (isEndpoint : endpoint ∈ (document.extract qualifier).endpoints)
    {parameter : EndpointParameter} (member : parameter ∈ endpoint.pathParameters) :
    Script.IsName parameter.identifier.toList := by
  rw [identifier_eq_of_mem isEndpoint member]
  exact Extraction.isName_pathIdentifier parameter.name

theorem exists_parameter_of_placeholder
    (isEndpoint : endpoint ∈ (document.extract qualifier).endpoints) {name : List Char}
    (named : name ≠ [])
    (member : .placeholder name ∈ PathPiece.ofPath endpoint.path.toList) :
    ∃ parameter ∈ endpoint.pathParameters, parameter.name = String.ofList name := by
  obtain ⟨entry, newName, rfl⟩ := exists_of_mem_extract isEndpoint
  obtain ⟨parameter, isParameter, isNamed⟩ := Extraction.exists_mem_pathParameters
    (Extraction.located "path"
      (Extraction.mergedParameters document entry.2.1 entry.2.2.2).value)
    (mem_pathPlaceholders_of_mem_ofPath named member)
  exact ⟨parameter.renameSymbols newName, List.mem_map_of_mem isParameter, isNamed⟩

end Document

end TypedClient
