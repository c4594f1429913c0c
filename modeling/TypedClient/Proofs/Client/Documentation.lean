import Mathlib.Data.List.TakeWhile
import TypedClient.Client.Requests
import TypedClient.Proofs.Script.BlockComment

/-!
Contract: the comment in front of a request function.

Owns:
- `Trims`, that a text is another one without the blanks at its ends;
- `saidLines`, the lines of a summary that say something;
- that the comment holds these lines, trimmed, and closes at its end and nowhere else, whatever the
  summary says.

Does not own: the code behind the comment.
-/

namespace TypedClient

open Text (isBlank splitWhere trim)

/-! ## Trimming -/

/-- A text is another one without the blanks at its ends. -/
def Text.Trims (text kept : List Char) : Prop :=
  ∃ front back, text = front ++ kept ++ back ∧
    (∀ character ∈ front ++ back, isBlank character = true) ∧
    (∀ character ∈ kept.head?, isBlank character = false) ∧
    ∀ character ∈ kept.getLast?, isBlank character = false

theorem Text.not_isBlank_head?_dropWhile (text : List Char) :
    ∀ character ∈ (text.dropWhile isBlank).head?, isBlank character = false := by
  intro character isFirst
  have stops := List.head?_dropWhile_not isBlank text
  rw [Option.mem_def] at isFirst
  rwa [isFirst] at stops

theorem Text.trims_trim (text : List Char) : Trims text (trim text) := by
  let behind := text.dropWhile isBlank
  have isTrim : trim text = (behind.reverse.dropWhile isBlank).reverse := rfl
  have isBehind : behind = trim text ++ (behind.reverse.takeWhile isBlank).reverse := by
    rw [isTrim, ← List.reverse_append, List.takeWhile_append_dropWhile, List.reverse_reverse]
  refine ⟨text.takeWhile isBlank, (behind.reverse.takeWhile isBlank).reverse, ?_, ?_, ?_, ?_⟩
  · rw [List.append_assoc, ← isBehind]
    exact (List.takeWhile_append_dropWhile).symm
  · intro character member
    rcases List.mem_append.1 member with inFront | inBack
    · exact List.mem_takeWhile_imp inFront
    · exact List.mem_takeWhile_imp (List.mem_reverse.1 inBack)
  · intro character isFirst
    apply not_isBlank_head?_dropWhile text
    show character ∈ behind.head?
    rw [isBehind, List.head?_append, Option.mem_def.1 isFirst]
    rfl
  · intro character isLast
    rw [isTrim, List.getLast?_reverse] at isLast
    exact not_isBlank_head?_dropWhile _ character isLast

/-- Nothing is left of a text exactly if all of it is blank. -/
theorem Text.Trims.eq_nil_iff {text kept : List Char} (trims : Trims text kept) :
    kept = [] ↔ ∀ character ∈ text, isBlank character = true := by
  obtain ⟨front, back, rfl, blank, starts, _⟩ := trims
  constructor
  · rintro rfl
    rwa [List.append_nil]
  · intro allBlank
    cases kept with
    | nil => rfl
    | cons first rest =>
        have isFirst := starts first rfl
        rw [allBlank first (by simp)] at isFirst
        cases isFirst

namespace Client

open Script (BreaksUp IsBlockComment isLineFeed renderComment)

variable (endpoint : Endpoint)

/-! ## What a comment says -/

/-- The lines of the summary of an endpoint that are not blank. -/
def saidLines : List (List Char) :=
  (splitWhere isLineFeed (endpoint.summary.getD "").toList).filter (fun line =>
    line.any (fun character => !isBlank character))

/-- The last line of the comment, if the operation is deprecated. -/
def deprecation : List (List Char) :=
  if endpoint.deprecated then ["@deprecated".toList] else []

/-- The comment of the request function. -/
def documentation : String := renderComment (requestFunction endpoint).comment

/-- The request function without its comment. -/
def undocumented : Script.Function := { requestFunction endpoint with comment := [] }

theorem commentLines_eq :
    commentLines endpoint =
      ((saidLines endpoint).map trim ++ deprecation endpoint).map String.ofList := by
  have said : ∀ line : List Char,
      (!(trim line).isEmpty) = line.any (fun character => !isBlank character) := by
    intro line
    have leaves := (Text.trims_trim line).eq_nil_iff
    rw [Bool.eq_iff_iff, Bool.not_eq_true', List.isEmpty_eq_false_iff, ne_eq, leaves,
      List.any_eq_true]
    simp
  have ofSummary : ((splitWhere isLineFeed (endpoint.summary.getD "").toList).map trim).filter
      (fun line => !line.isEmpty) = (saidLines endpoint).map trim := by
    rw [List.filter_map, saidLines]
    congr 2
    exact funext said
  have ofDeprecation : (if endpoint.deprecated then ["@deprecated"] else []) =
      (deprecation endpoint).map String.ofList := by
    rw [deprecation]
    split <;> rfl
  rw [List.map_append, ← ofSummary, ← ofDeprecation]
  rfl

/-- No line feed stands in a line of the comment. -/
theorem lineFeed_not_mem : ∀ text ∈ (saidLines endpoint).map trim ++ deprecation endpoint,
    '\n' ∉ text := by
  intro text member lineFeed
  rcases List.mem_append.1 member with ofSummary | ofDeprecation
  · obtain ⟨line, isLine, rfl⟩ := List.mem_map.1 ofSummary
    obtain ⟨front, back, isWhole, _⟩ := Text.trims_trim line
    have inLine : '\n' ∈ line := by
      rw [isWhole]
      exact List.mem_append_left _ (List.mem_append_right _ lineFeed)
    have noBreak := Text.not_isSeparator_of_mem_splitWhere (List.mem_filter.1 isLine).1 '\n' inLine
    exact absurd noBreak (by decide)
  · rw [deprecation] at ofDeprecation
    split at ofDeprecation
    · rw [List.mem_singleton.1 ofDeprecation] at lineFeed
      exact absurd lineFeed (by decide)
    · exact absurd ofDeprecation List.not_mem_nil

/-- **No summary gets out of its comment.** A request function is its comment with the function as it
would be without one behind it. The comment is empty if no line of the summary says anything and the
operation is not deprecated. Otherwise it has one line for each line that says something, trimmed,
and one for the deprecation, and what closes a comment stands in it once, at its end: reading on
from there starts with the code of the function. -/
theorem comment_closes_at_its_end :
    (requestFunction endpoint).render =
        documentation endpoint ++ (undocumented endpoint).render ∧
    ((saidLines endpoint = [] ∧ endpoint.deprecated = false ∧ documentation endpoint = "") ∨
      ((saidLines endpoint ≠ [] ∨ endpoint.deprecated = true) ∧ ∃ texts,
        List.Forall₂ Text.Trims (saidLines endpoint) texts ∧
        IsBlockComment (texts ++ deprecation endpoint) (documentation endpoint).toList)) := by
  have isComment : documentation endpoint = renderComment
      (((saidLines endpoint).map trim ++ deprecation endpoint).map String.ofList) :=
    congrArg renderComment (commentLines_eq endpoint)
  refine ⟨(requestFunction endpoint).render_eq, ?_⟩
  by_cases silent : saidLines endpoint = [] ∧ endpoint.deprecated = false
  · obtain ⟨noLine, notDeprecated⟩ := silent
    refine Or.inl ⟨noLine, notDeprecated, ?_⟩
    rw [isComment, noLine, deprecation, notDeprecated]
    rfl
  · rw [not_and_or, Bool.not_eq_false] at silent
    have documented : (saidLines endpoint).map trim ++ deprecation endpoint ≠ [] := by
      intro empty
      rw [List.append_eq_nil_iff, List.map_eq_nil_iff] at empty
      rcases silent with saysSomething | isDeprecated
      · exact saysSomething empty.1
      · rw [deprecation, if_pos isDeprecated] at empty
        cases empty.2
    refine Or.inr ⟨silent, (saidLines endpoint).map trim, ?_, ?_⟩
    · rw [List.forall₂_map_right_iff]
      exact List.forall₂_same.2 (fun line _ => Text.trims_trim line)
    · rw [isComment]
      exact Script.isBlockComment_renderComment documented (lineFeed_not_mem endpoint)

end Client

end TypedClient
