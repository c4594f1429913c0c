import Mathlib.Data.List.Basic
import TypedClient.Script.File
import TypedClient.Text.Split

/-!
Contract: the lines of generated code.

Owns:
- `lines`, the lines of a text, which end where a line comment ends;
- that texts with a line end between them have their lines one after the other;
- `TypeAlias.lines`, a type with the comment in front of it on a line of its own, and that a type is
  written in these lines exactly if no line ends in its comment;
- the lines of a file of types.

Does not own: what the comments say.
-/

namespace TypedClient.Script

/-! ## Lines -/

/-- The characters that end a line, and with it a line comment. -/
def endsLine (character : Char) : Bool :=
  character = '\n' || character = '\r' || character = '\u2028' || character = '\u2029'

/-- The lines of a text. A carriage return with a line feed behind it ends two lines, the second of
which is empty. -/
def lines (text : String) : List String :=
  (Text.splitWhere endsLine text.toList).map String.ofList

/-- A text in which no line ends. -/
def IsLine (text : String) : Prop := ∀ character ∈ text.toList, endsLine character = false

instance (text : String) : Decidable (IsLine text) :=
  List.decidableBAll (fun character => endsLine character = false) text.toList

theorem isLine_append {before after : String} :
    IsLine (before ++ after) ↔ IsLine before ∧ IsLine after := by
  rw [IsLine, String.toList_append, List.forall_mem_append]
  rfl

theorem lines_append (before after : String) :
    lines (before ++ "\n" ++ after) = lines before ++ lines after := by
  have separated : (before ++ "\n" ++ after).toList = before.toList ++ '\n' :: after.toList := by
    rw [String.toList_append, String.toList_append, List.append_assoc]
    rfl
  rw [lines, separated, Text.splitWhere_append_separator rfl, List.map_append]
  rfl

/-- Behind a final line end stands an empty line. -/
theorem lines_lineEnd (text : String) : lines (text ++ "\n") = lines text ++ [""] := by
  have atEnd := lines_append text ""
  rwa [String.append_empty] at atEnd

theorem IsLine.lines_eq {text : String} (isLine : IsLine text) : lines text = [text] := by
  rw [lines, Text.splitWhere_of_plain isLine, List.map_singleton, String.ofList_toList]

theorem flatMap_lines_of_isLine {texts : List String} (areLines : ∀ text ∈ texts, IsLine text) :
    texts.flatMap lines = texts := by
  rw [List.flatMap_congr (fun text member => (areLines text member).lines_eq)]
  exact List.flatMap_singleton' texts

theorem isLine_of_mem_lines {text line : String} (member : line ∈ lines text) : IsLine line := by
  obtain ⟨part, isPart, rfl⟩ := List.mem_map.1 member
  rw [IsLine, String.toList_ofList]
  exact Text.not_isSeparator_of_mem_splitWhere isPart

/-- Texts that end in a line end each have their lines one after the other. -/
theorem lines_join (texts : List String) (after : String) :
    lines (String.join (texts.map (· ++ "\n")) ++ after) = texts.flatMap lines ++ lines after := by
  induction texts with
  | nil => rw [List.map_nil, String.join_nil, String.empty_append, List.flatMap_nil, List.nil_append]
  | cons text rest inductionHypothesis =>
      rw [List.map_cons, String.join_cons, String.append_assoc, lines_append, inductionHypothesis,
        List.flatMap_cons, List.append_assoc]

/-- Texts that end in a line end each, put together with a further line end between them, have an
empty line there, and one behind the last. -/
theorem lines_intercalate (texts : List String) :
    lines ("\n".intercalate (texts.map (· ++ "\n"))) = [""].intercalate (texts.map lines) ++ [""] := by
  induction texts with
  | nil => rfl
  | cons text rest inductionHypothesis =>
      rw [List.map_cons, List.map_cons]
      cases rest with
      | nil =>
          rw [List.map_nil, List.map_nil, String.intercalate_singleton, List.intercalate_singleton]
          exact lines_lineEnd text
      | cons next more =>
          have several : (next :: more).map (· ++ "\n") ≠ [] := List.cons_ne_nil _ _
          have others : (next :: more).map lines ≠ [] := List.cons_ne_nil _ _
          rw [String.intercalate_cons_of_ne_nil several, lines_append, lines_lineEnd,
            inductionHypothesis, List.intercalate_cons_of_ne_nil others, List.append_assoc,
            List.append_assoc, List.append_assoc]

/-- A line comment is a line if its text is. -/
theorem isLine_comment_iff {text : String} : IsLine ("// " ++ text) ↔ IsLine text := by
  have opening : IsLine "// " := by decide
  rw [isLine_append, and_iff_right opening]

theorem opens_comment (text : String) : "//".toList <+: ("// " ++ text).toList := by
  rw [String.toList_append]
  exact ⟨' ' :: text.toList, rfl⟩

/-! ## Types -/

namespace TypeAlias

/-- The declaration of a type, without the line end behind it. -/
def statement (alias_ : TypeAlias) : String :=
  "export type " ++ alias_.name ++ " = " ++ alias_.type ++ ";"

/-- The comment in front of a type, as far as it has one. -/
def commentLines (alias_ : TypeAlias) : List String :=
  alias_.comment.toList.map ("// " ++ ·)

/-- The lines that a type with its comment is meant to have. -/
def lines (alias_ : TypeAlias) : List String :=
  alias_.commentLines ++ Script.lines alias_.statement

/-- A type with its comment, without the line end behind it. -/
def body (alias_ : TypeAlias) : String :=
  String.join (alias_.commentLines.map (· ++ "\n")) ++ alias_.statement

theorem render_eq (alias_ : TypeAlias) : alias_.render = alias_.body ++ "\n" := by
  have ending : ";\n" = ";" ++ "\n" := rfl
  rcases alias_ with ⟨name, type, _ | comment⟩ <;>
    simp only [render, body, commentLines, statement, ending, Option.toList_none,
      Option.toList_some, List.map_cons, List.map_nil, String.join_cons, String.join_nil,
      String.append_empty, String.empty_append, String.append_assoc]

theorem commentLines_of_eq {alias_ : TypeAlias} {comment : String}
    (isComment : alias_.comment = some comment) : alias_.commentLines = ["// " ++ comment] := by
  rw [commentLines, isComment]
  rfl

theorem lines_body_of_isLine {alias_ : TypeAlias}
    (areLines : ∀ line ∈ alias_.commentLines, IsLine line) :
    Script.lines alias_.body = alias_.lines := by
  rw [body, lines_join, lines, flatMap_lines_of_isLine areLines]

end TypeAlias

/-! ## Files of types -/

/-- A line of the comment at the top of a file, without the line end behind it. -/
def headerLine (line : String) : String := if line.isEmpty then "//" else "// " ++ line

theorem isLine_headerLine {line : String} (isLine : IsLine line) : IsLine (headerLine line) := by
  unfold headerLine
  split
  · decide
  · exact isLine_comment_iff.2 isLine

theorem opens_headerLine (line : String) : "//".toList <+: (headerLine line).toList := by
  unfold headerLine
  split
  · exact List.prefix_rfl
  · exact opens_comment line

theorem renderHeaderLine_eq (line : String) : renderHeaderLine line = headerLine line ++ "\n" := by
  unfold renderHeaderLine headerLine
  split <;> rfl

/-- The lines that a file of types is meant to have: the comment at its top, and behind an empty
line each type with its comment. -/
def layout (header : List String) (aliases : List TypeAlias) : List String :=
  header.map headerLine ++ [""] ++ [""].intercalate (aliases.map TypeAlias.lines) ++ [""]

theorem lines_render {header : List String} (nonempty : header ≠ []) (aliases : List TypeAlias) :
    lines ({ header, items := aliases.map TypeAlias.render : File }).render =
      (header.map headerLine).flatMap lines ++ [""] ++
        [""].intercalate (aliases.map (fun alias_ => lines alias_.body)) ++ [""] := by
  have hasHeader : header.isEmpty = false := by simpa using nonempty
  have headerText : header.map renderHeaderLine = (header.map headerLine).map (· ++ "\n") := by
    rw [List.map_map]
    exact List.map_congr_left (fun line _ => renderHeaderLine_eq line)
  have items : aliases.map TypeAlias.render = (aliases.map TypeAlias.body).map (· ++ "\n") := by
    rw [List.map_map]
    exact List.map_congr_left (fun alias_ _ => alias_.render_eq)
  have text : ({ header, items := aliases.map TypeAlias.render : File }).render =
      String.join ((header.map headerLine).map (· ++ "\n")) ++
        ("" ++ "\n" ++ "\n".intercalate ((aliases.map TypeAlias.body).map (· ++ "\n"))) := by
    rw [← headerText, ← items]
    simp [File.render, hasHeader, String.append_assoc]
  rw [text, lines_join, lines_append, lines_intercalate, List.map_map]
  have blank : lines "" = [""] := rfl
  rw [blank, List.append_assoc, List.append_assoc]
  rfl

/-- A file of types has its layout exactly if the comment of each type is a line. -/
theorem lines_render_eq_layout_iff {header : List String} (nonempty : header ≠ [])
    (headerLines : ∀ line ∈ header, IsLine line) (aliases : List TypeAlias) :
    lines ({ header, items := aliases.map TypeAlias.render : File }).render =
        layout header aliases ↔
      ∀ alias_ ∈ aliases, ∀ line ∈ alias_.commentLines, IsLine line := by
  constructor
  · intro hasLayout alias_ isAlias line isComment
    have inAlias : line ∈ alias_.lines := List.mem_append_left _ isComment
    have inLayout : line ∈ layout header aliases :=
      List.mem_append_left _ (List.mem_append_right _
        (Text.mem_intercalate_of_mem (List.mem_map_of_mem isAlias) inAlias))
    rw [← hasLayout] at inLayout
    exact isLine_of_mem_lines inLayout
  · intro areLines
    have ofHeader : ∀ line ∈ header.map headerLine, IsLine line :=
      List.forall_mem_map.2 (fun line member => isLine_headerLine (headerLines line member))
    have ofAliases : aliases.map (fun alias_ => lines alias_.body) =
        aliases.map TypeAlias.lines :=
      List.map_congr_left (fun alias_ isAlias =>
        TypeAlias.lines_body_of_isLine (areLines alias_ isAlias))
    rw [lines_render nonempty, flatMap_lines_of_isLine ofHeader, ofAliases, layout]

/-- Whether a line is empty, a comment, or part of the declaration of one of some types. -/
def IsAccountedFor (aliases : List TypeAlias) (line : String) : Prop :=
  line = "" ∨ "//".toList <+: line.toList ∨ ∃ alias_ ∈ aliases, line ∈ lines alias_.statement

instance (aliases : List TypeAlias) (line : String) : Decidable (IsAccountedFor aliases line) :=
  inferInstanceAs (Decidable (_ ∨ _ ∨ _))

/-- Every line of a layout is accounted for. -/
theorem isAccountedFor_of_mem_layout {header : List String} {aliases : List TypeAlias}
    {line : String} (member : line ∈ layout header aliases) : IsAccountedFor aliases line := by
  rw [layout, List.mem_append, List.mem_append, List.mem_append, List.mem_singleton] at member
  rcases member with ((inHeader | blank) | inTypes) | blank
  · obtain ⟨text, _, rfl⟩ := List.mem_map.1 inHeader
    exact Or.inr (Or.inl (opens_headerLine text))
  · exact Or.inl blank
  · obtain between | ⟨part, isPart, inPart⟩ := Text.mem_intercalate inTypes
    · exact Or.inl between
    · obtain ⟨alias_, isAlias, rfl⟩ := List.mem_map.1 isPart
      rcases List.mem_append.1 inPart with isComment | inStatement
      · obtain ⟨comment, _, rfl⟩ := List.mem_map.1 isComment
        exact Or.inr (Or.inl (opens_comment comment))
      · exact Or.inr (Or.inr ⟨alias_, isAlias, inStatement⟩)
  · exact Or.inl blank

end TypedClient.Script
